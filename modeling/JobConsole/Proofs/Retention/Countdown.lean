import JobConsole.Proofs.Retention.Exact
import JobConsole.Proofs.Time.Line

/-!
# Transitions and countdowns on the time line

A countdown is pending exactly when the present is before the instant of the transition.
What it carries is the time that is left, or that has passed since.  Leap seconds do not
count as time of their own, which shows in one place: the second at the end of a day and
the first one of the next day overlap, and a countdown from one to the other may carry
less than nothing.

Outside leap seconds all is exact: a transition is as far behind the last change of state
as the policy says, if the calendar reaches so far, and a countdown carries the difference
between the length of the policy and the time since this change.
-/

namespace JobConsole.Retention

open JobConsole.Time

namespace Countdown

theorem between_eq_pending_iff {target now : Instant} {remaining : Span} :
    between target now = .pending remaining ↔
      now.place < target.place ∧ target.since now = remaining := by
  rw [← Instant.isBefore_iff_place_lt]
  unfold between
  cases now.isBefore target with
  | false => simp
  | true => simp

theorem between_eq_reached_iff {target now : Instant} {ago : Span} :
    between target now = .reached ago ↔
      target.place ≤ now.place ∧ now.since target = ago := by
  rw [← Instant.isBefore_eq_false_iff]
  unfold between
  cases now.isBefore target with
  | false => simp
  | true => simp

end Countdown

/-- A countdown is pending exactly when the present is before its instant.  Some time is
left then, unless the present lies inside the leap second at the end of a day, and the
instant in the first second of the next day and no farther inside it.  Otherwise no time is
taken back, unless the instant lies inside the leap second at the end of a day, and the
present in the first second of the next day and less far inside it.  Never more than a
second is missing. -/
theorem countdown_sign (target now : Instant) :
    ((∃ remaining, Countdown.between target now = .pending remaining) ↔
        now.place < target.place) ∧
      (∀ remaining, Countdown.between target now = .pending remaining →
        (0 < remaining.nanos ↔ ¬ (Instant.AcrossLeap now target ∧
          target.nano + Span.nanosPerSecond ≤ now.nano)) ∧
        -(Span.nanosPerSecond : Int) < remaining.nanos) ∧
      ∀ ago, Countdown.between target now = .reached ago →
        (0 ≤ ago.nanos ↔ ¬ (Instant.AcrossLeap target now ∧
          now.nano + Span.nanosPerSecond < target.nano)) ∧
        -(Span.nanosPerSecond : Int) < ago.nanos := by
  refine ⟨?_, ?_, ?_⟩
  · simp only [Countdown.between_eq_pending_iff, exists_and_left, exists_eq', and_true]
  · intro remaining pending
    obtain ⟨before, rfl⟩ := Countdown.between_eq_pending_iff.mp pending
    refine ⟨?_, Instant.neg_second_lt_nanos_since (Int.le_of_lt before)⟩
    by_cases across : Instant.AcrossLeap now target
    · simp only [across, across.nanos_since, true_and]
      omega
    · simp only [across, false_and, not_false_eq_true, iff_true]
      exact Instant.nanos_since_pos before across
  · intro ago reached
    obtain ⟨notBefore, rfl⟩ := Countdown.between_eq_reached_iff.mp reached
    refine ⟨?_, Instant.neg_second_lt_nanos_since notBefore⟩
    by_cases across : Instant.AcrossLeap target now
    · simp only [across, across.nanos_since, true_and]
      omega
    · simp only [across, false_and, not_false_eq_true, iff_true]
      exact Instant.nanos_since_nonneg notBefore across

/-- Half a leap second before the end of a day, a countdown to this end is pending with
less than nothing left; and a countdown to that point, reached at the end of the day,
takes time back. -/
theorem countdown_across_leap :
    ∃ midnight leap, Instant.ofText? "2017-01-01T00:00:00Z" = some midnight ∧
      Instant.ofText? "2016-12-31T23:59:60.5Z" = some leap ∧ leap.place < midnight.place ∧
        Countdown.between midnight leap = .pending ⟨-500000000⟩ ∧
          Countdown.between leap midnight = .reached ⟨-500000000⟩ := by
  refine ⟨⟨17167, 0, 0, by decide⟩, ⟨17166, 86399, 1500000000, by decide⟩, ?_, ?_, ?_, ?_, ?_⟩
  all_goals decide +kernel

/-! ## Outside leap seconds -/

namespace Policy

theorem disabled_or_activeFor_of_parse {setting : Setting} {policy : Policy}
    (parsed : parse setting = .ok policy) :
    policy = .disabled ∨ ∃ span : Span, policy = .activeFor span ∧ 0 < span.nanos := by
  obtain ⟨millis, rfl⟩ : ∃ millis, ofMillis millis = policy := by
    cases setting with
    | seconds count => exact ⟨_, Except.ok.inj parsed⟩
    | text expression =>
        obtain ⟨millis, -, same⟩ := parse_text_eq_ok_iff.mp parsed
        exact ⟨millis, same⟩
  rcases Int.lt_or_le 0 millis with positive | notPositive
  · refine .inr ⟨Span.ofMillis millis, ofMillis_eq_activeFor_iff.mpr ⟨positive, rfl⟩, ?_⟩
    simp only [Span.ofMillis, Span.nanosPerMilli]
    omega
  · exact .inl (ofMillis_eq_disabled_iff.mpr notPositive)

end Policy

namespace Countdown

/-- Outside leap seconds a countdown carries the difference of the positions. -/
theorem between_of_positions {target now : Instant} (targetPlain : target.isLeap = false)
    (nowPlain : now.isLeap = false) :
    between target now =
      if now.position < target.position then .pending ⟨target.position - now.position⟩
      else .reached ⟨now.position - target.position⟩ := by
  have remaining : target.since now = ⟨target.position - now.position⟩ :=
    congrArg Span.mk (Instant.nanos_since targetPlain nowPlain)
  have ago : now.since target = ⟨now.position - target.position⟩ :=
    congrArg Span.mk (Instant.nanos_since nowPlain targetPlain)
  simp only [between, Instant.isBefore_iff_position_lt nowPlain targetPlain, remaining, ago]

/-- Between the ends of two spans from one instant lies their difference. -/
theorem between_of_add? {last target now : Instant} (plain : last.isLeap = false)
    {span elapsed : Span} (leads : last.add? span = some target)
    (comes : last.add? elapsed = some now) :
    between target now =
      if elapsed.nanos < span.nanos then .pending ⟨span.nanos - elapsed.nanos⟩
      else .reached ⟨elapsed.nanos - span.nanos⟩ := by
  obtain ⟨targetPlain, targetPosition⟩ := (Instant.add?_eq_some_iff plain).mp leads
  obtain ⟨nowPlain, nowPosition⟩ := (Instant.add?_eq_some_iff plain).mp comes
  rw [between_of_positions targetPlain nowPlain, targetPosition, nowPosition,
    Int.add_sub_add_left, Int.add_sub_add_left]
  simp only [Int.add_lt_add_iff_left]

end Countdown

/-- A policy that comes of a setting has no transition exactly when it is disabled or leads
beyond the calendar.  Otherwise the transition is as far behind the last change of state
as the policy says.  After any time that has passed since this change, if the calendar
reaches so far, the countdown is pending with what is left of the length of the policy, or
the transition was as long ago as the time is longer. -/
theorem transition_on_time_line {setting : Setting} {policy : Policy}
    (parsed : Policy.parse setting = .ok policy) {last : Instant} (plain : last.isLeap = false) :
    Instant.ofText? "+262142-12-31T23:59:59.999999999Z" = some Instant.latest ∧
      (policy.transitionInstant? last = none ↔ policy = .disabled ∨
        ∃ span, policy = .activeFor span ∧
          Instant.latest.position < last.position + span.nanos) ∧
      ∀ target, policy.transitionInstant? last = some target →
        ∃ span, policy = .activeFor span ∧ target.position = last.position + span.nanos ∧
          ∀ elapsed : Span, 0 ≤ elapsed.nanos →
            ((∃ now, last.add? elapsed = some now) ↔
              last.position + elapsed.nanos ≤ Instant.latest.position) ∧
            ∀ now, last.add? elapsed = some now →
              now.position = last.position + elapsed.nanos ∧
                (elapsed.nanos < span.nanos →
                  Countdown.between target now = .pending ⟨span.nanos - elapsed.nanos⟩) ∧
                (span.nanos ≤ elapsed.nanos →
                  Countdown.between target now = .reached ⟨elapsed.nanos - span.nanos⟩) := by
  refine ⟨Instant.ofText?_latest, ?_⟩
  rcases Policy.disabled_or_activeFor_of_parse parsed with rfl | ⟨span, rfl, positive⟩
  · constructor
    · simp only [Policy.transitionInstant?, true_or]
    · intro target impossible
      cases impossible
  · constructor
    · rw [Policy.transitionInstant?, Instant.add?_eq_none_iff plain (Int.le_of_lt positive)]
      simp
    · intro target leads
      refine ⟨span, rfl, ((Instant.add?_eq_some_iff plain).mp leads).2, ?_⟩
      intro elapsed forward
      constructor
      · rw [← Option.isSome_iff_exists, ← Option.ne_none_iff_isSome, Ne,
          Instant.add?_eq_none_iff plain forward, Int.not_lt]
      · intro now comes
        have between := Countdown.between_of_add? plain leads comes
        refine ⟨((Instant.add?_eq_some_iff plain).mp comes).2, ?_, ?_⟩
        · intro early
          rw [between, if_pos early]
        · intro late
          rw [between, if_neg (Int.not_lt.mpr late)]

/-- A day and a half over the end of February, a quarter of a second before it has
passed. -/
theorem transition_over_leap_day :
    ∃ last now target, Instant.ofText? "2024-02-28T12:00:00.25Z" = some last ∧
      Instant.ofText? "2024-03-01T00:00:00Z" = some now ∧
      Instant.ofText? "2024-03-01T00:00:00.25Z" = some target ∧
      Policy.parse (.text "P1DT12H") = .ok (.activeFor ⟨129600000000000⟩) ∧
      last.isLeap = false ∧
      (Policy.activeFor ⟨129600000000000⟩).transitionInstant? last = some target ∧
      last.add? ⟨129599750000000⟩ = some now ∧
      Countdown.between target now = .pending ⟨250000000⟩ := by
  have parsed : Policy.parse (.text "P1DT12H") = .ok (.activeFor ⟨129600000000000⟩) := by
    decide +kernel
  have leads : (Policy.activeFor ⟨129600000000000⟩).transitionInstant?
      ⟨19781, 43200, 250000000, by decide⟩ = some ⟨19783, 0, 250000000, by decide⟩ := by
    decide +kernel
  have comes : Instant.add? ⟨19781, 43200, 250000000, by decide⟩ ⟨129599750000000⟩ =
      some ⟨19783, 0, 0, by decide⟩ := by
    decide +kernel
  obtain ⟨-, -, onLine⟩ := transition_on_time_line parsed
    (show Instant.isLeap ⟨19781, 43200, 250000000, by decide⟩ = false from rfl)
  obtain ⟨_, ⟨rfl⟩, -, counts⟩ := onLine _ leads
  have pending := ((counts ⟨129599750000000⟩ (by decide)).2 _ comes).2.1 (by decide)
  refine ⟨_, _, _, ?_, ?_, ?_, parsed, rfl, leads, comes, pending⟩
  all_goals decide +kernel

end JobConsole.Retention
