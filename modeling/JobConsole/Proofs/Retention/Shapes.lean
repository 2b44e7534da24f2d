import JobConsole.Proofs.Notice
import JobConsole.Proofs.Retention.Range
import JobConsole.Proofs.Time.Line
import JobConsole.Proofs.Time.Reading

/-!
# The two shapes of a setting

A setting may give its length as a number of seconds or as an expression.  A number that is
too large is cut off at the greatest span, while an expression that is too large cannot be
read, so the two shapes of one length may stand for different things.  They lead to the
same change of state all the same: the greatest span leads beyond the calendar from any of
its instants.
-/

namespace JobConsole.Retention

open JobConsole.Number JobConsole.Text JobConsole.Time

/-! ## Expressions of whole seconds -/

/-- The number with the digits of an integer. -/
def Component.ofInt (i : Int) : Component :=
  ⟨decide (i < 0), Text.digits i.natAbs⟩

@[simp]
theorem Component.value_ofInt (i : Int) : (Component.ofInt i).value = i := by
  simp only [Component.value, Component.ofInt, readDigits_digits, decide_eq_true_eq]
  split <;> omega

theorem isNumber_intDigits (i : Int) : IsNumber (.ofInt i) (intDigits i) := by
  have areDigits : ∀ c ∈ digits i.natAbs, isDigit c = true := fun _ => isDigit_of_mem_digits
  by_cases negative : i < 0
  · refine ⟨['-'], ?_, ?_, digits_ne_nil _, areDigits⟩
    · simp only [Component.ofInt, negative, decide_true]
      exact .minus
    · simp only [intDigits, negative, if_true]
      rfl
  · refine ⟨[], ?_, ?_, digits_ne_nil _, areDigits⟩
    · simp only [Component.ofInt, negative, decide_false]
      exact .absent
    · simp only [intDigits, negative, if_false]
      rfl

theorem intDigits_natCast (n : Nat) : intDigits n = digits n :=
  if_neg (Int.not_lt.mpr (Int.natCast_nonneg n))

theorem isBlank_of_mem_intDigits {i : Int} {c : Char} (member : c ∈ intDigits i) :
    isBlank c = false := by
  unfold intDigits at member
  split at member
  · rcases List.mem_cons.mp member with rfl | digit
    · rfl
    · exact isBlank_of_isDigit (isDigit_of_mem_digits digit)
  · exact isBlank_of_isDigit (isDigit_of_mem_digits member)

theorem trim_eq_self {text : List Char} (solid : ∀ c ∈ text, isBlank c = false) :
    trim text = text := by
  have keeps (shown : List Char) (solid : ∀ c ∈ shown, isBlank c = false) :
      shown.dropWhile isBlank = shown := by
    cases shown with
    | nil => rfl
    | cons c rest => exact List.dropWhile_cons_of_neg (by simp [solid c List.mem_cons_self])
  rw [trim, trimStart, keeps text solid, trimEnd,
    keeps text.reverse fun c member => solid c (List.mem_reverse.mp member), List.reverse_reverse]

namespace Expression

/-- An expression of whole numbers. -/
def ofInts (days hours minutes seconds : Option Int) : Expression :=
  ⟨false, days.map .ofInt, hours.map .ofInt, minutes.map .ofInt, seconds.map .ofInt, []⟩

theorem amount_map_ofInt (i : Option Int) : amount (i.map .ofInt) = i.getD 0 := by
  cases i with
  | none => rfl
  | some i => exact Component.value_ofInt i

theorem parts_ofInts (days hours minutes seconds : Option Int) :
    (ofInts days hours minutes seconds).parts =
      [days.getD 0, hours.getD 0, minutes.getD 0, seconds.getD 0, 0] := by
  have noFraction : (ofInts days hours minutes seconds).thousandths = 0 := rfl
  rw [parts, noFraction, Nat.cast_zero, Int.mul_zero]
  simp only [ofInts, amount_map_ofInt]

theorem exactMillis_ofInts (days hours minutes seconds : Option Int) :
    (ofInts days hours minutes seconds).exactMillis =
      1000 *
        (86400 * days.getD 0 + 3600 * hours.getD 0 + 60 * minutes.getD 0 + seconds.getD 0) := by
  have noFraction : (ofInts days hours minutes seconds).thousandths = 0 := rfl
  have plain : signFactor (ofInts days hours minutes seconds).negative = 1 := rfl
  rw [exactMillis, noFraction, plain]
  simp only [ofInts, amount_map_ofInt]
  omega

end Expression

/-- The text of a number of units, if there is one. -/
def unitChars (unit : Char) : Option Int → List Char
  | none => []
  | some i => intDigits i ++ [unit]

/-- The text of an expression of whole numbers with a time part. -/
def wholeChars (days hours minutes seconds : Option Int) : List Char :=
  'P' :: (unitChars 'D' days ++
    'T' :: (unitChars 'H' hours ++ unitChars 'M' minutes ++ unitChars 'S' seconds))

theorem optionally_unitChars {unit : Char} (form : unit ∈ forms unit) (i : Option Int) :
    Optionally (IsUnit unit) (i.map .ofInt) (unitChars unit i) := by
  cases i with
  | none => exact .absent
  | some i => exact .present ⟨intDigits i, isNumber_intDigits i, unit, form, rfl⟩

theorem isSeconds_unitChars (i : Option Int) :
    IsSeconds (i.map .ofInt) [] (unitChars 'S' i) := by
  cases i with
  | none => exact .absent
  | some i =>
      have isSeconds : IsSeconds (some (.ofInt i)) [] (intDigits i ++ [] ++ ['S']) :=
        .present (isNumber_intDigits i) .absent (by decide)
      rw [List.append_nil] at isSeconds
      exact isSeconds

theorem isExpression_wholeChars {days hours minutes seconds : Option Int}
    (filled : hours.isSome ∨ minutes.isSome ∨ seconds.isSome) :
    IsExpression (.ofInts days hours minutes seconds) (wholeChars days hours minutes seconds) := by
  refine ⟨[], 'P', unitChars 'D' days, _, rfl, .absent, by decide,
    optionally_unitChars (by decide) days, ?_, .inr (List.cons_ne_nil 'T' _)⟩
  apply IsTime.present (by decide)
  · exact optionally_unitChars (by decide) hours
  · exact optionally_unitChars (by decide) minutes
  · exact isSeconds_unitChars seconds
  · simpa only [Expression.ofInts, Option.isSome_map] using filled

theorem isBlank_of_mem_unitChars {unit : Char} (solid : isBlank unit = false) (i : Option Int) :
    ∀ c ∈ unitChars unit i, isBlank c = false := by
  cases i with
  | none => exact fun c member => absurd member List.not_mem_nil
  | some i =>
      intro c member
      rcases List.mem_append.mp member with digit | last
      · exact isBlank_of_mem_intDigits digit
      · rw [List.mem_singleton.mp last]
        exact solid

theorem trim_wholeChars (days hours minutes seconds : Option Int) :
    trim (wholeChars days hours minutes seconds) = wholeChars days hours minutes seconds := by
  apply trim_eq_self
  simp only [wholeChars, List.forall_mem_cons, List.forall_mem_append]
  exact ⟨rfl, isBlank_of_mem_unitChars rfl days, rfl, ⟨isBlank_of_mem_unitChars rfl hours,
    isBlank_of_mem_unitChars rfl minutes⟩, isBlank_of_mem_unitChars rfl seconds⟩

/-- A length in days, hours, minutes and seconds as an expression. -/
def partsText (days hours minutes seconds : Nat) : String :=
  "P" ++ natText days ++ "DT" ++ natText hours ++ "H" ++ natText minutes ++ "M" ++
    natText seconds ++ "S"

/-- A number of seconds as an expression. -/
def secondsText (count : Int) : String :=
  "PT" ++ intText count ++ "S"

theorem toList_partsText (days hours minutes seconds : Nat) :
    (partsText days hours minutes seconds).toList =
      wholeChars (some days) (some hours) (some minutes) (some seconds) := by
  simp [partsText, natText, wholeChars, unitChars, intDigits_natCast]

theorem toList_secondsText (count : Int) :
    (secondsText count).toList = wholeChars none none none (some count) := by
  simp [secondsText, intText, wholeChars, unitChars]

/-- An expression that gives a number of seconds. -/
inductive Writes : Int → String → Prop
  | parts (days hours minutes seconds : Nat) :
      Writes (86400 * days + 3600 * hours + 60 * minutes + seconds)
        (partsText days hours minutes seconds)
  | seconds (count : Int) : Writes count (secondsText count)

/-- An expression of whole seconds is out of range exactly when its milliseconds are beyond
the bound. -/
theorem Writes.parseMillis_eq {count : Int} {text : String} (writes : Writes count text) :
    parseMillis text =
      if ((1000 * count).natAbs : Int) ≤ Expression.bound then .ok (1000 * count)
      else .error (.overflow text) := by
  obtain ⟨expression, isExpression, oneSign, value⟩ : ∃ expression,
      IsExpression expression (trim text.toList) ∧ expression.OneSign ∧
        expression.exactMillis = 1000 * count := by
    cases writes with
    | parts days hours minutes seconds =>
        rw [toList_partsText, trim_wholeChars]
        refine ⟨_, isExpression_wholeChars (.inl rfl), .inl ?_, Expression.exactMillis_ofInts ..⟩
        simp [Expression.parts_ofInts]
    | seconds count =>
        rw [toList_secondsText, trim_wholeChars]
        refine ⟨_, isExpression_wholeChars (.inr (.inr rfl)), ?_, ?_⟩
        · simp only [Expression.OneSign, Expression.parts_ofInts]
          simpa using Int.le_total 0 count
        · simp [Expression.exactMillis_ofInts]
  rw [parseMillis_of_oneSign isExpression oneSign, value]

namespace Policy

/-- The policy of a number of seconds within the bound is that of its milliseconds. -/
theorem ofSeconds_of_within {count : Int} (within : 1000 * count ≤ Span.greatestMillis) :
    ofSeconds count = ofMillis (1000 * count) := by
  rw [ofSeconds, Int.mul_comm count, Int.min_eq_left within]

/-- A number of seconds beyond the bound is cut off, and a negative one is disabled. -/
theorem ofSeconds_of_beyond {count : Int} (beyond : Expression.bound < (1000 * count).natAbs) :
    ofSeconds count =
      if 0 < count then .activeFor (Span.ofMillis Span.greatestMillis) else .disabled := by
  split
  · next positive =>
      have above : Span.greatestMillis ≤ count * 1000 := by
        rw [Int.natAbs_of_nonneg (by omega), Int.mul_comm] at beyond
        exact Int.le_of_lt beyond
      rw [ofSeconds, Int.min_eq_right above]
      exact ofMillis_eq_activeFor_iff.mpr ⟨by decide, rfl⟩
  · next notPositive => exact ofSeconds_eq_disabled_iff.mpr (Int.not_lt.mp notPositive)

end Policy

/-- Within the bound the two shapes stand for one policy. -/
theorem Writes.parse_eq_of_within {count : Int} {text : String} (writes : Writes count text)
    (within : ((1000 * count).natAbs : Int) ≤ Expression.bound) :
    Policy.parse (.text text) = Policy.parse (.seconds count) := by
  have atMost : 1000 * count ≤ Span.greatestMillis := Int.le_trans Int.le_natAbs within
  rw [Policy.parse, Policy.parse, writes.parseMillis_eq, if_pos within,
    Policy.ofSeconds_of_within atMost]
  rfl

theorem Writes.parse_eq_of_beyond {count : Int} {text : String} (writes : Writes count text)
    (beyond : Expression.bound < (1000 * count).natAbs) :
    Policy.parse (.text text) = .error (.overflow text) :=
  Policy.parse_text_eq_error_iff.mpr
    (writes.parseMillis_eq.trans (if_neg (Int.not_le.mpr beyond)))

end JobConsole.Retention

namespace JobConsole.AutoTransition

open JobConsole.Retention JobConsole.Time

/-! ## Changes of state -/

/-- A setting leads to no change of state unless it is active and leads to an instant. -/
theorem ofSetting_eq_none_iff {terminal : TerminalState} {server : Server} {setting : Setting}
    {last now : Instant} :
    (ofSetting terminal server setting last now).1 = none ↔
      ∀ span, Policy.parse setting = .ok (.activeFor span) → last.add? span = none := by
  have leadsNowhere : (ofSetting terminal server setting last now).1 = none ↔
      ∀ instant, (ofSetting terminal server setting last now).1.map target ≠ some instant := by
    rw [← Option.map_eq_none_iff, Option.eq_none_iff_forall_ne_some]
  rw [leadsNowhere]
  simp only [ne_eq, target_ofSetting_eq_some_iff, not_exists, not_and,
    Option.eq_none_iff_forall_ne_some]
  constructor
  · intro nowhere span active instant
    exact nowhere instant span active
  · intro nowhere instant span active
    exact nowhere span active instant

/-- A number of seconds beyond the bound leads to no change of state: the greatest span is
longer than the calendar. -/
theorem ofSetting_seconds_of_beyond {count : Int}
    (beyond : Expression.bound < (1000 * count).natAbs) (terminal : TerminalState)
    (server : Server) (last now : Instant) :
    (ofSetting terminal server (.seconds count) last now).1 = none := by
  rw [ofSetting_eq_none_iff]
  intro span active
  rw [Policy.parse, Policy.ofSeconds_of_beyond beyond] at active
  split at active
  · cases active
    exact Instant.add?_eq_none_of_long last (by decide)
  · cases active

/-- An expression beyond the bound leads to no change of state. -/
theorem ofSetting_text_of_beyond {count : Int} {text : String} (writes : Writes count text)
    (beyond : Expression.bound < (1000 * count).natAbs) (terminal : TerminalState)
    (server : Server) (last now : Instant) :
    (ofSetting terminal server (.text text) last now).1 = none := by
  rw [ofSetting_eq_none_iff]
  intro span active
  cases (writes.parse_eq_of_beyond beyond).symm.trans active

/-- A first server that gives the length of its setting as a number of seconds, and one that
gives it as an expression, lead to the same change of state.  Beyond the bound the number is
cut off, or disables the change of state when it is negative, and the expression cannot be
read; neither leads to a change of state then. -/
theorem same_transition_of_both_shapes {count : Int} {text : String} (writes : Writes count text)
    {terminal : TerminalState} {left right : Server}
    (isNumber : terminal.setting? left = some (.seconds count))
    (isText : terminal.setting? right = some (.text text)) (others rest : List Server)
    (last now : Instant) :
    (derive terminal.state last (.loaded (left :: others)) now).1 =
        (derive terminal.state last (.loaded (right :: rest)) now).1 ∧
      (Expression.bound < (1000 * count).natAbs →
        Policy.parse (.seconds count) =
            .ok (if 0 < count then .activeFor (Span.ofMillis Span.greatestMillis)
              else .disabled) ∧
          Policy.parse (.text text) = .error (.overflow text) ∧
          (derive terminal.state last (.loaded (left :: others)) now).1 = none ∧
          (derive terminal.state last (.loaded (right :: rest)) now).1 = none) := by
  rw [derive_of_setting isNumber, derive_of_setting isText]
  rcases Int.lt_or_le Expression.bound (1000 * count).natAbs with beyond | within
  · have numberNone := ofSetting_seconds_of_beyond beyond terminal left last now
    have textNone := ofSetting_text_of_beyond writes beyond terminal right last now
    refine ⟨numberNone.trans textNone.symm, fun _ => ⟨?_, writes.parse_eq_of_beyond beyond,
      numberNone, textNone⟩⟩
    exact congrArg Except.ok (Policy.ofSeconds_of_beyond beyond)
  · constructor
    · rw [fst_ofSetting terminal left right]
      unfold ofSetting
      rw [writes.parse_eq_of_within within]
    · intro beyond
      exact absurd within (Int.not_le.mpr beyond)

/-- A server with a setting for jobs that have failed. -/
def keeper (setting : Setting) : Server where
  id := ⟨0x51⟩
  workerPoolSize := 8
  pollIntervalInSeconds := 15
  deleteSucceededJobsAfter := .seconds 86400
  deleteFailedJobsAfter := some setting
  permanentlyDeleteDeletedJobsAfter := .text "PT72H"
  firstHeartbeat := none
  lastHeartbeat := none
  running := true
  systemTotalMemory := none
  systemFreeMemory := none
  systemCpuLoad := none
  processMaxMemory := none
  processFreeMemory := none
  processAllocatedMemory := none
  processCpuLoad := none

/-- A day, an hour, a minute and a second at the end of February, and the least number of
seconds beyond the bound. -/
theorem same_transition_of_keepers :
    Writes 90061 "P1DT1H1M1S" ∧ Writes 9223372036854776 "PT9223372036854776S" ∧
      ∃ last due now, Instant.ofText? "2024-02-28T12:00:00Z" = some last ∧
        Instant.ofText? "2024-02-29T13:01:01Z" = some due ∧
        Instant.ofText? "2024-02-28T13:00:00Z" = some now ∧
        (∀ setting ∈ [Setting.seconds 90061, .text "P1DT1H1M1S"],
          (derive .failed last (.loaded [keeper setting]) now).1 =
            some ⟨"It will automatically be removed", due, .pending ⟨86461000000000⟩⟩) ∧
        ∀ setting ∈ [Setting.seconds 9223372036854776, .text "PT9223372036854776S"],
          (derive .failed last (.loaded [keeper setting]) now).1 = none := by
  have day : Writes 90061 "P1DT1H1M1S" := by
    have written : partsText 1 1 1 1 = "P1DT1H1M1S" := by decide +kernel
    rw [← written]
    exact .parts 1 1 1 1
  have endless : Writes 9223372036854776 "PT9223372036854776S" := by
    have written : secondsText 9223372036854776 = "PT9223372036854776S" := by decide +kernel
    rw [← written]
    exact .seconds 9223372036854776
  have keeps (setting : Setting) : TerminalState.failed.setting? (keeper setting) = some setting :=
    rfl
  refine ⟨day, endless, ⟨19781, 43200, 0, by decide⟩, ⟨19782, 46861, 0, by decide⟩,
    ⟨19781, 46800, 0, by decide⟩, by decide +kernel, by decide +kernel, by decide +kernel, ?_, ?_⟩
  · have same := (same_transition_of_both_shapes day (keeps _) (keeps _) [] []
      ⟨19781, 43200, 0, by decide⟩ ⟨19781, 46800, 0, by decide⟩).1
    have number : (derive .failed ⟨19781, 43200, 0, by decide⟩
        (.loaded [keeper (.seconds 90061)]) ⟨19781, 46800, 0, by decide⟩).1 =
          some ⟨"It will automatically be removed", ⟨19782, 46861, 0, by decide⟩,
            .pending ⟨86461000000000⟩⟩ := by
      decide +kernel
    simp only [List.forall_mem_cons, List.not_mem_nil, IsEmpty.forall_iff, implies_true, and_true]
    exact ⟨number, same.symm.trans number⟩
  · have nowhere := (same_transition_of_both_shapes endless (keeps _) (keeps _) [] []
      ⟨19781, 43200, 0, by decide⟩ ⟨19781, 46800, 0, by decide⟩).2 (by decide)
    simp only [List.forall_mem_cons, List.not_mem_nil, IsEmpty.forall_iff, implies_true, and_true]
    exact nowhere.2.2

end JobConsole.AutoTransition
