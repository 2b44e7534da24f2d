import Mathlib.Data.Nat.Cast.Basic
import JobConsole.Time.Instant
import JobConsole.Time.Reader

/-!
# The time line

Instants are ordered by their day, their second and their nanoseconds.  This is the order
of their places on a line on which every second is two seconds long, so that a leap second
has room behind the second that it belongs to.

Outside leap seconds an instant has a position on a line without gaps: the order is that
of positions, a span is added by adding to the position, and every position of the
calendar, from its first day to its last, is that of an instant.

The span between two instants agrees with their order but for one case: when the earlier
one lies inside the leap second at the end of a day and the later one in the first second
of the next day, the leap second is not counted.
-/

namespace JobConsole.Time.Instant

theorem bounds (instant : Instant) :
    instant.second < 86400 ∧ instant.nano < 2000000000 ∧
      (1000000000 ≤ instant.nano → instant.second % 60 = 59) :=
  instant.isInstant.2.2

theorem isLeap_iff {instant : Instant} : instant.isLeap = true ↔ 1000000000 ≤ instant.nano :=
  decide_eq_true_iff

theorem isLeap_eq_false_iff {instant : Instant} :
    instant.isLeap = false ↔ instant.nano < 1000000000 := by
  rw [← Bool.not_eq_true, isLeap_iff, Nat.not_le]

theorem eq_of_parts {left right : Instant} (day : left.day = right.day)
    (second : left.second = right.second) (nano : left.nano = right.nano) : left = right := by
  obtain ⟨leftDay, leftSecond, leftNano, leftInstant⟩ := left
  obtain ⟨rightDay, rightSecond, rightNano, rightInstant⟩ := right
  cases day
  cases second
  cases nano
  rfl

/-! ## Order -/

/-- The place of an instant on a line that leaves room for a leap second in every
second. -/
def place (instant : Instant) : Int :=
  (instant.day * secondsPerDay + instant.second) * (2 * Span.nanosPerSecond) + instant.nano

theorem isBefore_iff_place_lt {earlier later : Instant} :
    earlier.isBefore later = true ↔ earlier.place < later.place := by
  obtain ⟨earlierSecond, earlierNano, -⟩ := earlier.bounds
  obtain ⟨laterSecond, laterNano, -⟩ := later.bounds
  simp only [isBefore, place, secondsPerDay, Span.nanosPerSecond, Bool.or_eq_true,
    Bool.and_eq_true, decide_eq_true_eq, beq_iff_eq]
  omega

theorem isBefore_eq_false_iff {earlier later : Instant} :
    earlier.isBefore later = false ↔ later.place ≤ earlier.place := by
  rw [← Bool.not_eq_true, isBefore_iff_place_lt, Int.not_lt]

theorem eq_of_place_eq {left right : Instant} (same : left.place = right.place) : left = right := by
  obtain ⟨leftSecond, leftNano, -⟩ := left.bounds
  obtain ⟨rightSecond, rightNano, -⟩ := right.bounds
  simp only [place, secondsPerDay, Span.nanosPerSecond] at same
  exact eq_of_parts (by omega) (by omega) (by omega)

/-! ## Spans across a leap second -/

/-- The earlier instant lies inside the leap second at the end of a day, and the later one
in the first second of the next day. -/
structure AcrossLeap (earlier later : Instant) : Prop where
  isLeap : earlier.isLeap = true
  second : earlier.second + 1 = secondsPerDay
  nextDay : later.day = earlier.day + 1
  nextSecond : later.second = 0

/-- Across the leap second at the end of a day this second counts as the one before it. -/
theorem AcrossLeap.nanos_since {earlier later : Instant} (across : AcrossLeap earlier later) :
    (later.since earlier).nanos = later.nano + Span.nanosPerSecond - earlier.nano := by
  obtain ⟨-, second, nextDay, nextSecond⟩ := across
  obtain ⟨-, -, last⟩ := later.bounds
  have plain : ¬ later.isLeap = true := by
    rw [isLeap_iff]
    omega
  simp only [since, leapBetween, plain, secondsPerDay, Span.nanosPerSecond] at second ⊢
  rw [if_neg (by omega), if_neg (by simp)]
  omega

/-- Everywhere else time passes from an earlier instant to a later one. -/
theorem nanos_since_pos {earlier later : Instant} (before : earlier.place < later.place)
    (apart : ¬ AcrossLeap earlier later) : 0 < (later.since earlier).nanos := by
  obtain ⟨earlierSecond, earlierNano, -⟩ := earlier.bounds
  obtain ⟨laterSecond, laterNano, laterLast⟩ := later.bounds
  have notAcross : ¬ (1000000000 ≤ earlier.nano ∧ earlier.second + 1 = 86400 ∧
      later.day = earlier.day + 1 ∧ later.second = 0) :=
    fun ⟨isLeap, second, nextDay, nextSecond⟩ =>
      apart ⟨isLeap_iff.mpr isLeap, second, nextDay, nextSecond⟩
  simp only [place, secondsPerDay, Span.nanosPerSecond] at before
  simp only [since, leapBetween, isLeap_iff, secondsPerDay, Span.nanosPerSecond]
  split
  · omega
  · split
    · omega
    · omega

/-- Everywhere else no time is taken back from an instant to itself or a later one. -/
theorem nanos_since_nonneg {earlier later : Instant} (notAfter : earlier.place ≤ later.place)
    (apart : ¬ AcrossLeap earlier later) : 0 ≤ (later.since earlier).nanos := by
  rcases Int.lt_or_eq_of_le notAfter with before | same
  · exact Int.le_of_lt (nanos_since_pos before apart)
  · have zero : (later.since earlier).nanos = 0 := by
      rw [eq_of_place_eq same, since_self]
    exact Int.le_of_eq zero.symm

/-- Less than a second is taken back from an instant to itself or a later one. -/
theorem neg_second_lt_nanos_since {earlier later : Instant}
    (notAfter : earlier.place ≤ later.place) :
    -(Span.nanosPerSecond : Int) < (later.since earlier).nanos := by
  by_cases across : AcrossLeap earlier later
  · have earlierNano := earlier.bounds.2.1
    rw [across.nanos_since, Span.nanosPerSecond]
    omega
  · have forward := nanos_since_nonneg notAfter across
    rw [Span.nanosPerSecond]
    omega

/-! ## Positions -/

/-- The last instant of the calendar, leap seconds apart. -/
def latest : Instant :=
  ⟨Date.lastNumber, 86399, 999999999, by decide⟩

theorem ofText?_latest : ofText? "+262142-12-31T23:59:59.999999999Z" = some latest := by
  decide +kernel

/-- The first instant of the calendar. -/
def earliest : Instant :=
  ⟨Date.firstNumber, 0, 0, by decide⟩

theorem earliest_le_position (instant : Instant) : earliest.position ≤ instant.position := by
  have first := instant.isInstant.1
  simp only [Instant.position, earliest, Date.firstNumber, secondsPerDay,
    Span.nanosPerSecond] at first ⊢
  omega

/-- The instant outside leap seconds at a position, if the calendar reaches that far. -/
def ofPosition? (position : Int) : Option Instant :=
  of? (position / Span.nanosPerSecond / secondsPerDay)
    (position / Span.nanosPerSecond % secondsPerDay).toNat (position % Span.nanosPerSecond).toNat

/-- An instant outside leap seconds is the only one at its position. -/
theorem ofPosition?_eq_some_iff {position : Int} {instant : Instant} :
    ofPosition? position = some instant ↔
      instant.isLeap = false ∧ instant.position = position := by
  obtain ⟨second, nano, -⟩ := instant.bounds
  rw [ofPosition?, of?_eq_some_iff, isLeap_eq_false_iff]
  simp only [Instant.position, secondsPerDay, Span.nanosPerSecond]
  omega

/-- There is an instant at every position of the calendar. -/
theorem ofPosition?_eq_none_iff {position : Int} :
    ofPosition? position = none ↔
      position < earliest.position ∨ latest.position < position := by
  have instants : ofPosition? position = none ↔
      ¬ IsInstant (position / Span.nanosPerSecond / secondsPerDay)
        (position / Span.nanosPerSecond % secondsPerDay).toNat
        (position % Span.nanosPerSecond).toNat := by
    unfold ofPosition? of?
    split
    · next isInstant => simp [isInstant]
    · next notInstant => simp [notInstant]
  rw [instants]
  simp only [IsInstant, Instant.position, earliest, latest, Date.firstNumber, Date.lastNumber,
    secondsPerDay, Span.nanosPerSecond]
  omega

/-- Outside leap seconds the order is that of positions. -/
theorem isBefore_iff_position_lt {earlier later : Instant} (earlierPlain : earlier.isLeap = false)
    (laterPlain : later.isLeap = false) :
    earlier.isBefore later = true ↔ earlier.position < later.position := by
  rw [isLeap_eq_false_iff] at earlierPlain laterPlain
  rw [isBefore_iff_place_lt]
  simp only [place, Instant.position, secondsPerDay, Span.nanosPerSecond]
  omega

/-- Seconds and nanoseconds lead to the position that is as far away. -/
theorem advance?_eq_ofPosition? (day second nano seconds nanos : Int) :
    advance? day second nano seconds nanos =
      ofPosition? ((day * secondsPerDay + second + seconds) * Span.nanosPerSecond +
        (nano + nanos)) := by
  have whole : ((day * 86400 + second + seconds) * 1000000000 + (nano + nanos)) / 1000000000 =
      day * 86400 + (second + seconds + (nano + nanos) / 1000000000) := by
    omega
  have rest : ((day * 86400 + second + seconds) * 1000000000 + (nano + nanos)) % 1000000000 =
      (nano + nanos) % 1000000000 := by
    omega
  have days : (day * 86400 + (second + seconds + (nano + nanos) / 1000000000)) / 86400 =
      day + (second + seconds + (nano + nanos) / 1000000000) / 86400 := by
    omega
  have inDay : (day * 86400 + (second + seconds + (nano + nanos) / 1000000000)) % 86400 =
      (second + seconds + (nano + nanos) / 1000000000) % 86400 := by
    omega
  simp only [advance?, ofPosition?, secondsPerDay, Span.nanosPerSecond, Nat.cast_ofNat, whole, rest,
    days, inDay]

/-- A span leads to the position that is as far away. -/
theorem add?_eq_ofPosition? {instant : Instant} (plain : instant.isLeap = false) (span : Span) :
    instant.add? span = ofPosition? (instant.position + span.nanos) := by
  have whole := span.seconds_mul_add_subsecondNanos
  simp only [add?, plain, Bool.false_eq_true, if_false, advance?_eq_ofPosition?, Instant.position]
  congr 1
  simp only [secondsPerDay, Span.nanosPerSecond] at whole ⊢
  omega

theorem add?_eq_some_iff {instant target : Instant} (plain : instant.isLeap = false)
    {span : Span} :
    instant.add? span = some target ↔
      target.isLeap = false ∧ target.position = instant.position + span.nanos := by
  rw [add?_eq_ofPosition? plain, ofPosition?_eq_some_iff]

/-- A span of time to come leads nowhere only beyond the end of the calendar. -/
theorem add?_eq_none_iff {instant : Instant} (plain : instant.isLeap = false) {span : Span}
    (forward : 0 ≤ span.nanos) :
    instant.add? span = none ↔ latest.position < instant.position + span.nanos := by
  have inside := earliest_le_position instant
  rw [add?_eq_ofPosition? plain, ofPosition?_eq_none_iff]
  omega

/-- A span longer than the calendar leads nowhere, from inside a leap second as well. -/
theorem add?_eq_none_of_long (instant : Instant) {span : Span}
    (long : latest.position - earliest.position + Span.nanosPerSecond < span.nanos) :
    instant.add? span = none := by
  have inside := earliest_le_position instant
  cases leap : instant.isLeap with
  | false =>
      rw [add?_eq_ofPosition? leap, ofPosition?_eq_none_iff]
      simp only [Span.nanosPerSecond] at long
      omega
  | true =>
      have whole := span.seconds_mul_add_subsecondNanos
      have forward : 0 < span.seconds := by
        have calendar := earliest_le_position latest
        have rest : span.subsecondNanos < Span.nanosPerSecond :=
          Int.tmod_lt_of_pos span.nanos (by decide)
        simp only [Span.nanosPerSecond] at whole rest long
        omega
      simp only [add?, leap, if_true, forward, true_or, advance?_eq_ofPosition?,
        ofPosition?_eq_none_iff]
      right
      simp only [Instant.position, secondsPerDay, Span.nanosPerSecond] at whole inside long ⊢
      omega

end JobConsole.Time.Instant
