import JobConsole.Time.Calendar
import JobConsole.Time.Span

/-!
# Instants

An instant is a day, a second of that day and a number of nanoseconds, in
universal time.  The last second of a minute may be a leap second: then its
nanoseconds run on from one to two times ten to the ninth.

Instants are ordered by these three numbers.  The span between two instants
counts a leap second only when it lies between their seconds of the day, so
order and span may disagree for an instant inside a leap second.
-/

namespace JobConsole.Time

/-- The number of seconds in a day without a leap second. -/
def secondsPerDay : Nat := 86400

/-- Whether a day, a second of the day and nanoseconds make up an instant. -/
def IsInstant (day : Int) (second nano : Nat) : Prop :=
  Date.firstNumber ≤ day ∧ day ≤ Date.lastNumber ∧ second < secondsPerDay ∧
    nano < 2 * Span.nanosPerSecond ∧ (Span.nanosPerSecond ≤ nano → second % 60 = 59)

instance (day : Int) (second nano : Nat) : Decidable (IsInstant day second nano) :=
  inferInstanceAs (Decidable (_ ∧ _))

/-- A point on the time line. -/
structure Instant where
  day : Int
  second : Nat
  nano : Nat
  isInstant : IsInstant day second nano
deriving DecidableEq

namespace Instant

/-- The instant with the given parts, if they make one up. -/
def of? (day : Int) (second nano : Nat) : Option Instant :=
  if isInstant : IsInstant day second nano then some ⟨day, second, nano, isInstant⟩ else none

theorem of?_eq_some_iff {day : Int} {second nano : Nat} {instant : Instant} :
    of? day second nano = some instant ↔
      instant.day = day ∧ instant.second = second ∧ instant.nano = nano := by
  constructor
  · intro made
    unfold of? at made
    split at made
    · cases made
      exact ⟨rfl, rfl, rfl⟩
    · contradiction
  · rintro ⟨rfl, rfl, rfl⟩
    simp [of?, instant.isInstant]

/-- Whether an instant lies inside a leap second. -/
def isLeap (instant : Instant) : Bool :=
  Span.nanosPerSecond ≤ instant.nano

/-- Whether one instant is earlier than another. -/
def isBefore (earlier later : Instant) : Bool :=
  earlier.day < later.day ||
    (earlier.day == later.day &&
      (earlier.second < later.second ||
        (earlier.second == later.second && earlier.nano < later.nano)))

/-- The leap second that lies between the seconds of the day of two instants, as
a number of seconds. -/
def leapBetween (later earlier : Instant) : Int :=
  if earlier.second < later.second ∧ earlier.isLeap then 1
  else if later.second < earlier.second ∧ later.isLeap then -1
  else 0

/-- The span from an earlier instant to a later one. -/
def since (later earlier : Instant) : Span :=
  let seconds :=
    (later.day - earlier.day) * secondsPerDay + ((later.second : Int) - earlier.second) +
      leapBetween later earlier
  ⟨seconds * Span.nanosPerSecond + ((later.nano : Int) - earlier.nano)⟩

/-- The instant that is a number of seconds and nanoseconds after a second of a
day, without a leap second. -/
def advance? (day second nano seconds nanos : Int) : Option Instant :=
  let total := nano + nanos
  let allSeconds := second + seconds + total / Span.nanosPerSecond
  of? (day + allSeconds / secondsPerDay) (allSeconds % secondsPerDay).toNat
    (total % Span.nanosPerSecond).toNat

/-- The instant that a span leads to, if it can be represented.  A span that
ends inside the leap second in which it starts stays there; any other one
leaves the leap second first. -/
def add? (instant : Instant) (span : Span) : Option Instant :=
  let seconds := span.seconds
  let nanos := span.subsecondNanos
  if instant.isLeap then
    let beyond : Int := instant.nano - Span.nanosPerSecond
    if 0 < seconds ∨ (0 < nanos ∧ (Span.nanosPerSecond : Int) ≤ beyond + nanos) then
      advance? instant.day instant.second beyond seconds nanos
    else if seconds < 0 then
      advance? instant.day (instant.second + 1) beyond seconds nanos
    else
      of? instant.day instant.second (instant.nano + nanos).toNat
  else
    advance? instant.day instant.second instant.nano seconds nanos

@[simp]
theorem isBefore_self (instant : Instant) : instant.isBefore instant = false := by
  simp [isBefore]

/-- No time passes from an instant to itself. -/
@[simp]
theorem since_self (instant : Instant) : instant.since instant = ⟨0⟩ := by
  simp [since, leapBetween]

/-- An instant is a number of nanoseconds after the start of 1970, leap seconds
being counted as part of the second before them. -/
def position (instant : Instant) : Int :=
  (instant.day * secondsPerDay + instant.second) * Span.nanosPerSecond + instant.nano

/-- Outside leap seconds the span between two instants is the difference of
their positions. -/
theorem nanos_since {later earlier : Instant} (laterPlain : later.isLeap = false)
    (earlierPlain : earlier.isLeap = false) :
    (later.since earlier).nanos = later.position - earlier.position := by
  simp only [since, leapBetween, laterPlain, earlierPlain, position, Bool.false_eq_true, and_false,
    if_false, Int.add_zero]
  rw [← Int.sub_eq_zero]
  generalize (secondsPerDay : Int) = perDay
  generalize (Span.nanosPerSecond : Int) = perSecond
  simp only [Int.sub_mul, Int.add_mul]
  omega

end Instant

end JobConsole.Time
