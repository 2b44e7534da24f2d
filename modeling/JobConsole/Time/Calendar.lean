/-!
# The calendar

Dates of the proleptic Gregorian calendar, with a year zero, and their numbers:
the days since the first of January 1970.  Both directions count years from
the first of March, so that the leap day is the last day of a year, and use
that 400 years have 146097 days.
-/

namespace JobConsole.Time

/-- A date of the calendar. -/
structure Date where
  year : Int
  month : Nat
  day : Nat
deriving DecidableEq

namespace Date

/-- Whether a year has a leap day. -/
def isLeapYear (year : Int) : Bool :=
  year % 4 == 0 && (year % 100 != 0 || year % 400 == 0)

/-- The length of a month; there is no other month than the twelve. -/
def daysInMonth (year : Int) (month : Nat) : Nat :=
  if month = 2 then
    if isLeapYear year then 29 else 28
  else if month = 4 ∨ month = 6 ∨ month = 9 ∨ month = 11 then 30
  else if 1 ≤ month ∧ month ≤ 12 then 31
  else 0

/-- Whether a date exists. -/
def exists? (date : Date) : Bool :=
  1 ≤ date.day && date.day ≤ daysInMonth date.year date.month

/-- The number of days from the first of March of year zero to the first of
January 1970. -/
def epochShift : Int := 719468

/-- The number of a date, counted in days since the first of January 1970. -/
def number (date : Date) : Int :=
  let year := if date.month ≤ 2 then date.year - 1 else date.year
  let month := (date.month + 9) % 12
  365 * year + year / 4 - year / 100 + year / 400 + ((153 * month + 2) / 5 : Nat) + date.day - 1 -
    epochShift

/-- The date with a number. -/
def ofNumber (number : Int) : Date :=
  let shifted := number + epochShift
  let era := shifted / 146097
  let dayOfEra := (shifted % 146097).toNat
  let yearOfEra :=
    (dayOfEra - dayOfEra / 1460 + dayOfEra / 36524 - dayOfEra / 146096) / 365
  let dayOfYear := dayOfEra - (365 * yearOfEra + yearOfEra / 4 - yearOfEra / 100)
  let month := (5 * dayOfYear + 2) / 153
  let day := dayOfYear - (153 * month + 2) / 5 + 1
  if month < 10 then
    ⟨400 * era + yearOfEra, month + 3, day⟩
  else
    ⟨400 * era + yearOfEra + 1, month - 9, day⟩

/-- The first day that can be represented: the first of January of the year
-262143. -/
def firstNumber : Int := -96465292

/-- The last day that can be represented: the last of December of the year
262142. -/
def lastNumber : Int := 95026236

/-- The first and the last day have the numbers that their dates have. -/
theorem firstNumber_eq : firstNumber = number ⟨-262143, 1, 1⟩ := by
  decide

theorem lastNumber_eq : lastNumber = number ⟨262142, 12, 31⟩ := by
  decide

end Date

end JobConsole.Time
