import Mathlib.Tactic.IntervalCases
import JobConsole.Time.Calendar

/-!
# Dates and their numbers

Every number of days is the number of the date that it leads to, and this date exists.
The calendar repeats itself after 400 years; within them a day is found by centuries,
spans of four years and years, all of which start with March.
-/

namespace JobConsole.Time

/-- A day of 400 years that start with March: centuries, spans of four years, years and
days that have passed.  A span ends with a leap day, but for the last one of the first
three centuries. -/
structure EraDay where
  century : Nat
  span : Nat
  year : Nat
  day : Nat
  century_le : century ≤ 3
  span_le : span ≤ 24
  year_le : year ≤ 3
  day_le : day ≤ 365
  isLeap : day = 365 → year = 3 ∧ (span = 24 → century = 3)

namespace EraDay

/-- The number of days that have passed. -/
def number (era : EraDay) : Nat :=
  36524 * era.century + 1461 * era.span + 365 * era.year + era.day

/-- The number of years that have passed. -/
def yearOfEra (era : EraDay) : Nat :=
  100 * era.century + 4 * era.span + era.year

/-- The years of a span and the days beyond them. -/
theorem exists_year {days : Nat} (inSpan : days ≤ 1460) :
    ∃ year day, year ≤ 3 ∧ day ≤ 365 ∧ (day = 365 → year = 3) ∧ days = 365 * year + day := by
  rcases Nat.lt_or_ge days 1460 with plain | last
  · exact ⟨days / 365, days % 365, by omega, by omega, by omega, by omega⟩
  · exact ⟨3, 365, by omega, by omega, by omega, by omega⟩

/-- The centuries of an era and the days beyond them. -/
theorem exists_century {days : Nat} (inEra : days < 146097) :
    ∃ century rest, century ≤ 3 ∧ rest ≤ 36524 ∧ (rest = 36524 → century = 3) ∧
      days = 36524 * century + rest := by
  rcases Nat.lt_or_ge days 146096 with plain | last
  · exact ⟨days / 36524, days % 36524, by omega, by omega, by omega, by omega⟩
  · exact ⟨3, 36524, by omega, by omega, by omega, by omega⟩

/-- Every day of 400 years is found. -/
theorem exists_number_eq {days : Nat} (inEra : days < 146097) :
    ∃ era : EraDay, era.number = days := by
  obtain ⟨century, rest, century_le, rest_le, last, rfl⟩ := exists_century inEra
  have span_le : rest / 1461 ≤ 24 := by omega
  obtain ⟨year, day, year_le, day_le, leap, rest_eq⟩ :=
    exists_year (show rest % 1461 ≤ 1460 by omega)
  refine ⟨⟨century, rest / 1461, year, day, century_le, span_le, year_le, day_le, ?_⟩, ?_⟩
  · intro isLeap
    exact ⟨leap isLeap, fun lastSpan => last (by have := leap isLeap; omega)⟩
  · simp only [number]
    omega

/-- Taking out one day for each 1460 days leaves 365 days for each year. -/
theorem yearOfEra_eq (era : EraDay) :
    (era.number - era.number / 1460 + era.number / 36524 - era.number / 146096) / 365 =
      era.yearOfEra := by
  obtain ⟨century, span, year, day, century_le, span_le, year_le, day_le, isLeap⟩ := era
  simp only [number, yearOfEra]
  generalize isDays : 36524 * century + 1461 * span + 365 * year + day = days
  have centuries : days / 36524 = century + days / 146096 := by
    have inCentury : 1461 * span + 365 * year + day < 36524 ∨
        century = 3 ∧ 1461 * span + 365 * year + day = 36524 := by omega
    rcases inCentury with plain | ⟨rfl, last⟩
    · have whole : days / 36524 = century := by omega
      have inEra : days < 146096 := by omega
      rw [whole, Nat.div_eq_of_lt inEra, Nat.add_zero]
    · have whole : days = 146096 := by omega
      rw [whole]
  have years : ∃ rest ≤ 364,
      days - days / 1460 + century = 365 * (100 * century + 4 * span + year) + rest := by
    have spans : days / 1460 = 25 * century + span ∨ days / 1460 = 25 * century + span + 1 := by
      omega
    rcases spans with passed | current
    · exact ⟨day, by omega, by omega⟩
    · exact ⟨day - 1, by omega, by omega⟩
  obtain ⟨rest, rest_le, isSum⟩ := years
  have sum : days - days / 1460 + (century + days / 146096) - days / 146096 =
      365 * (100 * century + 4 * span + year) + rest := by omega
  rw [centuries, sum]
  omega

/-- What is left of a day when the years are taken off. -/
theorem dayOfYear_eq (era : EraDay) :
    era.number - (365 * era.yearOfEra + era.yearOfEra / 4 - era.yearOfEra / 100) = era.day := by
  obtain ⟨century, span, year, day, century_le, span_le, year_le, day_le, isLeap⟩ := era
  simp only [number, yearOfEra]
  have fours : (100 * century + 4 * span + year) / 4 = 25 * century + span := by omega
  have hundreds : (100 * century + 4 * span + year) / 100 = century := by omega
  rw [fours, hundreds]
  omega

theorem daysBefore_eq (era : EraDay) (age : Int) {year : Int} (isYear : year = 400 * age + era.yearOfEra) :
    365 * year + year / 4 - year / 100 + year / 400 + era.day = 146097 * age + era.number := by
  obtain ⟨century, span, years, day, century_le, span_le, year_le, day_le, isLeap⟩ := era
  simp only [number, yearOfEra] at isYear ⊢
  have fours : year / 4 = 100 * age + (25 * century + span : Nat) := by omega
  have hundreds : year / 100 = 4 * age + century := by omega
  have ages : year / 400 = age := by omega
  rw [fours, hundreds, ages, isYear]
  omega

end EraDay

namespace Date

theorem daysInMonth_le (year : Int) (month : Nat) : daysInMonth year month ≤ 31 := by
  unfold daysInMonth
  repeat' split
  all_goals decide

/-- A date that exists has a month and a day of two digits. -/
theorem bounds_of_exists? {date : Date} (isDate : date.exists? = true) :
    date.month ≤ 12 ∧ date.day ≤ 31 := by
  simp only [exists?, Bool.and_eq_true, decide_eq_true_eq] at isDate
  obtain ⟨first, last⟩ := isDate
  refine ⟨?_, Nat.le_trans last (daysInMonth_le _ _)⟩
  by_contra beyond
  have noDay : daysInMonth date.year date.month = 0 := by
    simp only [daysInMonth]
    rw [if_neg (by omega), if_neg (by omega), if_neg (by omega)]
  omega

/-- The date of a day in a month and a year that start with March. -/
def ofMarch (year : Int) (month day : Nat) : Date :=
  if month < 10 then ⟨year, month + 3, day⟩ else ⟨year + 1, month - 9, day⟩

theorem number_ofMarch (year : Int) {month : Nat} (month_le : month ≤ 11) (day : Nat) :
    (ofMarch year month day).number =
      365 * year + year / 4 - year / 100 + year / 400 + ((153 * month + 2) / 5 : Nat) + day - 1 -
        epochShift := by
  unfold ofMarch
  split
  · next early =>
      have inYear : ¬ month + 3 ≤ 2 := by omega
      have sameMonth : (month + 3 + 9) % 12 = month := by omega
      simp only [number, if_neg inYear, sameMonth]
  · next late =>
      have nextYear : month - 9 ≤ 2 := by omega
      have sameMonth : (month - 9 + 9) % 12 = month := by omega
      simp only [number, if_pos nextYear, sameMonth, Int.add_sub_cancel]

theorem ofNumber_eq {n : Int} {era : EraDay}
    (isDay : era.number = ((n + epochShift) % 146097).toNat) :
    ofNumber n =
      ofMarch (400 * ((n + epochShift) / 146097) + era.yearOfEra) ((5 * era.day + 2) / 153)
        (era.day - (153 * ((5 * era.day + 2) / 153) + 2) / 5 + 1) := by
  unfold ofNumber ofMarch
  simp only [← isDay, era.yearOfEra_eq, era.dayOfYear_eq]

theorem number_ofNumber (n : Int) : (ofNumber n).number = n := by
  obtain ⟨era, isDay⟩ := EraDay.exists_number_eq
    (show ((n + epochShift) % 146097).toNat < 146097 by omega)
  have day_le := era.day_le
  have days := era.daysBefore_eq ((n + epochShift) / 146097) rfl
  rw [ofNumber_eq isDay, number_ofMarch _ (by omega)]
  omega

/-- A year that takes in 366 days from one March to the next ends in a leap year. -/
theorem isLeapYear_of_day {era : EraDay} {age year : Int}
    (isYear : year = 400 * age + era.yearOfEra) (lastDay : era.day = 365) :
    isLeapYear (year + 1) = true := by
  obtain ⟨century, span, years, day, century_le, span_le, year_le, day_le, isLeap⟩ := era
  obtain ⟨rfl, lastSpan⟩ := isLeap lastDay
  simp only [EraDay.yearOfEra] at isYear
  have fourth : (year + 1) % 4 = 0 := by omega
  have noCentury : (year + 1) % 100 ≠ 0 ∨ (year + 1) % 400 = 0 := by omega
  simpa [isLeapYear, fourth] using noCentury

theorem exists?_ofMarch {era : EraDay} {age year : Int}
    (isYear : year = 400 * age + era.yearOfEra) :
    (ofMarch year ((5 * era.day + 2) / 153)
      (era.day - (153 * ((5 * era.day + 2) / 153) + 2) / 5 + 1)).exists? = true := by
  have day_le := era.day_le
  have isLeap := isLeapYear_of_day isYear
  generalize era.day = day at *
  obtain ⟨month, isMonth⟩ : ∃ month, month = (5 * day + 2) / 153 := ⟨_, rfl⟩
  rw [← isMonth]
  rcases Nat.lt_or_ge month 11 with early | late
  · simp only [exists?, ofMarch, Bool.and_eq_true]
    interval_cases month
    all_goals
      simp [daysInMonth]
      omega
  · obtain rfl : month = 11 := by omega
    have inFebruary : day - 337 + 1 ≤ daysInMonth (year + 1) 2 := by
      rcases Nat.lt_or_ge day 365 with plain | last
      · simp only [daysInMonth, if_true]
        split <;> omega
      · rw [daysInMonth, if_pos rfl, if_pos (isLeap (by omega))]
        omega
    simpa [exists?, ofMarch] using inFebruary

theorem exists?_ofNumber (n : Int) : (ofNumber n).exists? = true := by
  obtain ⟨era, isDay⟩ := EraDay.exists_number_eq
    (show ((n + epochShift) % 146097).toNat < 146097 by omega)
  rw [ofNumber_eq isDay]
  exact exists?_ofMarch rfl

end Date

end JobConsole.Time
