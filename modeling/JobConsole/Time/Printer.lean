import JobConsole.Text.Decimal
import JobConsole.Time.Instant

/-!
# Writing instants

An instant is written as a date and a time of day with a `T` between them and a
mark of universal time behind them.  The fraction of the second has the least
of 0, 3, 6 and 9 digits that shows it exactly.  A year outside the four digits
from 0 to 9999 has a sign, and at least four digits behind it.
-/

namespace JobConsole.Time

open JobConsole.Text

namespace Date

/-- The text of a year. -/
def yearChars (year : Int) : List Char :=
  if 0 ≤ year ∧ year ≤ 9999 then paddedDigits 4 year.natAbs
  else (if year < 0 then '-' else '+') :: paddedDigits 4 year.natAbs

/-- The text of a date. -/
def chars (date : Date) : List Char :=
  yearChars date.year ++ '-' :: paddedDigits 2 date.month ++ '-' :: paddedDigits 2 date.day

end Date

namespace Instant

/-- The text of the nanoseconds beyond a second. -/
def fractionChars (nano : Nat) : List Char :=
  if nano = 0 then []
  else if nano % 1000000 = 0 then '.' :: paddedDigits 3 (nano / 1000000)
  else if nano % 1000 = 0 then '.' :: paddedDigits 6 (nano / 1000)
  else '.' :: paddedDigits 9 nano

/-- The text of a time of day.  A leap second is the second 60. -/
def clockChars (instant : Instant) : List Char :=
  let leap := instant.nano / Span.nanosPerSecond
  paddedDigits 2 (instant.second / 3600) ++ ':' :: paddedDigits 2 (instant.second / 60 % 60) ++
    ':' :: paddedDigits 2 (instant.second % 60 + leap) ++
    fractionChars (instant.nano % Span.nanosPerSecond)

/-- The text of an instant with the given mark of universal time. -/
def charsWith (zone : List Char) (instant : Instant) : List Char :=
  (Date.ofNumber instant.day).chars ++ 'T' :: instant.clockChars ++ zone

/-- The text of an instant, with `Z` for universal time. -/
def text (instant : Instant) : String :=
  String.ofList (instant.charsWith ['Z'])

/-- The text of an instant, with a numeric offset for universal time. -/
def offsetText (instant : Instant) : String :=
  String.ofList (instant.charsWith ['+', '0', '0', ':', '0', '0'])

end Instant

end JobConsole.Time
