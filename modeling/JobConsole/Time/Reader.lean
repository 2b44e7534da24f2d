import JobConsole.Text.Blank
import JobConsole.Text.Decimal
import JobConsole.Time.Instant

/-!
# Reading instants

The reader takes a relaxed form of RFC 3339.  Blanks may stand before each
number and after all but the day; months, days and the parts of the time of day
may have one digit; the year may have a sign, and then any number of digits; the
separator is `T` or a blank space; the zone is `Z`, `UTC` or an offset.  Digits
of the fraction after the ninth are dropped.

The date must exist within the range of instants, and so must the instant that
is left when the offset has been taken off.
-/

namespace JobConsole.Time

open JobConsole.Text

namespace Instant

/-- The rest of a text after the given character. -/
def expect? (expected : Char) : List Char → Option (List Char)
  | [] => none
  | c :: rest => if c = expected then some rest else none

/-- Reads a number of at least one digit, and of at most as many as given. -/
def readNumber? (width : Nat) (text : List Char) : Option (Nat × List Char) :=
  match (text.take width).takeWhile isDigit with
  | [] => none
  | digits => some (readDigits digits, text.drop digits.length)

/-- Reads a number of one or two digits after blanks, with an upper bound. -/
def readPart? (bound : Nat) (text : List Char) : Option (Nat × List Char) :=
  match readNumber? 2 (trimStart text) with
  | some (value, rest) => if value ≤ bound then some (value, rest) else none
  | none => none

/-- Reads a year after blanks. -/
def readYear? (text : List Char) : Option (Int × List Char) :=
  match trimStart text with
  | '-' :: rest => (readNumber? rest.length rest).map fun (n, rest) => (-(n : Int), rest)
  | '+' :: rest => (readNumber? rest.length rest).map fun (n, rest) => ((n : Int), rest)
  | rest => (readNumber? 4 rest).map fun (n, rest) => ((n : Int), rest)

/-- Reads a date. -/
def readDate? (text : List Char) : Option (Date × List Char) := do
  let (year, rest) ← readYear? text
  let rest ← expect? '-' (trimStart rest)
  let (month, rest) ← readPart? 12 rest
  let rest ← expect? '-' (trimStart rest)
  let (day, rest) ← readPart? 31 rest
  some (⟨year, month, day⟩, rest)

/-- Reads the character between the date and the time of day. -/
def readSeparator? : List Char → Option (List Char)
  | 'T' :: rest => some rest
  | 't' :: rest => some rest
  | ' ' :: rest => some rest
  | _ => none

/-- The nanoseconds that the digits of a fraction stand for. -/
def fractionNanos (fraction : List Char) : Nat :=
  let leading := fraction.take 9
  readDigits leading * Nat.pow 10 (9 - leading.length)

/-- Reads the fraction of a second, if there is one. -/
def readFraction? : List Char → Option (Nat × List Char)
  | '.' :: rest =>
      match rest.span isDigit with
      | ([], _) => none
      | (fraction, rest) => some (fractionNanos fraction, rest)
  | rest => some (0, rest)

/-- Reads a time of day, as seconds and nanoseconds.  Second 60 is the leap
second after second 59. -/
def readClock? (text : List Char) : Option ((Nat × Nat) × List Char) := do
  let (hour, rest) ← readPart? 23 text
  let rest ← expect? ':' (trimStart rest)
  let (minute, rest) ← readPart? 59 rest
  let rest ← expect? ':' (trimStart rest)
  let (second, rest) ← readPart? 60 rest
  let (nano, rest) ← readFraction? rest
  if second = 60 then
    some (((60 * hour + minute) * 60 + 59, Span.nanosPerSecond + nano), rest)
  else
    some (((60 * hour + minute) * 60 + second, nano), rest)

/-- Reads a number of exactly two digits. -/
def readTwoDigits? : List Char → Option (Nat × List Char)
  | a :: b :: rest => if isDigit a && isDigit b then some (readDigits [a, b], rest) else none
  | _ => none

/-- Reads an offset after its sign, in minutes.  Colons and blanks may stand
between hours and minutes. -/
def readOffset? (text : List Char) : Option (Nat × List Char) := do
  let (hours, rest) ← readTwoDigits? text
  let (minutes, rest) ← readTwoDigits? (rest.dropWhile fun c => c == ':' || isBlank c)
  if hours ≤ 23 ∧ minutes ≤ 59 then some (60 * hours + minutes, rest) else none

/-- Whether two characters are the same letter of the ASCII range, in any
case. -/
def sameLetter (a b : Char) : Bool :=
  a.toLower == b.toLower

/-- Reads an offset by its sign, in minutes east. -/
def readSignedOffset? : List Char → Option (Int × List Char)
  | [] => none
  | sign :: rest =>
      if sign = '+' then
        (readOffset? rest).map fun (minutes, rest) => ((minutes : Int), rest)
      else if sign = '-' ∨ sign = '\u2212' then
        (readOffset? rest).map fun (minutes, rest) => (-(minutes : Int), rest)
      else
        none

/-- Reads a zone, in minutes east of universal time. -/
def readZone? : List Char → Option (Int × List Char)
  | u :: t :: c :: rest =>
      if sameLetter u 'U' && sameLetter t 'T' && sameLetter c 'C' then some (0, rest)
      else if sameLetter u 'Z' then some (0, t :: c :: rest)
      else readSignedOffset? (u :: t :: c :: rest)
  | z :: rest => if sameLetter z 'Z' then some (0, rest) else readSignedOffset? (z :: rest)
  | [] => none

/-- The instant of a local date and time of day at an offset. -/
def ofLocal? (date : Date) (second nano : Nat) (offset : Int) : Option Instant :=
  let number := date.number
  if !date.exists? || number < Date.firstNumber || Date.lastNumber < number then
    none
  else
    let universal := (second : Int) - 60 * offset
    of? (number + universal / secondsPerDay) (universal % secondsPerDay).toNat nano

/-- Reads an instant. -/
def read? (text : List Char) : Option Instant := do
  let (date, rest) ← readDate? text
  let rest ← readSeparator? rest
  let ((second, nano), rest) ← readClock? rest
  let (offset, rest) ← readZone? (trimStart rest)
  if (trimStart rest).isEmpty then ofLocal? date second nano offset else none

/-- Reads an instant from a text. -/
def ofText? (text : String) : Option Instant :=
  read? text.toList

end Instant

end JobConsole.Time
