import JobConsole.Number.Signed64
import JobConsole.Text.Blank
import JobConsole.Text.Decimal
import JobConsole.Text.Quoted

/-!
# Duration expressions

A retention may be written as an ISO 8601 duration: an optional sign, the letter
`P`, optional days, and an optional time part that starts with `T` and has
hours, minutes and seconds, in this order and each of them optional.  A number
may have a sign of its own; the seconds may have a fraction of at most nine
digits behind a point or a comma.  At least one number must be there, and at
least one behind a `T`.  Letters are matched in any case; the long s is a form
of the letter `S`.

`Expression.millis?` is the value in milliseconds, computed in 64 bits: a number
or a sum that does not fit makes the expression too large.
-/

namespace JobConsole.Retention

open JobConsole.Text JobConsole.Number

/-- A number of a duration expression: a sign and digits. -/
structure Component where
  negative : Bool
  digits : List Char
deriving DecidableEq

/-- The parts of a duration expression.  A fraction belongs to the seconds. -/
structure Expression where
  negative : Bool
  days : Option Component
  hours : Option Component
  minutes : Option Component
  seconds : Option Component
  fraction : List Char
deriving DecidableEq

/-- Whether a character is a form of the given letter. -/
def isLetter (letter : Char) (c : Char) : Bool :=
  c.toUpper == letter || (letter == 'S' && c == '\u017f')

/-- Reads a sign; no sign is a plus. -/
def readSign : List Char → Bool × List Char
  | '-' :: rest => (true, rest)
  | '+' :: rest => (false, rest)
  | rest => (false, rest)

/-- Reads a form of a letter. -/
def readLetter? (letter : Char) : List Char → Option (List Char)
  | c :: rest => if isLetter letter c then some rest else none
  | [] => none

/-- Reads a number without its unit. -/
def readComponent? (text : List Char) : Option (Component × List Char) :=
  let (negative, rest) := readSign text
  match rest.span isDigit with
  | ([], _) => none
  | (digits, rest) => some (⟨negative, digits⟩, rest)

/-- Reads a number with the given unit, if one stands there. -/
def readUnit (unit : Char) (text : List Char) : Option Component × List Char :=
  match readComponent? text with
  | none => (none, text)
  | some (component, rest) =>
      match readLetter? unit rest with
      | some rest => (some component, rest)
      | none => (none, text)

/-- Reads the fraction of the seconds, if there is one. -/
def readFraction : List Char → List Char × List Char
  | [] => ([], [])
  | mark :: rest =>
      if mark = '.' ∨ mark = ',' then
        ((rest.take 9).takeWhile isDigit, rest.drop ((rest.take 9).takeWhile isDigit).length)
      else
        ([], mark :: rest)

/-- Reads the seconds with their fraction, if they stand there. -/
def readSeconds (text : List Char) : Option Component × List Char × List Char :=
  match readComponent? text with
  | none => (none, [], text)
  | some (component, rest) =>
      let (fraction, rest) := readFraction rest
      match readLetter? 'S' rest with
      | some rest => (some component, fraction, rest)
      | none => (none, [], text)

namespace Expression

/-- Reads the time part after its letter.  It must reach the end of the text and
hold a number. -/
def readTime? (negative : Bool) (days : Option Component) (text : List Char) :
    Option Expression :=
  let (hours, rest) := readUnit 'H' text
  let (minutes, rest) := readUnit 'M' rest
  let (seconds, fraction, rest) := readSeconds rest
  if rest.isEmpty ∧ (hours.isSome ∨ minutes.isSome ∨ seconds.isSome) then
    some ⟨negative, days, hours, minutes, seconds, fraction⟩
  else
    none

/-- Reads an expression that has no blanks around it. -/
def read? (text : List Char) : Option Expression := do
  let (negative, rest) := readSign text
  let rest ← readLetter? 'P' rest
  let (days, rest) := readUnit 'D' rest
  match rest with
  | [] => if days.isSome then some ⟨negative, days, none, none, none, []⟩ else none
  | _ => readTime? negative days (← readLetter? 'T' rest)

end Expression

namespace Component

/-- The number that a component shows. -/
def value (component : Component) : Int :=
  if component.negative then -(readDigits component.digits : Int)
  else (readDigits component.digits : Int)

/-- The milliseconds of a component in a unit of the given size; an absent one
counts as zero. -/
def millis? (unit : Nat) : Option Component → Option Int
  | none => some 0
  | some component => do
      let value ← signed64? component.value
      signed64? (value * unit)

end Component

namespace Expression

/-- The milliseconds in a day, an hour, a minute and a second. -/
def dayMillis : Nat := 86400000

def hourMillis : Nat := 3600000

def minuteMillis : Nat := 60000

def secondMillis : Nat := 1000

/-- The milliseconds of the fraction: its first three digits, filled up with
zeros, with the sign of the seconds. -/
def fractionMillis (expression : Expression) : Int :=
  let leading := expression.fraction.take 3
  let size := readDigits leading * Nat.pow 10 (3 - leading.length)
  if (expression.seconds.map Component.negative).getD false then -(size : Int) else size

/-- The greatest number of milliseconds that a duration may have, with either
sign. -/
def bound : Int := greatestSigned64

/-- The value of an expression in milliseconds, if every step fits. -/
def millis? (expression : Expression) : Option Int := do
  let days ← Component.millis? dayMillis expression.days
  let hours ← Component.millis? hourMillis expression.hours
  let minutes ← Component.millis? minuteMillis expression.minutes
  let seconds ← Component.millis? secondMillis expression.seconds
  let total ← signed64? (days + hours)
  let total ← signed64? (total + minutes)
  let total ← signed64? (total + seconds)
  let total ← signed64? (total + expression.fractionMillis)
  let total ← signed64? (if expression.negative then -total else total)
  if (total.natAbs : Int) ≤ bound then some total else none

end Expression

/-- Why a text is no duration. -/
inductive ParseError where
  | empty
  | malformed (input : String)
  | overflow (input : String)
deriving DecidableEq

namespace ParseError

/-- What an error is called.  The input is shown as it was given, with its
blanks. -/
def message : ParseError → String
  | .empty => "empty duration expression"
  | .malformed input => "malformed duration expression: " ++ quoted input
  | .overflow input => "duration out of range: " ++ quoted input

end ParseError

/-- The milliseconds of a duration expression with blanks around it. -/
def parseMillis (input : String) : Except ParseError Int :=
  let text := trim input.toList
  if text.isEmpty then .error .empty
  else
    match Expression.read? text with
    | none => .error (.malformed input)
    | some expression =>
        match expression.millis? with
        | none => .error (.overflow input)
        | some millis => .ok millis

/-- An expression is empty exactly when it has blanks only. -/
theorem parseMillis_eq_empty_iff {input : String} :
    parseMillis input = .error .empty ↔ trim input.toList = [] := by
  unfold parseMillis
  by_cases blank : trim input.toList = []
  · simp [blank]
  · have filled : (trim input.toList).isEmpty = false := by simpa using blank
    simp only [filled, Bool.false_eq_true, if_false, blank, iff_false]
    split
    · simp
    · split <;> simp

end JobConsole.Retention
