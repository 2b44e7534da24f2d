import JobConsole.Json.Value
import JobConsole.Number.Shortest

/-!
# Writing JSON texts

Values are written in a compact form without blanks, and in an indented form
for people.  Strings escape the quote, the backslash and the control characters
below the space, five of them by a letter; every other character stands for
itself.  Members are written in the order in which the value holds them.
-/

namespace JobConsole.Json

open JobConsole.Text

/-- The digit in base sixteen for a number below sixteen. -/
def hexDigit (n : Nat) : Char :=
  n.digitChar

/-- How a character is written inside a string. -/
def stringChar (c : Char) : List Char :=
  if c == '\"' then ['\\', '\"']
  else if c == '\\' then ['\\', '\\']
  else if c == '\x08' then ['\\', 'b']
  else if c == '\x0c' then ['\\', 'f']
  else if c == '\n' then ['\\', 'n']
  else if c == '\r' then ['\\', 'r']
  else if c == '\t' then ['\\', 't']
  else if c.toNat < 0x20 then
    ['\\', 'u', '0', '0', hexDigit (c.toNat / 16), hexDigit (c.toNat % 16)]
  else [c]

/-- A string with its quotes. -/
def stringChars (s : String) : List Char :=
  '\"' :: s.toList.flatMap stringChar ++ ['\"']

/-- The text of a number. -/
def Number.chars : Number → List Char
  | .whole i => intDigits i
  | .real x => x.text

/-- The text of a truth value. -/
def boolChars (b : Bool) : List Char :=
  (if b then "true" else "false").toList

namespace Value

mutual

/-- The compact text of a value. -/
def chars : Value → List Char
  | .null => ['n', 'u', 'l', 'l']
  | .bool b => boolChars b
  | .number n => n.chars
  | .string s => stringChars s
  | .array [] => ['[', ']']
  | .array (item :: rest) => '[' :: item.chars ++ restChars rest
  | .object [] => ['\x7b', '\x7d']
  | .object ((key, value) :: rest) =>
      '\x7b' :: stringChars key ++ ':' :: value.chars ++ restMemberChars rest

/-- The items after the first one, and the closing bracket. -/
def restChars : List Value → List Char
  | [] => [']']
  | item :: rest => ',' :: item.chars ++ restChars rest

/-- The members after the first one, and the closing brace. -/
def restMemberChars : List (String × Value) → List Char
  | [] => ['\x7d']
  | (key, value) :: rest =>
      ',' :: stringChars key ++ ':' :: value.chars ++ restMemberChars rest

end

/-- A line break and the blanks at the start of a line of the given depth. -/
def lineBreak (depth : Nat) : List Char :=
  '\n' :: List.replicate (2 * depth) ' '

mutual

/-- The indented text of a value that stands at the given depth. -/
def prettyChars (depth : Nat) : Value → List Char
  | .null => ['n', 'u', 'l', 'l']
  | .bool b => boolChars b
  | .number n => n.chars
  | .string s => stringChars s
  | .array [] => ['[', ']']
  | .array (item :: rest) =>
      '[' :: lineBreak (depth + 1) ++ item.prettyChars (depth + 1) ++ prettyRest depth rest
  | .object [] => ['\x7b', '\x7d']
  | .object ((key, value) :: rest) =>
      '\x7b' :: lineBreak (depth + 1) ++ stringChars key ++ ':' :: ' ' ::
        value.prettyChars (depth + 1) ++ prettyRestMembers depth rest

/-- The items after the first one, each on a line, and the closing bracket. -/
def prettyRest (depth : Nat) : List Value → List Char
  | [] => lineBreak depth ++ [']']
  | item :: rest =>
      ',' :: lineBreak (depth + 1) ++ item.prettyChars (depth + 1) ++ prettyRest depth rest

/-- The members after the first one, each on a line, and the closing brace. -/
def prettyRestMembers (depth : Nat) : List (String × Value) → List Char
  | [] => lineBreak depth ++ ['\x7d']
  | (key, value) :: rest =>
      ',' :: lineBreak (depth + 1) ++ stringChars key ++ ':' :: ' ' ::
        value.prettyChars (depth + 1) ++ prettyRestMembers depth rest

end

/-- The compact text of a value. -/
def compact (value : Value) : String :=
  String.ofList value.chars

/-- The indented text of a value. -/
def pretty (value : Value) : String :=
  String.ofList (value.prettyChars 0)

end Value

/-- No string is written with a control character. -/
theorem not_control_of_mem_stringChar {c d : Char} (member : d ∈ stringChar c) :
    0x20 ≤ d.toNat := by
  simp only [stringChar] at member
  have digit : ∀ n : Nat, n < 16 → 0x20 ≤ (hexDigit n).toNat := by decide
  repeat' split at member
  all_goals simp only [List.mem_cons, List.not_mem_nil, or_false] at member
  all_goals first
    | (rcases member with rfl | rfl <;> decide)
    | (rcases member with rfl | rfl | rfl | rfl | rfl | rfl
       · decide
       · decide
       · decide
       · decide
       · exact digit _ (by omega)
       · exact digit _ (by omega))
    | (subst member; omega)

end JobConsole.Json
