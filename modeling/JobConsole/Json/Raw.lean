import JobConsole.Json.Value
import JobConsole.Number.Signed64
import JobConsole.Text.Decimal

/-!
# Syntax trees of JSON texts

A tree holds what a text shows before anything is asked of it: numbers as runs
of digits, strings that may hold half of a surrogate pair or damaged bytes.  A
field that nobody reads is checked for syntax only, so such a tree is no error
by itself.  `Raw.toValue?` is the strict reading, in which every number must
have a value and every string must be a text.
-/

namespace JobConsole.Json

open JobConsole.Number
open JobConsole.Text

/-- The parts of a number in a text. -/
structure Numeral where
  negative : Bool
  whole : List Char
  fraction : Option (List Char)
  exponent : Option (Bool × List Char)

/-- The syntax tree of a JSON text.  A string without content is one that is no
text. -/
inductive Raw where
  | null
  | bool (value : Bool)
  | number (numeral : Numeral)
  | string (content : Option String)
  | array (items : List Raw)
  | object (members : List (Option String × Raw))

namespace Numeral

/-- A bound that unsigned numbers of 64 bits stay below. -/
def unsignedBound : Nat := UInt64.size

/-- The digits that fit in a significand of 64 bits, read from the left onto a
start, and the number of digits that were left out. -/
def significandFrom (value : Nat) : List Char → Nat × Nat
  | [] => (value, 0)
  | c :: rest =>
      if 10 * value + digitValue c < unsignedBound then
        significandFrom (10 * value + digitValue c) rest
      else
        (value, rest.length + 1)

/-- The greatest size of an exponent that is computed with. -/
def exponentBound : Nat := 2147483648

/-- The exponent that a sign and digits stand for, added to another one and kept
within 32 bits.  An exponent too large to be read is nothing. -/
def exponentFrom? (start : Int) : Option (Bool × List Char) → Option Int
  | none => some start
  | some (negative, digits) =>
      let size := readDigits digits
      if exponentBound ≤ size then none
      else if negative then some (max (start - size) (-(exponentBound : Int)))
      else some (min (start + size) (exponentBound - 1))

/-- Whether an exponent has a minus sign. -/
def shrinks : Option (Bool × List Char) → Bool
  | some (negative, _) => negative
  | none => false

/-- The magnitude of a number that is written with a fraction or an exponent, or
with more digits than fit in 64 bits. -/
def magnitude? (numeral : Numeral) : Option Binary64 :=
  let (start, dropped) := significandFrom 0 numeral.whole
  let fraction := numeral.fraction.getD []
  let (significand, ignored) := significandFrom start fraction
  let shift : Int := (dropped : Int) - (fraction.length - ignored : Nat)
  match exponentFrom? shift numeral.exponent with
  | some exponent => Binary64.ofDecimal? significand exponent
  | none =>
      if significand = 0 || shrinks numeral.exponent then some Binary64.zero else none

/-- The number that a numeral stands for.  An integer of at most 64 bits is kept
exactly; the negative zero and all others are binary64 numbers, and one that is
too large for them is nothing. -/
def number? (numeral : Numeral) : Option Number :=
  let size := readDigits numeral.whole
  let isWhole := numeral.fraction.isNone && numeral.exponent.isNone
  if isWhole && !numeral.negative && size < unsignedBound then
    some (.whole size)
  else if isWhole && numeral.negative && 0 < size && size ≤ leastSigned64.natAbs then
    some (.whole (-(size : Int)))
  else if numeral.negative then
    numeral.magnitude?.map fun x => .real x.neg
  else
    numeral.magnitude?.map .real

end Numeral

namespace Raw

mutual

/-- The number of arrays and objects around the innermost value. -/
def depth : Raw → Nat
  | .array items => itemsDepth items + 1
  | .object members => membersDepth members + 1
  | _ => 0

/-- The greatest depth of an item. -/
def itemsDepth : List Raw → Nat
  | [] => 0
  | item :: rest => max item.depth (itemsDepth rest)

/-- The greatest depth of a member. -/
def membersDepth : List (Option String × Raw) → Nat
  | [] => 0
  | (_, value) :: rest => max value.depth (membersDepth rest)

end

mutual

/-- The strict reading of a tree, whatever its depth. -/
def value? : Raw → Option Value
  | .null => some .null
  | .bool b => some (.bool b)
  | .number numeral => numeral.number?.map .number
  | .string content => content.map .string
  | .array items => (itemValues? items).map .array
  | .object members => (memberValues? members).map fun members => .object (sortMembers members)

/-- The strict reading of the items of an array. -/
def itemValues? : List Raw → Option (List Value)
  | [] => some []
  | item :: rest =>
      match item.value?, itemValues? rest with
      | some value, some values => some (value :: values)
      | _, _ => none

/-- The strict reading of the members of an object, in their order. -/
def memberValues? : List (Option String × Raw) → Option (List (String × Value))
  | [] => some []
  | (key, item) :: rest =>
      match key, item.value?, memberValues? rest with
      | some key, some value, some values => some ((key, value) :: values)
      | _, _, _ => none

end

/-- The greatest depth of a value that is read strictly. -/
def depthBound : Nat := 127

/-- Whether a tree can be read strictly. -/
def isStrict (raw : Raw) : Bool :=
  raw.depth ≤ depthBound && raw.value?.isSome

end Raw

end JobConsole.Json
