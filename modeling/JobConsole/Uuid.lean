import JobConsole.Json.Decode
import JobConsole.Json.Printer
import JobConsole.Text.Decimal

/-!
# Universally unique identifiers

An identifier has 128 bits.  It is read from 32 digits in base sixteen, or from
the same digits in groups of 8, 4, 4, 4 and 12 with hyphens between them; the
grouped form may stand in braces or behind the mark of a uniform resource name.
It is written in groups, with small letters.

`Uuid.Fault` says why a text is no identifier.
-/

namespace JobConsole

open JobConsole.Text

/-- An identifier of 128 bits. -/
structure Uuid where
  bits : BitVec 128
deriving DecidableEq

namespace Uuid

/-- The number that digits in base sixteen stand for, unless one of the
characters is no such digit. -/
def hexNumber? (digits : List Char) : Option Nat :=
  digits.foldlM (fun value c => (Json.Raw.hexValue? c).map fun digit => 16 * value + digit) 0

/-- The lengths of the five groups. -/
def groupLengths : List Nat :=
  [8, 4, 4, 4, 12]

/-- The digits of a grouped form, which has 36 characters. -/
def ungrouped? (text : List Char) : Option (List Char) :=
  let separators := [text[8]?, text[13]?, text[18]?, text[23]?]
  if text.length = 36 ∧ separators.all (· == some '-') then
    some (text.take 8 ++ (text.drop 9).take 4 ++ (text.drop 14).take 4 ++ (text.drop 19).take 4 ++
      text.drop 24)
  else
    none

/-- The mark of a uniform resource name, in small and in capital letters. -/
def nameMarks : List (List Char) :=
  ["urn:uuid:".toList, "URN:UUID:".toList]

/-- The part of a text inside its braces or behind its mark, and where it
starts.  The letters of the mark may be of either case. -/
def wrapped? (text : List Char) : Option (List Char × Nat) :=
  if text.length ≥ 2 ∧ text.head? = some '\x7b' ∧ text.getLast? = some '\x7d' then
    some (text.tail.dropLast, 1)
  else if (text.take 9).map Char.toLower = "urn:uuid:".toList then
    some (text.drop 9, 9)
  else
    none

/-- The digits that a text shows.  The mark must not mix cases. -/
def shownDigits? (text : List Char) : Option (List Char) :=
  if text.length = 32 then some text
  else
    match wrapped? text with
    | some (inner, 1) => ungrouped? inner
    | some (inner, _) => if text.take 9 ∈ nameMarks then ungrouped? inner else none
    | none => ungrouped? text

/-- Reads an identifier. -/
def read? (text : List Char) : Option Uuid := do
  let digits ← shownDigits? text
  let number ← hexNumber? digits
  some ⟨BitVec.ofNat 128 number⟩

/-- Reads an identifier from a text. -/
def ofText? (text : String) : Option Uuid :=
  read? text.toList

/-- The 32 digits of an identifier. -/
def digits (id : Uuid) : List Char :=
  let shortest := Nat.toDigits 16 id.bits.toNat
  List.replicate (32 - shortest.length) '0' ++ shortest

/-- The text of an identifier. -/
def text (id : Uuid) : String :=
  let digits := id.digits
  String.ofList (digits.take 8 ++ '-' :: (digits.drop 8).take 4 ++ '-' :: (digits.drop 12).take 4 ++
    '-' :: (digits.drop 16).take 4 ++ '-' :: digits.drop 20)

/-- Why a text is no identifier. -/
inductive Fault where
  | character (found : Char) (index : Nat)
  | length (found : Nat)
  | groupCount (found : Nat)
  | groupLength (group : Nat) (found : Nat)
deriving DecidableEq

namespace Fault

/-- What a fault is called. -/
def message : Fault → String
  | .character found index =>
      "invalid character: found `" ++ String.singleton found ++ "` at " ++ natText index
  | .length found => "invalid length: found " ++ natText found
  | .groupCount found => "invalid group count: expected 5, found " ++ natText found
  | .groupLength group found =>
      "invalid group length in group " ++ natText group ++ ": expected " ++
        natText (groupLengths.getD group 0) ++ ", found " ++ natText found

/-- The first character that is neither a digit in base sixteen nor a hyphen. -/
def strayCharacter? (start : Nat) : List Char → Option Fault
  | [] => none
  | c :: rest =>
      if c = '-' ∨ (Json.Raw.hexValue? c).isSome then strayCharacter? (start + 1) rest
      else some (.character c start)

/-- The lengths of the runs between hyphens, the first of them begun. -/
def runLengthsFrom (length : Nat) : List Char → List Nat
  | [] => [length]
  | c :: rest =>
      if c = '-' then length :: runLengthsFrom 0 rest else runLengthsFrom (length + 1) rest

/-- The group whose length is wrong, given the lengths of five groups: when the
first four are right it is the last one, which takes up all bytes of the text
behind the others. -/
def wrongGroup (size : Nat) (lengths : List Nat) : Fault :=
  let pairs := (lengths.zip groupLengths).take 4
  match pairs.findIdx? fun (found, expected) => found ≠ expected with
  | some group => .groupLength group (lengths.getD group 0)
  | none => .groupLength 4 (size - 24)

/-- The fault of digits and hyphens in a text of the given number of bytes, which
start at the given place.  Digits alone are too few or too many unless something
is around them. -/
def ofDigits (bare : Bool) (start size : Nat) (text : List Char) : Fault :=
  match strayCharacter? start text with
  | some fault => fault
  | none =>
      let lengths := runLengthsFrom 0 text
      if lengths.length = 1 ∧ bare then .length size
      else if lengths.length ≠ 5 then .groupCount lengths.length
      else wrongGroup size lengths

/-- The greatest number of bytes of an identifier: groups behind a mark. -/
def greatestSize : Nat := 45

/-- The fault of a text that is no identifier.  A text that is too long for every
form is not looked into.  One with as many bytes as a form is read as that form,
without what is around the groups; in any other text that is taken off first. -/
def of (text : List Char) : Fault :=
  let size := (String.ofList text).utf8ByteSize
  if size > greatestSize then .length size
  else if size = 32 ∨ size = 36 then ofDigits true 0 size text
  else
    match wrapped? text with
    | none => ofDigits true 0 size text
    | some (inner, start) =>
        if (String.ofList inner).utf8ByteSize = 36 then ofDigits true 0 36 inner
        else ofDigits false start size inner

end Fault

/-- An identifier as a value. -/
def encode (id : Uuid) : Json.Value :=
  .string id.text

/-- Decodes an identifier. -/
def decode? (raw : Json.Raw) : Option Uuid :=
  raw.text?.bind ofText?

/-- An identifier has 32 digits. -/
theorem length_digits (id : Uuid) : id.digits.length = 32 := by
  have bound : (Nat.toDigits 16 id.bits.toNat).length ≤ 32 :=
    (Nat.length_toDigits_le_iff (by decide) (by decide)).2 id.bits.isLt
  simp only [digits, List.length_append, List.length_replicate]
  omega

end Uuid

end JobConsole
