import JobConsole.Json.Raw
import JobConsole.Text.Utf8

/-!
# Reading JSON texts

The reader follows the grammar of RFC 8259 and accepts nothing else: four blank
characters, no comments, no trailing commas, no leading zeros, no control
characters in strings.  It builds the syntax tree, in which half of a surrogate
pair is no error yet.  A character may stand for bytes that cannot be read: a
string in which it stands is no text, and anywhere else it is an error.

Every call of the reader uses up one unit of fuel and every second call at
least one character, so the fuel that `Raw.read?` provides is never short.
-/

namespace JobConsole.Json

open JobConsole.Text

namespace Raw

/-- The blanks between the parts of a JSON text. -/
def isSpace (c : Char) : Bool :=
  c == ' ' || c == '\n' || c == '\t' || c == '\r'

/-- A text without its leading blanks. -/
def skipSpace (text : List Char) : List Char :=
  text.dropWhile isSpace

/-- The value of a digit in base sixteen, in either case. -/
def hexValue? (c : Char) : Option Nat :=
  if '0' ≤ c ∧ c ≤ '9' then some (c.toNat - 48)
  else if 'a' ≤ c ∧ c ≤ 'f' then some (c.toNat - 87)
  else if 'A' ≤ c ∧ c ≤ 'F' then some (c.toNat - 55)
  else none

/-- The unit that four digits in base sixteen stand for. -/
def unit? (a b c d : Char) : Option Nat :=
  match hexValue? a, hexValue? b, hexValue? c, hexValue? d with
  | some a, some b, some c, some d => some (((a * 16 + b) * 16 + c) * 16 + d)
  | _, _, _, _ => none

/-- The character of an escape of one letter. -/
def escaped? (c : Char) : Option Char :=
  if c == '\"' || c == '\\' || c == '/' then some c
  else if c == 'b' then some '\x08'
  else if c == 'f' then some '\x0c'
  else if c == 'n' then some '\n'
  else if c == 'r' then some '\r'
  else if c == 't' then some '\t'
  else none

/-- A string that is being read: its characters so far in reverse, the first
half of a surrogate pair if the last unit was one, and whether all before it is
a text. -/
structure PartialString where
  found : List Char
  half : Option Nat
  isText : Bool

namespace PartialString

/-- Nothing read yet. -/
def empty : PartialString :=
  ⟨[], none, true⟩

/-- One more character.  A half before it stays without its partner. -/
def push (partialString : PartialString) (c : Char) : PartialString :=
  ⟨c :: partialString.found, none, partialString.isText && partialString.half.isNone⟩

/-- Bytes that cannot be read. -/
def pushDamage (partialString : PartialString) : PartialString :=
  ⟨partialString.found, none, false⟩

/-- One more unit of sixteen bits. -/
def pushUnit (partialString : PartialString) (unit : Nat) : PartialString :=
  let whole := partialString.isText && partialString.half.isNone
  if 0xd800 ≤ unit ∧ unit < 0xdc00 then
    ⟨partialString.found, some unit, whole⟩
  else if 0xdc00 ≤ unit ∧ unit < 0xe000 then
    match partialString.half with
    | some half =>
        ⟨Char.ofNat (0x10000 + (half - 0xd800) * 0x400 + (unit - 0xdc00)) :: partialString.found,
          none, partialString.isText⟩
    | none => ⟨partialString.found, none, false⟩
  else
    ⟨Char.ofNat unit :: partialString.found, none, whole⟩

/-- The text that was read, if it is one. -/
def content (partialString : PartialString) : Option String :=
  if partialString.isText && partialString.half.isNone then
    some (String.ofList partialString.found.reverse)
  else
    none

end PartialString

/-- Reads a string up to its closing quote, from inside it. -/
def readString (damage : Option Char) (partialString : PartialString) :
    List Char → Option (Option String × List Char)
  | [] => none
  | '\"' :: rest => some (partialString.content, rest)
  | '\\' :: 'u' :: a :: b :: c :: d :: rest =>
      match unit? a b c d with
      | some unit => readString damage (partialString.pushUnit unit) rest
      | none => none
  | '\\' :: letter :: rest =>
      match escaped? letter with
      | some c => readString damage (partialString.push c) rest
      | none => none
  | c :: rest =>
      if c.toNat < 0x20 || c == '\\' then none
      else if damage = some c then readString damage partialString.pushDamage rest
      else readString damage (partialString.push c) rest

/-- Reads a run of digits that is not empty. -/
def readDigitRun? (text : List Char) : Option (List Char × List Char) :=
  match text.span isDigit with
  | ([], _) => none
  | (digits, rest) => some (digits, rest)

/-- Reads the fraction of a number, if there is one. -/
def readFraction? : List Char → Option (Option (List Char) × List Char)
  | '.' :: rest => (readDigitRun? rest).map fun (digits, rest) => (some digits, rest)
  | rest => some (none, rest)

/-- Reads the sign of an exponent. -/
def readExponentSign : List Char → Bool × List Char
  | '-' :: rest => (true, rest)
  | '+' :: rest => (false, rest)
  | rest => (false, rest)

/-- Reads the digits of an exponent after its letter. -/
def readExponentDigits? (text : List Char) : Option (Option (Bool × List Char) × List Char) :=
  let (negative, rest) := readExponentSign text
  (readDigitRun? rest).map fun (digits, rest) => (some (negative, digits), rest)

/-- Reads the exponent of a number, if there is one. -/
def readExponent? : List Char → Option (Option (Bool × List Char) × List Char)
  | 'e' :: rest => readExponentDigits? rest
  | 'E' :: rest => readExponentDigits? rest
  | rest => some (none, rest)

/-- Reads the integer part of a number: a zero alone, or digits that start with
another one. -/
def readWhole? (text : List Char) : Option (List Char × List Char) :=
  match readDigitRun? text with
  | some ('0' :: _ :: _, _) => none
  | result => result

/-- Reads a number after its sign. -/
def readNumeral? (negative : Bool) (text : List Char) : Option (Numeral × List Char) := do
  let (whole, rest) ← readWhole? text
  let (fraction, rest) ← readFraction? rest
  let (exponent, rest) ← readExponent? rest
  some (⟨negative, whole, fraction, exponent⟩, rest)

mutual

/-- Reads a value from its first character on. -/
def readValue (damage : Option Char) : Nat → List Char → Option (Raw × List Char)
  | 0, _ => none
  | fuel + 1, text =>
      match text with
      | 'n' :: 'u' :: 'l' :: 'l' :: rest => some (.null, rest)
      | 't' :: 'r' :: 'u' :: 'e' :: rest => some (.bool true, rest)
      | 'f' :: 'a' :: 'l' :: 's' :: 'e' :: rest => some (.bool false, rest)
      | '\"' :: rest =>
          (readString damage .empty rest).map fun (content, rest) => (.string content, rest)
      | '[' :: rest =>
          match skipSpace rest with
          | ']' :: rest => some (.array [], rest)
          | rest => readItems damage fuel [] rest
      | '\x7b' :: rest =>
          match skipSpace rest with
          | '\x7d' :: rest => some (.object [], rest)
          | rest => readMembers damage fuel [] rest
      | '-' :: rest => (readNumeral? true rest).map fun (numeral, rest) => (.number numeral, rest)
      | rest => (readNumeral? false rest).map fun (numeral, rest) => (.number numeral, rest)

/-- Reads the items of an array from the first character of one on, and the
closing bracket. -/
def readItems (damage : Option Char) : Nat → List Raw → List Char → Option (Raw × List Char)
  | 0, _, _ => none
  | fuel + 1, found, text =>
      match readValue damage fuel text with
      | none => none
      | some (item, rest) =>
          match skipSpace rest with
          | ',' :: rest => readItems damage fuel (item :: found) (skipSpace rest)
          | ']' :: rest => some (.array (item :: found).reverse, rest)
          | _ => none

/-- Reads the members of an object from the quote of a key on, and the closing
brace. -/
def readMembers (damage : Option Char) :
    Nat → List (Option String × Raw) → List Char → Option (Raw × List Char)
  | 0, _, _ => none
  | fuel + 1, found, text =>
      match text with
      | '\"' :: rest =>
          match readString damage .empty rest with
          | none => none
          | some (key, rest) =>
              match skipSpace rest with
              | ':' :: rest =>
                  match readValue damage fuel (skipSpace rest) with
                  | none => none
                  | some (item, rest) =>
                      match skipSpace rest with
                      | ',' :: rest =>
                          readMembers damage fuel ((key, item) :: found) (skipSpace rest)
                      | '\x7d' :: rest => some (.object ((key, item) :: found).reverse, rest)
                      | _ => none
              | _ => none
      | _ => none

end

/-- Reads a whole text in which a character may stand for damage: one value with
blanks around it. -/
def readDamaged? (damage : Option Char) (text : List Char) : Option Raw :=
  match readValue damage (2 * text.length + 2) (skipSpace text) with
  | some (raw, rest) => if (skipSpace rest).isEmpty then some raw else none
  | none => none

/-- Reads a whole text. -/
def read? (text : List Char) : Option Raw :=
  readDamaged? none text

/-- Reads a text. -/
def ofString? (text : String) : Option Raw :=
  read? text.toList

/-- A character that a text does not use, from a code point upwards.  One of as
many candidates as the text has characters, and one more, is free. -/
def unusedFrom (text : List Char) (candidate : Nat) : Nat → Char
  | 0 => Char.ofNat candidate
  | tries + 1 =>
      if text.contains (Char.ofNat candidate) then unusedFrom text (candidate + 1) tries
      else Char.ofNat candidate

/-- Reads the bytes of a body.  Bytes that are not well formed may stand inside
strings, and such a string is no text: a character that the body does not use
stands for them. -/
def ofBytes? (bytes : List UInt8) : Option Raw :=
  if isUtf8 bytes then
    read? (decodeLossy bytes)
  else
    let damage := unusedFrom (decodeLossy bytes) 0xe000 bytes.length
    readDamaged? (some damage) (decodeMarked damage bytes)

end Raw

end JobConsole.Json
