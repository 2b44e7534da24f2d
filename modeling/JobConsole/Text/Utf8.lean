/-!
# UTF-8

Response bodies arrive as bytes.  A decoder takes one scalar value at a time
from the front; where the bytes are not well formed it takes the longest start
of a well-formed sequence, and at least one byte, and yields one mark.  The
lossy reading shows each mark as the replacement character U+FFFD; the strict
reading refuses a text that needs one.

The encoder writes a character as one to four bytes.
-/

namespace JobConsole.Text

/-- What stands at the front of a byte sequence: a character, or bytes that
begin no character. -/
inductive Utf8Unit where
  | scalar (c : Char)
  | damage
deriving DecidableEq

/-- The range in which the second byte of a sequence must lie, and the number of
continuation bytes, for a first byte.  The narrow ranges keep out overlong
forms, surrogates and values above U+10FFFF. -/
def utf8Lead (byte : UInt8) : Option (Nat × UInt8 × UInt8) :=
  if 0xc2 ≤ byte && byte ≤ 0xdf then some (1, 0x80, 0xbf)
  else if byte == 0xe0 then some (2, 0xa0, 0xbf)
  else if byte == 0xed then some (2, 0x80, 0x9f)
  else if 0xe1 ≤ byte && byte ≤ 0xef then some (2, 0x80, 0xbf)
  else if byte == 0xf0 then some (3, 0x90, 0xbf)
  else if 0xf1 ≤ byte && byte ≤ 0xf3 then some (3, 0x80, 0xbf)
  else if byte == 0xf4 then some (3, 0x80, 0x8f)
  else none

/-- The value bits of a first byte that announces the given number of
continuation bytes. -/
def utf8LeadBits (count : Nat) (byte : UInt8) : Nat :=
  if count = 1 then byte.toNat % 0x20
  else if count = 2 then byte.toNat % 0x10
  else byte.toNat % 0x08

/-- Takes the given number of continuation bytes, the first of them within the
given bounds.  The result is the character, or a mark of damage, and the bytes
that were not taken. -/
def utf8Continue (value : Nat) : Nat → UInt8 → UInt8 → List UInt8 → Utf8Unit × List UInt8
  | 0, _, _, rest => (.scalar (Char.ofNat value), rest)
  | _ + 1, _, _, [] => (.damage, [])
  | count + 1, low, high, byte :: rest =>
      if low ≤ byte && byte ≤ high then
        utf8Continue (0x40 * value + byte.toNat % 0x40) count 0x80 0xbf rest
      else
        (.damage, byte :: rest)

/-- Takes one unit from a byte sequence with the given first byte. -/
def utf8Next (byte : UInt8) (rest : List UInt8) : Utf8Unit × List UInt8 :=
  if byte < 0x80 then
    (.scalar (Char.ofNat byte.toNat), rest)
  else
    match utf8Lead byte with
    | none => (.damage, rest)
    | some (count, low, high) => utf8Continue (utf8LeadBits count byte) count low high rest

theorem length_utf8Continue_le (value count : Nat) (low high : UInt8) (bytes : List UInt8) :
    (utf8Continue value count low high bytes).2.length ≤ bytes.length := by
  induction count generalizing value low high bytes with
  | zero => simp [utf8Continue]
  | succ count ih =>
      cases bytes with
      | nil => simp [utf8Continue]
      | cons byte rest =>
          simp only [utf8Continue]
          split
          · exact Nat.le_succ_of_le (ih _ _ _ _)
          · simp

/-- A unit takes at least the first byte. -/
theorem length_utf8Next_le (byte : UInt8) (rest : List UInt8) :
    (utf8Next byte rest).2.length ≤ rest.length := by
  unfold utf8Next
  split
  · simp
  · split
    · simp
    · exact length_utf8Continue_le _ _ _ _ _

/-- The units of a byte sequence. -/
def utf8Units : List UInt8 → List Utf8Unit
  | [] => []
  | byte :: rest => (utf8Next byte rest).1 :: utf8Units (utf8Next byte rest).2
termination_by bytes => bytes.length
decreasing_by exact Nat.lt_succ_of_le (length_utf8Next_le byte rest)

/-- The units of a byte sequence, in reverse on top of those found so far. -/
def utf8UnitsOnto (found : List Utf8Unit) : List UInt8 → List Utf8Unit
  | [] => found
  | byte :: rest => utf8UnitsOnto ((utf8Next byte rest).1 :: found) (utf8Next byte rest).2
termination_by bytes => bytes.length
decreasing_by exact Nat.lt_succ_of_le (length_utf8Next_le byte rest)

theorem utf8UnitsOnto_eq (found : List Utf8Unit) (bytes : List UInt8) :
    utf8UnitsOnto found bytes = (utf8Units bytes).reverse ++ found := by
  fun_induction utf8UnitsOnto found bytes with
  | case1 => simp [utf8Units]
  | case2 found byte rest ih =>
      rw [ih, utf8Units]
      simp

/-- The character that shows a unit, with the given mark for damage. -/
def Utf8Unit.show (mark : Char) : Utf8Unit → Char
  | .scalar c => c
  | .damage => mark

/-- The replacement character, U+FFFD. -/
def replacement : Char := Char.ofNat 0xfffd

/-- The text of a byte sequence in which the given mark stands for damage. -/
def decodeMarked (mark : Char) (bytes : List UInt8) : List Char :=
  ((utf8UnitsOnto [] bytes).map (Utf8Unit.show mark)).reverse

/-- The text of a byte sequence, with the replacement character for damage. -/
def decodeLossy (bytes : List UInt8) : List Char :=
  decodeMarked replacement bytes

/-- Whether a byte sequence is well formed. -/
def isUtf8 (bytes : List UInt8) : Bool :=
  (utf8UnitsOnto [] bytes).all (· != .damage)

/-- The bytes of a character. -/
def utf8Bytes (c : Char) : List UInt8 :=
  let n := c.toNat
  if n < 0x80 then
    [n.toUInt8]
  else if n < 0x800 then
    [(0xc0 + n / 0x40).toUInt8, (0x80 + n % 0x40).toUInt8]
  else if n < 0x10000 then
    [(0xe0 + n / 0x1000).toUInt8, (0x80 + n / 0x40 % 0x40).toUInt8, (0x80 + n % 0x40).toUInt8]
  else
    [(0xf0 + n / 0x40000).toUInt8, (0x80 + n / 0x1000 % 0x40).toUInt8,
      (0x80 + n / 0x40 % 0x40).toUInt8, (0x80 + n % 0x40).toUInt8]

/-- The bytes of a text. -/
def encodeUtf8 (text : List Char) : List UInt8 :=
  text.flatMap utf8Bytes

end JobConsole.Text
