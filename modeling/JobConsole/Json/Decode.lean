import JobConsole.Json.Reader
import JobConsole.Number.Signed64

/-!
# Decoding records

A record type names its fields in an order.  A text may show a record as an
object, in which the fields stand under their names, or as an array, in which
they stand in their order.  Members with other names are ignored; a field that
is given twice makes the object no record, and so do more items than fields.

Decoders are functions to `Option`: a text that does not decode has no further
reason.
-/

namespace JobConsole.Json

open JobConsole.Number

/-- The fields that a text gives to a record. -/
abbrev Fields : Type :=
  List (String × Raw)

namespace Raw

/-- The members with one of the given names, unless a key is no text or a name
is given twice. -/
def knownMembers? (names : List String) : List (Option String × Raw) → Option Fields
  | [] => some []
  | (key, value) :: rest =>
      match key, knownMembers? names rest with
      | some key, some found =>
          if !names.contains key then some found
          else if (found.lookup key).isSome then none
          else some ((key, value) :: found)
      | _, _ => none

/-- The fields of a record with the given names. -/
def fields? (names : List String) : Raw → Option Fields
  | .object members => knownMembers? names members
  | .array items => if items.length ≤ names.length then some (names.zip items) else none
  | _ => none

/-- A text. -/
def text? : Raw → Option String
  | .string content => content
  | _ => none

/-- A truth value. -/
def bool? : Raw → Option Bool
  | .bool b => some b
  | _ => none

/-- An integer between two bounds, both of them included.  A number with a
fraction or an exponent is no integer. -/
def whole? (low high : Int) : Raw → Option Int
  | .number numeral =>
      match numeral.number? with
      | some (.whole i) => if low ≤ i ∧ i ≤ high then some i else none
      | _ => none
  | _ => none

/-- A signed number of 64 bits. -/
def signed? (raw : Raw) : Option Int :=
  raw.whole? leastSigned64 greatestSigned64

/-- An unsigned number of the given number of bits. -/
def unsigned? (bits : Nat) (raw : Raw) : Option Nat :=
  (raw.whole? 0 (Nat.pow 2 bits - 1)).map Int.toNat

/-- A binary64 number; an integer is rounded to one. -/
def real? : Raw → Option Binary64
  | .number numeral =>
      match numeral.number? with
      | some (.whole i) => some (Binary64.ofInt i)
      | some (.real x) => some x
      | none => none
  | _ => none

/-- An optional datum, which `null` leaves out. -/
def option? {α : Type} (decode : Raw → Option α) : Raw → Option (Option α)
  | .null => some none
  | raw => (decode raw).map some

/-- The data of all items of a list, if each of them decodes. -/
def all? {α : Type} (decode : Raw → Option α) : List Raw → Option (List α)
  | [] => some []
  | item :: rest =>
      match decode item, all? decode rest with
      | some first, some others => some (first :: others)
      | _, _ => none

/-- A list of data. -/
def list? {α : Type} (decode : Raw → Option α) : Raw → Option (List α)
  | .array items => all? decode items
  | _ => none

end Raw

namespace Fields

/-- A field that must be given. -/
def required? {α : Type} (fields : Fields) (name : String) (decode : Raw → Option α) :
    Option α :=
  match fields.lookup name with
  | some raw => decode raw
  | none => none

/-- A field with a value for when it is not given. -/
def given? {α : Type} (fields : Fields) (name : String) (standard : α)
    (decode : Raw → Option α) : Option α :=
  match fields.lookup name with
  | some raw => decode raw
  | none => some standard

/-- A field that may be left out or `null`. -/
def optional? {α : Type} (fields : Fields) (name : String) (decode : Raw → Option α) :
    Option (Option α) :=
  fields.given? name none (Raw.option? decode)

end Fields

/-- Decodes a text. -/
def decode? {α : Type} (decode : Raw → Option α) (text : String) : Option α :=
  (Raw.ofString? text).bind decode

/-- Decodes a body. -/
def decodeBytes? {α : Type} (decode : Raw → Option α) (bytes : List UInt8) : Option α :=
  (Raw.ofBytes? bytes).bind decode

/-- A list decodes to as many data as it has items. -/
theorem Raw.length_of_all? {α : Type} {decode : Raw → Option α} {items : List Raw}
    {data : List α} (decoded : Raw.all? decode items = some data) :
    data.length = items.length := by
  induction items generalizing data with
  | nil => simp_all [Raw.all?]
  | cons item rest ih =>
      simp only [Raw.all?] at decoded
      split at decoded
      · rename_i first others _ restDecoded
        cases decoded
        simp [ih restDecoded]
      · contradiction

end JobConsole.Json
