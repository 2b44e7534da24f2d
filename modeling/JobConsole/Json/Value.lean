import JobConsole.Number.Binary64

/-!
# JSON values

A value is what a text means: numbers have been read, escapes resolved.  The
members of an object keep an order, which is the order in which they are
written.  A free-form value that was read has its members sorted by key, each
key once; `Value.sorted` brings any value into this form.

Integers range from the least signed to the greatest unsigned number of 64
bits; all other numbers are binary64 numbers.
-/

namespace JobConsole.Json

open JobConsole.Number

/-- A number as it is read: an integer when the text shows one of at most 64
bits, a binary64 number otherwise. -/
inductive Number where
  | whole (value : Int)
  | real (value : Binary64)
deriving DecidableEq

/-- A JSON value. -/
inductive Value where
  | null
  | bool (value : Bool)
  | number (value : Number)
  | string (value : String)
  | array (items : List Value)
  | object (members : List (String × Value))

namespace Value

/-- An integer as a value. -/
def whole (i : Int) : Value :=
  .number (.whole i)

/-- A natural number as a value. -/
def natural (n : Nat) : Value :=
  .number (.whole n)

/-- The value of an optional datum; an absent one is `null`. -/
def ofOption {α : Type} (encode : α → Value) : Option α → Value
  | none => .null
  | some a => encode a

end Value

/-- The members with one more put in: sorted by key, the new one in the place of
an old one with the same key. -/
def insertMember {α : Type} (key : String) (value : α) :
    List (String × α) → List (String × α)
  | [] => [(key, value)]
  | (other, old) :: rest =>
      if key < other then (key, value) :: (other, old) :: rest
      else if key = other then (key, value) :: rest
      else (other, old) :: insertMember key value rest

/-- The members sorted by key; of several with one key the last one stays. -/
def sortMembers {α : Type} (members : List (String × α)) : List (String × α) :=
  members.foldl (fun sorted member => insertMember member.1 member.2 sorted) []

namespace Value

mutual

/-- The value with the members of every object sorted by key. -/
def sorted : Value → Value
  | .null => .null
  | .bool b => .bool b
  | .number n => .number n
  | .string s => .string s
  | .array items => .array (sortedItems items)
  | .object members => .object (sortMembers (sortedMembers members))

/-- The items, each of them sorted. -/
def sortedItems : List Value → List Value
  | [] => []
  | item :: rest => item.sorted :: sortedItems rest

/-- The members, the value of each of them sorted. -/
def sortedMembers : List (String × Value) → List (String × Value)
  | [] => []
  | (key, value) :: rest => (key, value.sorted) :: sortedMembers rest

end

end Value

end JobConsole.Json
