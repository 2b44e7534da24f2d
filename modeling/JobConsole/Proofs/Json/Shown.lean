import JobConsole.Json.Raw
import JobConsole.Proofs.Json.SortedMembers

/-!
# Trees that show values

A tree shows a value when the two have the same shape, member by member in the same
order.  A tree that is read strictly gives a value whose objects are in order and whose
integers have at most 64 bits; a tree that shows such a value gives it back.
-/

namespace JobConsole.Json

open JobConsole.Number
open JobConsole.Text

namespace Number

/-- A number is an integer. -/
def IsWhole : Number → Prop
  | .whole _ => True
  | .real _ => False

/-- A number is one that is read: an integer has at most 64 bits. -/
def Fits : Number → Prop
  | .whole i => leastSigned64 ≤ i ∧ i < 18446744073709551616
  | .real _ => True

/-- A number is an integer that is read as itself. -/
def IsExact (n : Number) : Prop :=
  n.IsWhole ∧ n.Fits

end Number

namespace Value

mutual

/-- A value and all values inside it have a property. -/
def Every (P : Value → Prop) : Value → Prop
  | .array items => P (.array items) ∧ ItemsEvery P items
  | .object members => P (.object members) ∧ MembersEvery P members
  | value => P value

/-- All items have a property, and so have the values inside them. -/
def ItemsEvery (P : Value → Prop) : List Value → Prop
  | [] => True
  | item :: rest => item.Every P ∧ ItemsEvery P rest

/-- The values of all members have a property, and so have the values inside them. -/
def MembersEvery (P : Value → Prop) : List (String × Value) → Prop
  | [] => True
  | (_, value) :: rest => value.Every P ∧ MembersEvery P rest

end

/-- A value is no number, or one with a property. -/
def NumberIs (P : Number → Prop) : Value → Prop
  | .number n => P n
  | _ => True

/-- A value is no object, or one whose members are in order. -/
def IsOrdered : Value → Prop
  | .object members => Ascending members
  | _ => True

/-- No number inside a value is a binary64 number. -/
def HasNoReal (value : Value) : Prop :=
  value.Every (NumberIs Number.IsWhole)

/-- Every number inside a value is an integer that is read as itself. -/
def IsExact (value : Value) : Prop :=
  value.Every (NumberIs Number.IsExact)

mutual

/-- Two properties of all values inside a value hold of each of them together. -/
theorem Every.imp₂ {P Q R : Value → Prop} (imp : ∀ value, P value → Q value → R value) :
    ∀ {value : Value}, value.Every P → value.Every Q → value.Every R
  | .null, p, q => imp _ p q
  | .bool _, p, q => imp _ p q
  | .number _, p, q => imp _ p q
  | .string _, p, q => imp _ p q
  | .array _, p, q => ⟨imp _ p.1 q.1, ItemsEvery.imp₂ imp p.2 q.2⟩
  | .object _, p, q => ⟨imp _ p.1 q.1, MembersEvery.imp₂ imp p.2 q.2⟩

theorem ItemsEvery.imp₂ {P Q R : Value → Prop} (imp : ∀ value, P value → Q value → R value) :
    ∀ {items : List Value}, ItemsEvery P items → ItemsEvery Q items → ItemsEvery R items
  | [], _, _ => trivial
  | _ :: _, p, q => ⟨Every.imp₂ imp p.1 q.1, ItemsEvery.imp₂ imp p.2 q.2⟩

theorem MembersEvery.imp₂ {P Q R : Value → Prop} (imp : ∀ value, P value → Q value → R value) :
    ∀ {members : List (String × Value)}, MembersEvery P members → MembersEvery Q members →
      MembersEvery R members
  | [], _, _ => trivial
  | _ :: _, p, q => ⟨Every.imp₂ imp p.1 q.1, MembersEvery.imp₂ imp p.2 q.2⟩

end

/-- Integers that are read are read as themselves. -/
theorem HasNoReal.isExact {value : Value} (noReal : value.HasNoReal)
    (fits : value.Every (NumberIs Number.Fits)) : value.IsExact := by
  refine Every.imp₂ (fun value isWhole fits => ?_) noReal fits
  cases value with
  | number n => exact ⟨isWhole, fits⟩
  | null | bool | string | array | object => trivial

theorem itemsEvery_iff {P : Value → Prop} {items : List Value} :
    ItemsEvery P items ↔ ∀ item ∈ items, item.Every P := by
  induction items with
  | nil => simp [ItemsEvery]
  | cons item rest ih => simp [ItemsEvery, ih]

theorem membersEvery_iff {P : Value → Prop} {members : List (String × Value)} :
    MembersEvery P members ↔ ∀ member ∈ members, member.2.Every P := by
  induction members with
  | nil => simp [MembersEvery]
  | cons member rest ih => simp [MembersEvery, ih]

mutual

/-- The number of arrays and objects around the innermost value. -/
def depth : Value → Nat
  | .array items => itemsDepth items + 1
  | .object members => membersDepth members + 1
  | _ => 0

/-- The greatest depth of an item. -/
def itemsDepth : List Value → Nat
  | [] => 0
  | item :: rest => max item.depth (itemsDepth rest)

/-- The greatest depth of a member. -/
def membersDepth : List (String × Value) → Nat
  | [] => 0
  | (_, value) :: rest => max value.depth (membersDepth rest)

end

theorem itemsDepth_le {items : List Value} {bound : Nat}
    (within : ∀ item ∈ items, item.depth ≤ bound) : itemsDepth items ≤ bound := by
  induction items with
  | nil => exact Nat.zero_le bound
  | cons item rest ih =>
      exact Nat.max_le.mpr ⟨within item List.mem_cons_self,
        ih fun other member => within other (List.mem_cons_of_mem item member)⟩

theorem membersDepth_le {members : List (String × Value)} {bound : Nat}
    (within : ∀ member ∈ members, member.2.depth ≤ bound) : membersDepth members ≤ bound := by
  induction members with
  | nil => exact Nat.zero_le bound
  | cons member rest ih =>
      exact Nat.max_le.mpr ⟨within member List.mem_cons_self,
        ih fun other found => within other (List.mem_cons_of_mem member found)⟩

end Value

namespace Raw

mutual

/-- A tree shows a value. -/
def Shows : Raw → Value → Prop
  | .null, .null => True
  | .bool b, .bool c => b = c
  | .number numeral, .number n => numeral.number? = some n
  | .string content, .string s => content = some s
  | .array items, .array values => ItemsShow items values
  | .object members, .object values => MembersShow members values
  | _, _ => False

/-- Trees show values, each tree the value in its place. -/
def ItemsShow : List Raw → List Value → Prop
  | [], [] => True
  | item :: items, value :: values => item.Shows value ∧ ItemsShow items values
  | _, _ => False

/-- Members of a tree show members of a value, each the one in its place. -/
def MembersShow : List (Option String × Raw) → List (String × Value) → Prop
  | [], [] => True
  | (key, item) :: members, (name, value) :: values =>
      key = some name ∧ item.Shows value ∧ MembersShow members values
  | _, _ => False

end

theorem shows_null_iff {raw : Raw} : raw.Shows .null ↔ raw = .null := by
  cases raw <;> simp [Shows]

theorem shows_bool_iff {raw : Raw} {b : Bool} : raw.Shows (.bool b) ↔ raw = .bool b := by
  cases raw <;> simp [Shows]

theorem shows_number_iff {raw : Raw} {n : Number} :
    raw.Shows (.number n) ↔ ∃ numeral, raw = .number numeral ∧ numeral.number? = some n := by
  cases raw <;> simp [Shows]

theorem shows_string_iff {raw : Raw} {s : String} :
    raw.Shows (.string s) ↔ raw = .string (some s) := by
  cases raw <;> simp [Shows]

theorem shows_array_iff {raw : Raw} {values : List Value} :
    raw.Shows (.array values) ↔ ∃ items, raw = .array items ∧ ItemsShow items values := by
  cases raw <;> simp [Shows]

theorem shows_object_iff {raw : Raw} {values : List (String × Value)} :
    raw.Shows (.object values) ↔ ∃ members, raw = .object members ∧ MembersShow members values := by
  cases raw <;> simp [Shows]

/-! ## Depths -/

mutual

/-- A tree is as deep as what it shows. -/
theorem depth_eq_of_shows : ∀ {raw : Raw} {value : Value}, raw.Shows value →
    raw.depth = value.depth
  | raw, .null, shown => by rw [shows_null_iff.mp shown]; rfl
  | raw, .bool b, shown => by rw [shows_bool_iff.mp shown]; rfl
  | raw, .number n, shown => by
      obtain ⟨numeral, rfl, -⟩ := shows_number_iff.mp shown
      rfl
  | raw, .string s, shown => by rw [shows_string_iff.mp shown]; rfl
  | .array items, .array values, shown => congrArg (· + 1) (itemsDepth_eq_of_show shown)
  | .object members, .object values, shown => congrArg (· + 1) (membersDepth_eq_of_show shown)

theorem itemsDepth_eq_of_show : ∀ {items : List Raw} {values : List Value},
    ItemsShow items values → itemsDepth items = Value.itemsDepth values
  | [], [], _ => rfl
  | _ :: _, _ :: _, shown =>
      congr (congrArg max (depth_eq_of_shows shown.1)) (itemsDepth_eq_of_show shown.2)

theorem membersDepth_eq_of_show : ∀ {members : List (Option String × Raw)}
    {values : List (String × Value)}, MembersShow members values →
      membersDepth members = Value.membersDepth values
  | [], [], _ => rfl
  | _ :: _, _ :: _, shown =>
      congr (congrArg max (depth_eq_of_shows shown.2.1)) (membersDepth_eq_of_show shown.2.2)

end

/-! ## Strict readings -/

mutual

/-- A tree that shows a value in order is read as this value. -/
theorem value?_of_shows : ∀ {raw : Raw} {value : Value}, raw.Shows value →
    value.Every Value.IsOrdered → raw.value? = some value
  | raw, .null, shown, _ => by rw [shows_null_iff.mp shown]; rfl
  | raw, .bool b, shown, _ => by rw [shows_bool_iff.mp shown]; rfl
  | raw, .number n, shown, _ => by
      obtain ⟨numeral, rfl, isNumber⟩ := shows_number_iff.mp shown
      rw [value?, isNumber, Option.map_some]
  | raw, .string s, shown, _ => by rw [shows_string_iff.mp shown]; rfl
  | .array items, .array values, shown, ordered => by
      rw [value?, itemValues?_of_show shown ordered.2, Option.map_some]
  | .object members, .object values, shown, ordered => by
      rw [value?, memberValues?_of_show shown ordered.2, Option.map_some,
        sortMembers_eq_self ordered.1]

theorem itemValues?_of_show : ∀ {items : List Raw} {values : List Value},
    ItemsShow items values → Value.ItemsEvery Value.IsOrdered values →
      itemValues? items = some values
  | [], [], _, _ => rfl
  | _ :: _, _ :: _, shown, ordered => by
      simp only [itemValues?, value?_of_shows shown.1 ordered.1,
        itemValues?_of_show shown.2 ordered.2]

theorem memberValues?_of_show : ∀ {members : List (Option String × Raw)}
    {values : List (String × Value)}, MembersShow members values →
      Value.MembersEvery Value.IsOrdered values → memberValues? members = some values
  | [], [], _, _ => rfl
  | _ :: _, _ :: _, shown, ordered => by
      simp only [memberValues?, shown.1, value?_of_shows shown.2.1 ordered.1,
        memberValues?_of_show shown.2.2 ordered.2]

end

/-- A value that was read strictly: its objects are in order, its numbers are such as
are read, and it is not deeper than the tree. -/
structure Settled (value : Value) (depth : Nat) : Prop where
  ordered : value.Every Value.IsOrdered
  fits : value.Every (Value.NumberIs Number.Fits)
  depth_le : value.depth ≤ depth

theorem Settled.mono {value : Value} {depth bound : Nat} (settled : Settled value depth)
    (within : depth ≤ bound) : Settled value bound :=
  ⟨settled.ordered, settled.fits, Nat.le_trans settled.depth_le within⟩

end Raw

/-- An integer that is read has at most 64 bits. -/
theorem Numeral.fits_of_number? {numeral : Numeral} {n : Number}
    (isNumber : numeral.number? = some n) : n.Fits := by
  simp only [number?] at isNumber
  split at isNumber
  · rename_i plain
    obtain ⟨-, small⟩ := Bool.and_eq_true_iff.mp plain
    have below : readDigits numeral.whole < 18446744073709551616 := of_decide_eq_true small
    cases isNumber
    simp only [Number.Fits, leastSigned64]
    omega
  · split at isNumber
    · rename_i negative
      simp only [Bool.and_eq_true, decide_eq_true_eq] at negative
      have bound : leastSigned64.natAbs = 9223372036854775808 := rfl
      cases isNumber
      simp only [Number.Fits, leastSigned64]
      omega
    · split at isNumber
      · obtain ⟨magnitude, -, rfl⟩ := Option.map_eq_some_iff.mp isNumber
        trivial
      · obtain ⟨magnitude, -, rfl⟩ := Option.map_eq_some_iff.mp isNumber
        trivial

namespace Raw

mutual

theorem settled_of_value? : ∀ {raw : Raw} {value : Value}, raw.value? = some value →
    Settled value raw.depth
  | .null, value, read => by cases read; exact ⟨trivial, trivial, Nat.le_refl _⟩
  | .bool b, value, read => by cases read; exact ⟨trivial, trivial, Nat.le_refl _⟩
  | .number numeral, value, read => by
      obtain ⟨n, isNumber, rfl⟩ := Option.map_eq_some_iff.mp read
      exact ⟨trivial, Numeral.fits_of_number? isNumber, Nat.le_refl _⟩
  | .string content, value, read => by
      obtain ⟨s, -, rfl⟩ := Option.map_eq_some_iff.mp read
      exact ⟨trivial, trivial, Nat.le_refl _⟩
  | .array items, value, read => by
      obtain ⟨values, isValues, rfl⟩ := Option.map_eq_some_iff.mp read
      have settled := settled_of_itemValues? isValues
      exact ⟨⟨trivial, Value.itemsEvery_iff.mpr fun item member => (settled item member).ordered⟩,
        ⟨trivial, Value.itemsEvery_iff.mpr fun item member => (settled item member).fits⟩,
        Nat.succ_le_succ (Value.itemsDepth_le fun item member => (settled item member).depth_le)⟩
  | .object members, value, read => by
      obtain ⟨values, isValues, rfl⟩ := Option.map_eq_some_iff.mp read
      have settled (member : String × Value) (found : member ∈ sortMembers values) :
          Settled member.2 (membersDepth members) :=
        settled_of_memberValues? isValues member (mem_of_mem_sortMembers found)
      exact ⟨⟨ascending_sortMembers values,
          Value.membersEvery_iff.mpr fun member found => (settled member found).ordered⟩,
        ⟨trivial, Value.membersEvery_iff.mpr fun member found => (settled member found).fits⟩,
        Nat.succ_le_succ
          (Value.membersDepth_le fun member found => (settled member found).depth_le)⟩

theorem settled_of_itemValues? : ∀ {items : List Raw} {values : List Value},
    itemValues? items = some values → ∀ value ∈ values, Settled value (itemsDepth items)
  | [], values, read, value, member => by
      cases read
      exact absurd member List.not_mem_nil
  | item :: rest, values, read, value, member => by
      simp only [itemValues?] at read
      split at read
      · rename_i first others isFirst areOthers
        cases read
        rcases List.mem_cons.mp member with rfl | later
        · exact (settled_of_value? isFirst).mono (Nat.le_max_left _ _)
        · exact (settled_of_itemValues? areOthers value later).mono (Nat.le_max_right _ _)
      · cases read

theorem settled_of_memberValues? : ∀ {members : List (Option String × Raw)}
    {values : List (String × Value)}, memberValues? members = some values →
      ∀ member ∈ values, Settled member.2 (membersDepth members)
  | [], values, read, member, found => by
      cases read
      exact absurd found List.not_mem_nil
  | (key, item) :: rest, values, read, member, found => by
      simp only [memberValues?] at read
      split at read
      · rename_i name first others _ isFirst areOthers
        cases read
        rcases List.mem_cons.mp found with rfl | later
        · exact (settled_of_value? isFirst).mono (Nat.le_max_left _ _)
        · exact (settled_of_memberValues? areOthers member later).mono (Nat.le_max_right _ _)
      · cases read

end

end Raw

end JobConsole.Json
