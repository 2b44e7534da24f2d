import Mathlib.Data.List.Induction
import Mathlib.Data.List.Sort
import JobConsole.Json.Decode
import JobConsole.Proofs.Json.Shown

/-!
# Members that repeat a key

Several members of an object may have one key.  Where the members of an object are sorted,
the last one with a key stays: `mem_sortMembers_iff`.  A strict reading is what the tree
shows, with the members of every object sorted in this way.  Where members are looked up by
the names of fields, a name must not be repeated.

None of this depends on the order of members with different keys: `Reorders`.
-/

namespace JobConsole.Json

variable {κ α : Type}

/-! ## The last member with a key -/

/-- A member stands behind all others with its key. -/
def IsLast (member : κ × α) (members : List (κ × α)) : Prop :=
  ∃ before after, members = before ++ member :: after ∧ ∀ other ∈ after, other.1 ≠ member.1

theorem IsLast.mem {member : κ × α} {members : List (κ × α)} (isLast : IsLast member members) :
    member ∈ members := by
  obtain ⟨before, after, rfl, -⟩ := isLast
  simp

theorem not_isLast_nil (member : κ × α) : ¬ IsLast member [] :=
  fun isLast => List.not_mem_nil isLast.mem

/-- One more member takes the place of those with its key. -/
theorem isLast_concat_iff {member last : κ × α} {members : List (κ × α)} :
    IsLast member (members ++ [last]) ↔
      member = last ∨ last.1 ≠ member.1 ∧ IsLast member members := by
  constructor
  · rintro ⟨before, after, split, others⟩
    rcases List.eq_nil_or_concat after with rfl | ⟨between, other, rfl⟩
    · obtain ⟨-, same⟩ := List.append_inj' split rfl
      exact .inl (List.singleton_inj.mp same).symm
    · rw [List.concat_eq_append, ← List.cons_append, ← List.append_assoc] at split
      obtain ⟨rfl, same⟩ := List.append_inj' split rfl
      rw [List.concat_eq_append, ← same] at others
      refine .inr ⟨others last (by simp), before, between, rfl, fun other found => ?_⟩
      exact others other (List.mem_append_left _ found)
  · rintro (rfl | ⟨other, before, after, rfl, others⟩)
    · exact ⟨members, [], rfl, by simp⟩
    · refine ⟨before, after ++ [last], by simp, fun member found => ?_⟩
      rcases List.mem_append.mp found with earlier | isNew
      · exact others member earlier
      · rw [List.mem_singleton.mp isNew]
        exact other

theorem isLast_cons_iff {member first : κ × α} {rest : List (κ × α)} :
    IsLast member (first :: rest) ↔
      IsLast member rest ∨ member = first ∧ member.1 ∉ rest.map Prod.fst := by
  constructor
  · rintro ⟨before, after, split, others⟩
    cases before with
    | nil =>
        obtain ⟨rfl, rfl⟩ := List.cons.inj split
        refine .inr ⟨rfl, fun found => ?_⟩
        obtain ⟨other, isOther, same⟩ := List.mem_map.mp found
        exact others other isOther same
    | cons _ before => exact .inl ⟨before, after, (List.cons.inj split).2, others⟩
  · rintro (⟨before, after, rfl, others⟩ | ⟨rfl, alone⟩)
    · exact ⟨first :: before, after, rfl, others⟩
    · exact ⟨[], rest, rfl, fun other found same => alone (same ▸ List.mem_map_of_mem found)⟩

/-- Among the members with some of the keys the last ones are the same. -/
theorem isLast_filter_iff (keep : κ → Bool) {member : κ × α} {members : List (κ × α)} :
    IsLast member (members.filter fun other => keep other.1) ↔
      keep member.1 = true ∧ IsLast member members := by
  induction members using List.reverseRecOn with
  | nil => simp [not_isLast_nil]
  | append_singleton members last ih =>
      by_cases kept : keep last.1 = true
      · have shown : [last].filter (fun other => keep other.1) = [last] := by simp [kept]
        rw [List.filter_append, shown, isLast_concat_iff, isLast_concat_iff, ih]
        constructor
        · rintro (rfl | ⟨other, isKept, isLast⟩)
          · exact ⟨kept, .inl rfl⟩
          · exact ⟨isKept, .inr ⟨other, isLast⟩⟩
        · rintro ⟨isKept, rfl | ⟨other, isLast⟩⟩
          · exact .inl rfl
          · exact .inr ⟨other, isKept, isLast⟩
      · have hidden : [last].filter (fun other => keep other.1) = [] := by simp [kept]
        rw [List.filter_append, hidden, List.append_nil, ih, isLast_concat_iff]
        constructor
        · rintro ⟨isKept, isLast⟩
          refine ⟨isKept, .inr ⟨?_, isLast⟩⟩
          intro same
          exact kept (same ▸ isKept)
        · rintro ⟨isKept, rfl | ⟨-, isLast⟩⟩
          · exact absurd isKept kept
          · exact ⟨isKept, isLast⟩

theorem exists_isLast_iff {key : κ} {members : List (κ × α)} :
    (∃ value, IsLast (key, value) members) ↔ key ∈ members.map Prod.fst := by
  constructor
  · rintro ⟨value, isLast⟩
    exact List.mem_map_of_mem isLast.mem
  · intro found
    induction members using List.reverseRecOn with
    | nil => exact absurd found List.not_mem_nil
    | append_singleton members last ih =>
        simp only [isLast_concat_iff]
        by_cases same : last.1 = key
        · exact ⟨last.2, .inl (Prod.ext same.symm rfl)⟩
        · rw [List.map_append, List.mem_append, List.map_singleton, List.mem_singleton] at found
          obtain ⟨value, isLast⟩ := ih (found.resolve_right (Ne.symm same))
          exact ⟨value, .inr ⟨same, isLast⟩⟩

/-! ## Members with one key -/

/-- The members with a key. -/
def withKey [DecidableEq κ] (key : κ) (members : List (κ × α)) : List (κ × α) :=
  members.filter fun member => member.1 = key

theorem withKey_eq_nil_iff [DecidableEq κ] {key : κ} {members : List (κ × α)} :
    withKey key members = [] ↔ key ∉ members.map Prod.fst := by
  simp only [withKey, List.filter_eq_nil_iff, decide_eq_true_eq, List.mem_map, not_exists, not_and]

/-- A member whose key is not repeated is the only one with it. -/
theorem withKey_eq_singleton [DecidableEq κ] [BEq κ] [LawfulBEq κ] {member : κ × α}
    {members : List (κ × α)} (found : member ∈ members)
    (single : (members.map Prod.fst).count member.1 ≤ 1) : withKey member.1 members = [member] := by
  obtain ⟨before, after, rfl⟩ := List.append_of_mem found
  rw [List.map_append, List.count_append, List.map_cons, List.count_cons_self] at single
  have notBefore : withKey member.1 before = [] :=
    withKey_eq_nil_iff.mpr (List.count_eq_zero.mp (by omega))
  have notAfter : withKey member.1 after = [] :=
    withKey_eq_nil_iff.mpr (List.count_eq_zero.mp (by omega))
  rw [withKey] at notBefore notAfter ⊢
  rw [List.filter_append, notBefore, List.filter_cons_of_pos (by simp), notAfter,
    List.nil_append]

/-! ## Other orders -/

/-- Members stand in another order, in which those with one key follow each other as
before. -/
structure Reorders [DecidableEq κ] (left right : List (κ × α)) : Prop where
  perm : left.Perm right
  sameOrder : ∀ key, withKey key left = withKey key right

namespace Reorders

variable [DecidableEq κ] {left right : List (κ × α)}

theorem symm (reorders : Reorders left right) : Reorders right left :=
  ⟨reorders.perm.symm, fun key => (reorders.sameOrder key).symm⟩

theorem isLast_iff (reorders : Reorders left right) {member : κ × α} :
    IsLast member left ↔ IsLast member right := by
  have alone (members : List (κ × α)) :
      IsLast member (withKey member.1 members) ↔ IsLast member members := by
    rw [withKey, isLast_filter_iff fun key => key = member.1]
    simp
  rw [← alone left, ← alone right, reorders.sameOrder]

end Reorders

theorem Raw.membersDepth_eq_of_perm {left right : List (Option String × Raw)}
    (perm : left.Perm right) : membersDepth left = membersDepth right := by
  induction perm with
  | nil => rfl
  | cons member _ ih => rw [membersDepth, membersDepth, ih]
  | swap first second rest => simp only [membersDepth, Nat.max_left_comm]
  | trans _ _ first second => exact first.trans second

/-! ## Sorting -/

/-- Putting a member in takes the place of the one with its key. -/
theorem mem_insertMember_iff {key : String} {value : α} {members : List (String × α)}
    (ascending : Ascending members) {member : String × α} :
    member ∈ insertMember key value members ↔
      member = (key, value) ∨ key ≠ member.1 ∧ member ∈ members := by
  induction members with
  | nil => simp [insertMember]
  | cons first rest ih =>
      obtain ⟨other, old⟩ := first
      obtain ⟨least, ascendingRest⟩ := List.pairwise_cons.mp ascending
      have apart (found : member ∈ rest) : other ≠ member.1 :=
        Std.ne_of_lt (least member found)
      simp only [insertMember]
      split
      · rename_i before
        have notOther : key ≠ other := Std.ne_of_lt before
        have notRest (found : member ∈ rest) : key ≠ member.1 :=
          Std.ne_of_lt (String.lt_trans before (least member found))
        grind
      · split
        · rename_i same
          subst same
          grind
        · rename_i different
          rw [List.mem_cons, ih ascendingRest, List.mem_cons]
          grind

/-- Sorting keeps the last member of each key, and nothing else. -/
theorem mem_sortMembers_iff {member : String × α} {members : List (String × α)} :
    member ∈ sortMembers members ↔ IsLast member members := by
  induction members using List.reverseRecOn with
  | nil => simp [sortMembers, not_isLast_nil]
  | append_singleton members last ih =>
      have sorted : sortMembers (members ++ [last]) =
          insertMember last.1 last.2 (sortMembers members) := by
        rw [sortMembers, List.foldl_append]
        rfl
      rw [sorted, mem_insertMember_iff (ascending_sortMembers members), ih, isLast_concat_iff]

/-- Members in order are known by what they are. -/
theorem Ascending.eq_of_mem_iff {left right : List (String × α)} (ascendingLeft : Ascending left)
    (ascendingRight : Ascending right) (same : ∀ member, member ∈ left ↔ member ∈ right) :
    left = right := by
  have irrefl : Std.Irrefl fun first second : String × α => first.1 < second.1 :=
    ⟨fun first => String.lt_irrefl first.1⟩
  have antisymm : Std.Antisymm fun first second : String × α => first.1 < second.1 :=
    ⟨fun first second before after => absurd after (String.lt_asymm before)⟩
  exact List.Pairwise.eq_of_mem_iff ascendingLeft ascendingRight same

/-! ## Looking up -/

theorem lookup_eq_none_iff_not_mem [BEq κ] [LawfulBEq κ] {key : κ} {members : List (κ × α)} :
    members.lookup key = none ↔ key ∉ members.map Prod.fst := by
  rw [List.lookup_eq_none_iff]
  simp only [bne_iff_ne, List.mem_map, not_exists, not_and]
  exact ⟨fun apart member found same => apart member found same.symm,
    fun apart member found same => apart member found same.symm⟩

/-- A key that is not repeated is looked up as its member. -/
theorem lookup_eq_some_iff_mem [BEq κ] [LawfulBEq κ] {key : κ} {value : α}
    {members : List (κ × α)}
    (single : (members.map Prod.fst).count key ≤ 1) :
    members.lookup key = some value ↔ (key, value) ∈ members := by
  rw [List.lookup_eq_some_iff]
  constructor
  · rintro ⟨before, after, rfl, -⟩
    simp
  · intro found
    obtain ⟨before, after, rfl⟩ := List.append_of_mem found
    refine ⟨before, after, rfl, fun other member => bne_iff_ne.mpr ?_⟩
    rintro rfl
    have earlier : 0 < (before.map Prod.fst).count other.1 :=
      List.count_pos_iff.mpr (List.mem_map_of_mem member)
    rw [List.map_append, List.count_append, List.map_cons, List.count_cons_self] at single
    omega

/-! ## Strict readings -/

namespace Raw

mutual

/-- A tree is read strictly as what it shows, with the members of every object sorted. -/
theorem value?_eq_sorted_of_shows : ∀ {raw : Raw} {plain : Value}, raw.Shows plain →
    raw.value? = some plain.sorted
  | raw, .null, shown => by rw [shows_null_iff.mp shown]; rfl
  | raw, .bool b, shown => by rw [shows_bool_iff.mp shown]; rfl
  | raw, .number n, shown => by
      obtain ⟨numeral, rfl, isNumber⟩ := shows_number_iff.mp shown
      rw [value?, isNumber, Option.map_some, Value.sorted]
  | raw, .string s, shown => by rw [shows_string_iff.mp shown]; rfl
  | .array items, .array values, shown => by
      rw [value?, itemValues?_eq_sorted_of_show shown, Option.map_some, Value.sorted]
  | .object members, .object values, shown => by
      rw [value?, memberValues?_eq_sorted_of_show shown, Option.map_some, Value.sorted]

theorem itemValues?_eq_sorted_of_show : ∀ {items : List Raw} {values : List Value},
    ItemsShow items values → itemValues? items = some (Value.sortedItems values)
  | [], [], _ => rfl
  | _ :: _, _ :: _, shown => by
      simp only [itemValues?, value?_eq_sorted_of_shows shown.1,
        itemValues?_eq_sorted_of_show shown.2, Value.sortedItems]

theorem memberValues?_eq_sorted_of_show : ∀ {members : List (Option String × Raw)}
    {values : List (String × Value)}, MembersShow members values →
      memberValues? members = some (Value.sortedMembers values)
  | [], [], _ => rfl
  | (_, _) :: _, (_, _) :: _, shown => by
      simp only [memberValues?, shown.1, value?_eq_sorted_of_shows shown.2.1,
        memberValues?_eq_sorted_of_show shown.2.2, Value.sortedMembers]

end

mutual

/-- A tree that is read strictly shows a value. -/
theorem exists_shows_of_value? : ∀ {raw : Raw} {value : Value}, raw.value? = some value →
    ∃ plain, raw.Shows plain
  | .null, _, _ => ⟨.null, trivial⟩
  | .bool b, _, _ => ⟨.bool b, rfl⟩
  | .number numeral, _, read => by
      obtain ⟨n, isNumber, -⟩ := Option.map_eq_some_iff.mp read
      exact ⟨.number n, isNumber⟩
  | .string content, _, read => by
      obtain ⟨s, isText, -⟩ := Option.map_eq_some_iff.mp read
      exact ⟨.string s, isText⟩
  | .array items, _, read => by
      obtain ⟨values, areValues, -⟩ := Option.map_eq_some_iff.mp read
      obtain ⟨plain, shown⟩ := exists_show_of_itemValues? areValues
      exact ⟨.array plain, shown⟩
  | .object members, _, read => by
      obtain ⟨values, areValues, -⟩ := Option.map_eq_some_iff.mp read
      obtain ⟨plain, shown⟩ := exists_show_of_memberValues? areValues
      exact ⟨.object plain, shown⟩

theorem exists_show_of_itemValues? : ∀ {items : List Raw} {values : List Value},
    itemValues? items = some values → ∃ plain, ItemsShow items plain
  | [], _, _ => ⟨[], trivial⟩
  | item :: rest, _, read => by
      simp only [itemValues?] at read
      split at read
      · rename_i isFirst areOthers
        obtain ⟨first, firstShown⟩ := exists_shows_of_value? isFirst
        obtain ⟨others, othersShown⟩ := exists_show_of_itemValues? areOthers
        exact ⟨first :: others, firstShown, othersShown⟩
      · cases read

theorem exists_show_of_memberValues? : ∀ {members : List (Option String × Raw)}
    {values : List (String × Value)}, memberValues? members = some values →
      ∃ plain, MembersShow members plain
  | [], _, _ => ⟨[], trivial⟩
  | (key, item) :: rest, _, read => by
      simp only [memberValues?] at read
      split at read
      · rename_i name _ _ isFirst areOthers
        obtain ⟨first, firstShown⟩ := exists_shows_of_value? isFirst
        obtain ⟨others, othersShown⟩ := exists_show_of_memberValues? areOthers
        exact ⟨(name, first) :: others, rfl, firstShown, othersShown⟩
      · cases read

end

/-- The strict reading of a tree is what the tree shows, sorted. -/
theorem value?_eq_some_iff {raw : Raw} {value : Value} :
    raw.value? = some value ↔ ∃ plain, raw.Shows plain ∧ plain.sorted = value := by
  constructor
  · intro read
    obtain ⟨plain, shown⟩ := exists_shows_of_value? read
    have sorted := value?_eq_sorted_of_shows shown
    exact ⟨plain, shown, Option.some.inj (sorted.symm.trans read)⟩
  · rintro ⟨plain, shown, rfl⟩
    exact value?_eq_sorted_of_shows shown

/-- Members are read strictly when each of them has a text for its key and a value. -/
theorem isSome_memberValues?_iff {members : List (Option String × Raw)} :
    (memberValues? members).isSome ↔
      ∀ member ∈ members, member.1.isSome ∧ member.2.value?.isSome := by
  induction members with
  | nil => simp [memberValues?]
  | cons member rest ih =>
      obtain ⟨key, item⟩ := member
      rw [List.forall_mem_cons, ← ih]
      simp only [memberValues?]
      cases key <;> cases item.value? <;> cases memberValues? rest <;> simp

/-- The values stand under the keys of the members. -/
theorem keys_of_memberValues? {members : List (Option String × Raw)}
    {values : List (String × Value)} (read : memberValues? members = some values) :
    members.map Prod.fst = values.map fun member => some member.1 := by
  induction members generalizing values with
  | nil =>
      cases read
      rfl
  | cons member rest ih =>
      simp only [memberValues?] at read
      split at read
      · rename_i isKey _ areOthers
        cases read
        rw [List.map_cons, List.map_cons, ih areOthers, isKey]
      · cases read

/-- The last of the values with a key is the value of the last member with this key. -/
theorem isLast_iff_of_memberValues? {members : List (Option String × Raw)}
    {values : List (String × Value)} (read : memberValues? members = some values)
    {name : String} {value : Value} :
    IsLast (name, value) values ↔
      ∃ raw, IsLast (some name, raw) members ∧ raw.value? = some value := by
  induction members generalizing values with
  | nil =>
      cases read
      simp [not_isLast_nil]
  | cons member rest ih =>
      obtain ⟨key, item⟩ := member
      simp only [memberValues?] at read
      split at read
      · rename_i first others isFirst areOthers
        cases read
        have alone : some name ∉ rest.map Prod.fst ↔ name ∉ others.map Prod.fst := by
          rw [keys_of_memberValues? areOthers]
          simp
        simp only [isLast_cons_iff, ih areOthers, alone, or_and_right, exists_or, Prod.mk.injEq]
        refine or_congr Iff.rfl ⟨?_, ?_⟩
        · rintro ⟨⟨rfl, rfl⟩, isAlone⟩
          exact ⟨item, ⟨⟨rfl, rfl⟩, isAlone⟩, isFirst⟩
        · rintro ⟨_, ⟨⟨same, rfl⟩, isAlone⟩, isValue⟩
          exact ⟨⟨Option.some.inj same, Option.some.inj (isValue.symm.trans isFirst)⟩, isAlone⟩
      · cases read

/-! ## Known members -/

theorem knownMembers?_cons_eq_some_iff {names : List String} {key : Option String} {item : Raw}
    {rest : List (Option String × Raw)} {fields : Fields} :
    knownMembers? names ((key, item) :: rest) = some fields ↔
      ∃ name found, key = some name ∧ knownMembers? names rest = some found ∧
        (name ∉ names ∧ fields = found ∨
          name ∈ names ∧ found.lookup name = none ∧ fields = (name, item) :: found) := by
  constructor
  · intro known
    simp only [knownMembers?] at known
    split at known
    · rename_i name found restKnown
      refine ⟨name, found, rfl, restKnown, ?_⟩
      by_cases isName : name ∈ names
      · cases isNew : found.lookup name with
        | none =>
            simp only [isName, isNew, List.contains_eq_mem, decide_true, Bool.not_true,
              Bool.false_eq_true, Option.isSome_none, if_false, Option.some.injEq] at known
            exact .inr ⟨isName, rfl, known.symm⟩
        | some earlier => simp [isName, isNew] at known
      · simp only [isName, List.contains_eq_mem, decide_false, Bool.not_false, if_true,
          Option.some.injEq] at known
        exact .inl ⟨isName, known.symm⟩
    · cases known
  · rintro ⟨name, found, rfl, restKnown, ⟨unknown, rfl⟩ | ⟨isName, isNew, rfl⟩⟩
    · simp [knownMembers?, restKnown, unknown]
    · simp [knownMembers?, restKnown, isName, isNew]

/-- What is looked up under one of the names is the first member with this key. -/
theorem lookup_of_knownMembers? {names : List String} {members : List (Option String × Raw)}
    {fields : Fields} (known : knownMembers? names members = some fields) {name : String}
    (isName : name ∈ names) : fields.lookup name = members.lookup (some name) := by
  induction members generalizing fields with
  | nil =>
      cases known
      rfl
  | cons member rest ih =>
      obtain ⟨other, found, isKey, restKnown, kept⟩ := knownMembers?_cons_eq_some_iff.mp known
      obtain ⟨_, item⟩ := member
      cases isKey
      rcases kept with ⟨unknown, rfl⟩ | ⟨-, -, rfl⟩
      · have apart : (some name == some other) = false :=
          beq_false_of_ne fun same => unknown (Option.some.inj same ▸ isName)
        rw [List.lookup_cons, apart, ih restKnown]
      · rw [List.lookup_cons, List.lookup_cons, ih restKnown]
        rfl

/-- Members are looked up when each of them has a text for its key and none of the names is
repeated. -/
theorem exists_knownMembers?_iff {names : List String} {members : List (Option String × Raw)} :
    (∃ fields, knownMembers? names members = some fields) ↔
      (∀ member ∈ members, member.1.isSome) ∧
        ∀ name ∈ names, (members.map Prod.fst).count (some name) ≤ 1 := by
  induction members with
  | nil => simp [knownMembers?]
  | cons member rest ih =>
      obtain ⟨key, item⟩ := member
      simp only [List.map_cons, List.count_cons, List.forall_mem_cons]
      constructor
      · rintro ⟨fields, known⟩
        obtain ⟨other, found, rfl, restKnown, kept⟩ := knownMembers?_cons_eq_some_iff.mp known
        obtain ⟨areTexts, single⟩ := ih.mp ⟨found, restKnown⟩
        refine ⟨⟨rfl, areTexts⟩, fun name isName => ?_⟩
        by_cases same : other = name
        · subst same
          rcases kept with ⟨unknown, -⟩ | ⟨-, isNew, -⟩
          · exact absurd isName unknown
          · rw [lookup_of_knownMembers? restKnown isName, lookup_eq_none_iff_not_mem] at isNew
            rw [List.count_eq_zero.mpr isNew, Nat.zero_add]
            split <;> omega
        · have apart : (some other == some name) = false := by simpa using same
          rw [apart]
          exact single name isName
      · rintro ⟨⟨isText, areTexts⟩, single⟩
        obtain ⟨other, rfl⟩ := Option.isSome_iff_exists.mp isText
        obtain ⟨found, restKnown⟩ := ih.mpr
          ⟨areTexts, fun name isName => Nat.le_trans (Nat.le_add_right _ _) (single name isName)⟩
        by_cases isName : other ∈ names
        · have alone := single other isName
          rw [beq_self_eq_true, if_pos rfl] at alone
          have isNew : found.lookup other = none := by
            rw [lookup_of_knownMembers? restKnown isName, lookup_eq_none_iff_not_mem]
            exact List.count_eq_zero.mp (by omega)
          exact ⟨_, knownMembers?_cons_eq_some_iff.mpr
            ⟨other, found, rfl, restKnown, .inr ⟨isName, isNew, rfl⟩⟩⟩
        · exact ⟨found, knownMembers?_cons_eq_some_iff.mpr
            ⟨other, found, rfl, restKnown, .inl ⟨isName, rfl⟩⟩⟩

end Raw

end JobConsole.Json
