import JobConsole.Json.Value

/-!
# Members in order

`sortMembers` brings members into the ascending order of their keys and keeps one of
each.  Members that are in this order already stay as they are, so what was sorted once
is not changed by sorting it again.
-/

namespace JobConsole.Json

variable {α : Type}

/-- Members stand in the ascending order of their keys, each key once. -/
def Ascending (members : List (String × α)) : Prop :=
  members.Pairwise fun first second => first.1 < second.1

theorem mem_of_mem_insertMember {key : String} {value : α} {members : List (String × α)}
    {member : String × α} (found : member ∈ insertMember key value members) :
    member = (key, value) ∨ member ∈ members := by
  induction members with
  | nil => exact .inl (List.mem_singleton.mp found)
  | cons first rest ih =>
      obtain ⟨other, old⟩ := first
      simp only [insertMember] at found
      split at found
      · exact List.mem_cons.mp found
      · split at found
        · rcases List.mem_cons.mp found with same | later
          · exact .inl same
          · exact .inr (List.mem_cons_of_mem _ later)
        · rcases List.mem_cons.mp found with same | later
          · exact .inr (same ▸ List.mem_cons_self)
          · rcases ih later with isNew | isOld
            · exact .inl isNew
            · exact .inr (List.mem_cons_of_mem _ isOld)

/-- A member that is put in keeps the others in order. -/
theorem Ascending.insertMember {members : List (String × α)} (ascending : Ascending members)
    (key : String) (value : α) : Ascending (insertMember key value members) := by
  induction members with
  | nil => exact List.pairwise_singleton _ _
  | cons first rest ih =>
      obtain ⟨other, old⟩ := first
      obtain ⟨least, ascendingRest⟩ := List.pairwise_cons.mp ascending
      simp only [Json.insertMember]
      split
      · rename_i before
        refine List.pairwise_cons.mpr ⟨?_, ascending⟩
        intro member found
        rcases List.mem_cons.mp found with rfl | later
        · exact before
        · exact String.lt_trans before (least member later)
      · rename_i notBefore
        split
        · rename_i same
          subst same
          exact List.pairwise_cons.mpr ⟨least, ascendingRest⟩
        · rename_i different
          refine List.pairwise_cons.mpr ⟨?_, ih ascendingRest⟩
          intro member found
          rcases mem_of_mem_insertMember found with rfl | later
          · exact Std.lt_of_le_of_ne (Std.not_lt.mp notBefore) (Ne.symm different)
          · exact least member later

theorem Ascending.nodup_keys {members : List (String × α)} (ascending : Ascending members) :
    (members.map Prod.fst).Nodup := by
  refine List.pairwise_map.mpr (ascending.imp fun {first second} before same => ?_)
  rw [same] at before
  exact String.lt_irrefl _ before

theorem Ascending.foldl {sorted : List (String × α)} (ascending : Ascending sorted)
    (members : List (String × α)) :
    Ascending (members.foldl
      (fun sorted member => Json.insertMember member.1 member.2 sorted) sorted) := by
  induction members generalizing sorted with
  | nil => exact ascending
  | cons first rest ih => exact ih (ascending.insertMember first.1 first.2)

theorem ascending_sortMembers (members : List (String × α)) :
    Ascending (sortMembers members) :=
  Ascending.foldl List.Pairwise.nil members

theorem mem_of_mem_sortMembers {members : List (String × α)} {member : String × α}
    (found : member ∈ sortMembers members) : member ∈ members := by
  have grown (rest sorted : List (String × α))
      (found : member ∈ rest.foldl
        (fun sorted member => insertMember member.1 member.2 sorted) sorted) :
      member ∈ sorted ∨ member ∈ rest := by
    induction rest generalizing sorted with
    | nil => exact .inl found
    | cons first rest ih =>
        rcases ih _ found with early | late
        · rcases mem_of_mem_insertMember early with rfl | isOld
          · exact .inr List.mem_cons_self
          · exact .inl isOld
        · exact .inr (List.mem_cons_of_mem _ late)
  rcases grown members [] found with none | member
  · exact absurd none List.not_mem_nil
  · exact member

/-- A member behind all others is put in at the end. -/
theorem insertMember_eq_concat {key : String} {value : α} {members : List (String × α)}
    (last : ∀ member ∈ members, member.1 < key) :
    insertMember key value members = members ++ [(key, value)] := by
  induction members with
  | nil => rfl
  | cons first rest ih =>
      obtain ⟨other, old⟩ := first
      have before : other < key := last _ List.mem_cons_self
      have different : key ≠ other := by
        rintro rfl
        exact String.lt_irrefl _ before
      rw [insertMember, if_neg (String.lt_asymm before), if_neg different,
        ih fun member later => last member (List.mem_cons_of_mem _ later), List.cons_append]

/-- Members that are in order stay as they are. -/
theorem sortMembers_eq_self {members : List (String × α)} (ascending : Ascending members) :
    sortMembers members = members := by
  have grown (rest sorted : List (String × α)) (ascending : Ascending (sorted ++ rest)) :
      rest.foldl (fun sorted member => insertMember member.1 member.2 sorted) sorted =
        sorted ++ rest := by
    induction rest generalizing sorted with
    | nil => exact (List.append_nil sorted).symm
    | cons first rest ih =>
        have last : ∀ member ∈ sorted, member.1 < first.1 := fun member found =>
          (List.pairwise_append.mp ascending).2.2 member found first List.mem_cons_self
        rw [List.append_cons] at ascending ⊢
        rw [List.foldl_cons, insertMember_eq_concat last]
        exact ih _ ascending
  exact grown members [] ascending

end JobConsole.Json
