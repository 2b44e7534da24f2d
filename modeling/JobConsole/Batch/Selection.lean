/-!
# Selections

A selection is a set of identifiers that is not empty.  It is listed in
ascending order, which is the order of the UTF-8 bytes as well as that of the
code points.
-/

namespace JobConsole.Batch

/-- The identifiers with one more put in, in ascending order and without
repetition. -/
def insertId (id : String) : List String → List String
  | [] => [id]
  | other :: rest =>
      if id < other then id :: other :: rest
      else if id = other then other :: rest
      else other :: insertId id rest

/-- The different identifiers of a list in ascending order. -/
def distinctIds (ids : List String) : List String :=
  ids.foldl (fun sorted id => insertId id sorted) []

/-- A set of selected identifiers, in ascending order. -/
structure Selection where
  ids : List String
  nonempty : ids ≠ []
deriving DecidableEq

theorem mem_insertId {id other : String} {ids : List String} :
    other ∈ insertId id ids ↔ other = id ∨ other ∈ ids := by
  induction ids with
  | nil => simp [insertId]
  | cons first rest ih =>
      simp only [insertId]
      split
      · simp
      · split
        · simp_all
        · simp only [List.mem_cons, ih]
          grind

theorem mem_foldl_insertId {id : String} {sorted ids : List String} :
    id ∈ ids.foldl (fun sorted id => insertId id sorted) sorted ↔ id ∈ sorted ∨ id ∈ ids := by
  induction ids generalizing sorted with
  | nil => simp
  | cons first rest ih =>
      simp only [List.foldl_cons, ih, mem_insertId, List.mem_cons]
      grind

/-- An identifier is among the different ones exactly when it was given. -/
@[simp]
theorem mem_distinctIds {id : String} {ids : List String} : id ∈ distinctIds ids ↔ id ∈ ids := by
  simp [distinctIds, mem_foldl_insertId]

/-- An identifier that is put in keeps the others in ascending order. -/
theorem pairwise_insertId {id : String} {ids : List String} (ascending : ids.Pairwise (· < ·)) :
    (insertId id ids).Pairwise (· < ·) := by
  induction ids with
  | nil => simp [insertId]
  | cons first rest ih =>
      obtain ⟨least, ascendingRest⟩ := List.pairwise_cons.1 ascending
      simp only [insertId]
      split
      · rename_i before
        refine List.pairwise_cons.2 ⟨?_, ascending⟩
        intro other member
        rcases List.mem_cons.1 member with rfl | later
        · exact before
        · exact String.lt_trans before (least other later)
      · rename_i notBefore
        split
        · exact ascending
        · rename_i different
          refine List.pairwise_cons.2 ⟨?_, ih ascendingRest⟩
          intro other member
          rcases mem_insertId.1 member with rfl | later
          · exact Std.lt_of_le_of_ne (Std.not_lt.1 notBefore) (Ne.symm different)
          · exact least other later

/-- The different identifiers of a list stand in ascending order. -/
theorem pairwise_distinctIds (ids : List String) : (distinctIds ids).Pairwise (· < ·) := by
  have grown : ∀ (rest sorted : List String), sorted.Pairwise (· < ·) →
      (rest.foldl (fun sorted id => insertId id sorted) sorted).Pairwise (· < ·) := by
    intro rest
    induction rest with
    | nil => exact fun _ ascending => ascending
    | cons id rest ih => exact fun sorted ascending => ih _ (pairwise_insertId ascending)
  exact grown ids [] List.Pairwise.nil

/-- Only an empty list has no identifiers. -/
theorem distinctIds_eq_nil_iff {ids : List String} : distinctIds ids = [] ↔ ids = [] := by
  constructor
  · intro none
    cases ids with
    | nil => rfl
    | cons id rest =>
        have member : id ∈ distinctIds (id :: rest) := by simp
        rw [none] at member
        contradiction
  · rintro rfl
    rfl

namespace Selection

/-- The selection of the identifiers of a list, unless there are none. -/
def of? (ids : List String) : Option Selection :=
  if nonempty : distinctIds ids ≠ [] then some ⟨distinctIds ids, nonempty⟩ else none

/-- The number of identifiers. -/
def size (selection : Selection) : Nat :=
  selection.ids.length

/-- A list has no selection exactly when it is empty. -/
theorem of?_eq_none_iff {ids : List String} : of? ids = none ↔ ids = [] := by
  unfold of?
  split
  · rename_i filled
    simp only [reduceCtorEq, false_iff]
    exact fun empty => filled (distinctIds_eq_nil_iff.mpr empty)
  · rename_i empty
    simpa [distinctIds_eq_nil_iff] using empty

/-- The selection of a list has the different identifiers of the list. -/
theorem ids_of_of? {ids : List String} {selection : Selection} (made : of? ids = some selection) :
    selection.ids = distinctIds ids := by
  unfold of? at made
  split at made
  · cases made
    rfl
  · contradiction

end Selection

end JobConsole.Batch
