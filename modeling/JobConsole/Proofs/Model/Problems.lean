import JobConsole.Model.Problem
import JobConsole.Proofs.Json.RoundTrip

/-!
# Restoring problems

The details of a problem are kept sorted and none of them has a field of its own, so the
members that a problem is written with are distinct, and sorting them once more changes
nothing.  A problem is never deeper than the tree it was decoded from; that is why its
text passes the bound on the depth again.
-/

namespace JobConsole

open JobConsole.Json

namespace Problem

theorem type_mem_fieldNames : "type" ∈ fieldNames :=
  List.mem_cons_self

theorem body_mem_fieldNames : "githubIssueBody" ∈ fieldNames :=
  List.mem_cons_of_mem _ List.mem_cons_self

/-- Details are in order, and none of them has a field of its own. -/
structure IsDetails (details : List (String × Value)) : Prop where
  ascending : Ascending details
  unnamed : ∀ member ∈ details, member.1 ∉ fieldNames

/-- All details stay when the members with fields of their own are taken out. -/
theorem IsDetails.filter_eq {details : List (String × Value)} (isDetails : IsDetails details) :
    (details.filter fun member => !fieldNames.contains member.1) = details :=
  List.filter_eq_self.mpr fun member found => by
    simpa using isDetails.unnamed member found

/-- The members without fields of their own are details once they are sorted. -/
theorem isDetails_sortMembers (values : List (String × Value)) :
    IsDetails (sortMembers (values.filter fun member => !fieldNames.contains member.1)) where
  ascending := ascending_sortMembers _
  unnamed member found := by
    have kept := (List.mem_filter.mp (mem_of_mem_sortMembers found)).2
    simpa using kept

/-- The members that a problem is written with. -/
def members (problem : Problem) : List (String × Value) :=
  ("type", .string problem.kind) ::
    ("githubIssueBody", .ofOption .string problem.githubIssueBody) :: problem.details

theorem restores_body (body : Option String) :
    (Value.ofOption .string body).Restores (Raw.option? Raw.text?) body := by
  cases body with
  | none => exact restores_option_none _
  | some s => exact (restores_text s).option rfl

theorem nodup_members {problem : Problem} (isDetails : IsDetails problem.details) :
    (problem.members.map Prod.fst).Nodup := by
  have unnamed (name : String) (isField : name ∈ fieldNames) :
      name ∉ problem.details.map Prod.fst := by
    intro found
    obtain ⟨member, isMember, rfl⟩ := List.mem_map.mp found
    exact isDetails.unnamed member isMember isField
  refine List.nodup_cons.mpr ⟨?_, List.nodup_cons.mpr ⟨?_, isDetails.ascending.nodup_keys⟩⟩
  · intro found
    rcases List.mem_cons.mp found with same | later
    · exact absurd same (show "type" ≠ "githubIssueBody" by decide)
    · exact unnamed _ type_mem_fieldNames later
  · exact unnamed _ body_mem_fieldNames

/-- A problem whose details are in order is restored by its value. -/
theorem restores_item {problem : Problem} (isDetails : IsDetails problem.details)
    (fits : Value.MembersEvery (Value.NumberIs Number.Fits) problem.details)
    (ordered : Value.MembersEvery Value.IsOrdered problem.details) :
    problem.encode.Restores decodeItem? problem := by
  have body := restores_body problem.githubIssueBody
  have bodyOrdered : (Value.ofOption .string problem.githubIssueBody).Every Value.IsOrdered := by
    cases problem.githubIssueBody <;> trivial
  refine ⟨⟨trivial, trivial, body.fits, fits⟩, fun raw shows => ?_⟩
  obtain ⟨members, rfl, areShown⟩ := Raw.shows_object_iff.mp shows
  obtain ⟨fields, known, shown, -⟩ :=
    Raw.exists_knownMembers? areShown (nodup_members isDetails) fieldNames
  have values := Raw.memberValues?_of_show areShown ⟨trivial, bodyOrdered, ordered⟩
  have kindShown := shown ("type", _) List.mem_cons_self type_mem_fieldNames
  have bodyShown := shown ("githubIssueBody", _) (List.mem_cons_of_mem _ List.mem_cons_self)
    body_mem_fieldNames
  have fieldsShown : fields.Show (problem.members.take 2) := by
    rintro member (_ | ⟨_, _ | ⟨_, ⟨⟩⟩⟩)
    · exact kindShown
    · exact bodyShown
  have filtered : (problem.members.filter fun member => !fieldNames.contains member.1) =
      problem.details := isDetails.filter_eq
  have sorted := sortMembers_eq_self isDetails.ascending
  have isMembers : ("type", Value.string problem.kind) ::
      ("githubIssueBody", Value.ofOption .string problem.githubIssueBody) :: problem.details =
        problem.members := rfl
  unfold decodeItem?
  simp only [known, values, Option.bind_eq_bind, Option.bind_some, Fields.optional?]
  rw [fieldsShown.required?_eq List.mem_cons_self (restores_text problem.kind),
    fieldsShown.given?_eq (List.mem_cons_of_mem _ List.mem_cons_self) body]
  simp only [Option.bind_some]
  rw [isMembers, filtered, sorted]

/-- The details of a problem that was decoded are in order, and each of them was read
strictly from a member. -/
theorem settled_of_decodeItem? {raw : Raw} {problem : Problem}
    (decoded : decodeItem? raw = some problem) :
    IsDetails problem.details ∧ ∃ depth, raw.depth = depth + 1 ∧
      ∀ member ∈ problem.details, Raw.Settled member.2 depth := by
  cases raw with
  | object members =>
      obtain ⟨fields, -, decoded⟩ := Option.bind_eq_some_iff.mp decoded
      obtain ⟨values, areValues, decoded⟩ := Option.bind_eq_some_iff.mp decoded
      obtain ⟨kind, -, decoded⟩ := Option.bind_eq_some_iff.mp decoded
      obtain ⟨body, -, decoded⟩ := Option.bind_eq_some_iff.mp decoded
      cases decoded
      refine ⟨isDetails_sortMembers values, _, rfl, fun member found => ?_⟩
      have isValue := (List.mem_filter.mp (mem_of_mem_sortMembers found)).1
      exact Raw.settled_of_memberValues? areValues member isValue
  | null | bool | number | string | array => cases decoded

theorem roundTrips_item : RoundTrips decodeItem? Problem.encode := by
  refine ⟨fun {raw problem} decoded => ?_⟩
  obtain ⟨isDetails, depth, -, settled⟩ := settled_of_decodeItem? decoded
  exact restores_item isDetails
    (Value.membersEvery_iff.mpr fun member found => (settled member found).fits)
    (Value.membersEvery_iff.mpr fun member found => (settled member found).ordered)

/-- A problem is not deeper than the tree it was decoded from. -/
theorem depth_encode_le {raw : Raw} {problem : Problem}
    (decoded : decodeItem? raw = some problem) : problem.encode.depth ≤ raw.depth := by
  obtain ⟨-, depth, isDepth, settled⟩ := settled_of_decodeItem? decoded
  have shallow : (Value.ofOption .string problem.githubIssueBody).depth ≤ depth := by
    cases problem.githubIssueBody <;> exact Nat.zero_le depth
  rw [isDepth]
  refine Nat.succ_le_succ (Value.membersDepth_le fun member found => ?_)
  rcases List.mem_cons.mp found with rfl | found
  · exact Nat.zero_le depth
  rcases List.mem_cons.mp found with rfl | found
  · exact shallow
  · exact (settled member found).depth_le

theorem roundTrips : RoundTrips Problem.decode? Problem.encode := by
  refine ⟨fun {raw problem} decoded => ?_⟩
  unfold decode? at decoded
  split at decoded
  · next within =>
      exact (roundTrips_item.restores decoded).within
        (Nat.le_trans (depth_encode_le decoded) within)
  · cases decoded

theorem roundTrips_all : RoundTrips decodeAll? encodeAll := by
  refine ⟨fun {raw problems} decoded => ?_⟩
  unfold decodeAll? at decoded
  split at decoded
  · next within =>
      refine (roundTrips_item.list.restores decoded).within ?_
      cases raw with
      | array items =>
          refine Nat.le_trans (Nat.succ_le_succ (Value.itemsDepth_le fun item found => ?_)) within
          obtain ⟨problem, member, rfl⟩ := List.mem_map.mp found
          obtain ⟨item, isItem, isProblem⟩ := Raw.exists_mem_of_all? decoded problem member
          exact Nat.le_trans (depth_encode_le isProblem) (Raw.depth_le_itemsDepth isItem)
      | null | bool | number | string | object => cases decoded
  · cases decoded

end Problem

end JobConsole
