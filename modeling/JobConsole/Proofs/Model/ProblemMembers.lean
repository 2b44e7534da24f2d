import JobConsole.Proofs.Json.Members
import JobConsole.Proofs.Model.Problems

/-!
# Members of problems

A problem keeps every member of the object it was decoded from.  The two with fields of
their own come first; the others follow in the ascending order of their names, each once,
with the value of its last occurrence.

`decodeItem?_eq_some_iff` says which objects are problems, and which problem each of them
is, without a word about the order of members with different names.  So no other order of
them gives another problem.
-/

namespace JobConsole

open JobConsole.Json

/-! ## Texts in fields -/

namespace Json

theorem Raw.text?_eq_some_iff {raw : Raw} {s : String} :
    raw.text? = some s ↔ raw = .string (some s) := by
  cases raw <;> simp [Raw.text?]

theorem Raw.option?_text?_eq_some_iff {raw : Raw} {o : Option String} :
    raw.option? Raw.text? = some o ↔
      o = none ∧ raw = .null ∨ ∃ s, o = some s ∧ raw = .string (some s) := by
  cases raw with
  | null => simp [Raw.option?, eq_comm]
  | string content => cases content <;> simp [Raw.option?, Raw.text?, eq_comm]
  | bool | number | array | object => simp [Raw.option?, Raw.text?]

theorem Fields.required?_text?_eq_some_iff {fields : Fields} {name s : String} :
    fields.required? name Raw.text? = some s ↔
      fields.lookup name = some (.string (some s)) := by
  unfold Fields.required?
  cases fields.lookup name with
  | none => simp
  | some raw => simp [Raw.text?_eq_some_iff]

theorem Fields.optional?_text?_eq_some_iff {fields : Fields} {name : String} {o : Option String} :
    fields.optional? name Raw.text? = some o ↔
      o = none ∧ (fields.lookup name = none ∨ fields.lookup name = some .null) ∨
        ∃ s, o = some s ∧ fields.lookup name = some (.string (some s)) := by
  unfold Fields.optional? Fields.given?
  cases fields.lookup name with
  | none => simp [eq_comm]
  | some raw => simp [Raw.option?_text?_eq_some_iff]

end Json

namespace Problem

/-! ## Which objects are problems -/

/-- Members give the text of an issue report, or none: it is left out, or `null`. -/
def GivesBody (members : List (Option String × Raw)) : Option String → Prop
  | none => some "githubIssueBody" ∉ members.map Prod.fst ∨
      (some "githubIssueBody", Raw.null) ∈ members
  | some body => (some "githubIssueBody", Raw.string (some body)) ∈ members

/-- Members make up a problem: each of them can be read strictly, the names of fields are
not repeated, and the details are the last ones of the other names, in order. -/
structure MakeUp (members : List (Option String × Raw)) (problem : Problem) : Prop where
  strict : ∀ member ∈ members, member.1.isSome ∧ member.2.value?.isSome
  single : ∀ name ∈ fieldNames, (members.map Prod.fst).count (some name) ≤ 1
  kind : (some "type", Raw.string (some problem.kind)) ∈ members
  body : GivesBody members problem.githubIssueBody
  ascending : Ascending problem.details
  details : ∀ name value, (name, value) ∈ problem.details ↔
    name ∉ fieldNames ∧ ∃ raw, IsLast (some name, raw) members ∧ raw.value? = some value

/-- The details of a problem are the last members of the names without fields. -/
theorem mem_sortMembers_values_iff {members : List (Option String × Raw)}
    {values : List (String × Value)} (read : Raw.memberValues? members = some values)
    {name : String} {value : Value} :
    (name, value) ∈ sortMembers (values.filter fun member => !fieldNames.contains member.1) ↔
      name ∉ fieldNames ∧ ∃ raw, IsLast (some name, raw) members ∧ raw.value? = some value := by
  rw [mem_sortMembers_iff, isLast_filter_iff fun key => !fieldNames.contains key,
    Raw.isLast_iff_of_memberValues? read]
  simp

/-- The text of an issue report is looked up where it is given. -/
theorem givesBody_iff {members : List (Option String × Raw)} {fields : Fields}
    (known : Raw.knownMembers? fieldNames members = some fields) {body : Option String} :
    fields.optional? "githubIssueBody" Raw.text? = some body ↔ GivesBody members body := by
  have single := (Raw.exists_knownMembers?_iff.mp ⟨fields, known⟩).2 _ body_mem_fieldNames
  rw [Fields.optional?_text?_eq_some_iff, Raw.lookup_of_knownMembers? known body_mem_fieldNames,
    lookup_eq_none_iff_not_mem, lookup_eq_some_iff_mem single]
  simp only [lookup_eq_some_iff_mem single]
  cases body with
  | none => simp [GivesBody]
  | some body => simp [GivesBody]

/-- An object is a problem exactly when its members make it up. -/
theorem decodeItem?_eq_some_iff {members : List (Option String × Raw)} {problem : Problem} :
    decodeItem? (.object members) = some problem ↔ MakeUp members problem := by
  constructor
  · intro decoded
    obtain ⟨fields, known, decoded⟩ := Option.bind_eq_some_iff.mp decoded
    obtain ⟨values, read, decoded⟩ := Option.bind_eq_some_iff.mp decoded
    obtain ⟨kind, isKind, decoded⟩ := Option.bind_eq_some_iff.mp decoded
    obtain ⟨body, isBody, decoded⟩ := Option.bind_eq_some_iff.mp decoded
    cases decoded
    have single := (Raw.exists_knownMembers?_iff.mp ⟨fields, known⟩).2
    have strict := Raw.isSome_memberValues?_iff.mp (Option.isSome_of_eq_some read)
    refine ⟨strict, single, ?_, (givesBody_iff known).mp isBody, ascending_sortMembers _,
      fun name value => mem_sortMembers_values_iff read⟩
    rw [Fields.required?_text?_eq_some_iff, Raw.lookup_of_knownMembers? known type_mem_fieldNames,
      lookup_eq_some_iff_mem (single _ type_mem_fieldNames)] at isKind
    exact isKind
  · intro makeUp
    obtain ⟨values, read⟩ := Option.isSome_iff_exists.mp
      (Raw.isSome_memberValues?_iff.mpr makeUp.strict)
    obtain ⟨fields, known⟩ := Raw.exists_knownMembers?_iff.mpr
      ⟨fun member found => (makeUp.strict member found).1, makeUp.single⟩
    have kind : fields.required? "type" Raw.text? = some problem.kind := by
      rw [Fields.required?_text?_eq_some_iff, Raw.lookup_of_knownMembers? known type_mem_fieldNames,
        lookup_eq_some_iff_mem (makeUp.single _ type_mem_fieldNames)]
      exact makeUp.kind
    have body := (givesBody_iff known).mpr makeUp.body
    have details : sortMembers (values.filter fun member => !fieldNames.contains member.1) =
        problem.details :=
      (ascending_sortMembers _).eq_of_mem_iff makeUp.ascending fun (name, value) =>
        (mem_sortMembers_values_iff read).trans (makeUp.details name value).symm
    simp only [decodeItem?, known, read, kind, body, details, Option.bind_eq_bind,
      Option.bind_some]

/-- The details have the names without fields. -/
theorem MakeUp.mem_keys_iff {members : List (Option String × Raw)} {problem : Problem}
    (makeUp : MakeUp members problem) {name : String} :
    name ∈ problem.details.map Prod.fst ↔
      name ≠ "type" ∧ name ≠ "githubIssueBody" ∧ some name ∈ members.map Prod.fst := by
  have unnamed : name ∉ fieldNames ↔ name ≠ "type" ∧ name ≠ "githubIssueBody" := by
    simp [fieldNames]
  have there : some name ∈ members.map Prod.fst ↔ ∃ raw, IsLast (some name, raw) members :=
    exists_isLast_iff.symm
  rw [← and_assoc, ← unnamed, there]
  constructor
  · intro found
    obtain ⟨⟨_, value⟩, isDetail, rfl⟩ := List.mem_map.mp found
    obtain ⟨notField, raw, isLast, -⟩ := (makeUp.details _ value).mp isDetail
    exact ⟨notField, raw, isLast⟩
  · rintro ⟨notField, raw, isLast⟩
    obtain ⟨value, read⟩ := Option.isSome_iff_exists.mp (makeUp.strict _ isLast.mem).2
    exact List.mem_map_of_mem ((makeUp.details name value).mpr ⟨notField, raw, isLast, read⟩)

/-! ## Other orders -/

theorem GivesBody.of_reorders {left right : List (Option String × Raw)}
    (reorders : Reorders left right) {body : Option String} (gives : GivesBody left body) :
    GivesBody right body := by
  cases body with
  | none =>
      rcases gives with absent | isNull
      · exact .inl fun found => absent ((reorders.perm.map Prod.fst).mem_iff.mpr found)
      · exact .inr (reorders.perm.mem_iff.mp isNull)
  | some body => exact reorders.perm.mem_iff.mp gives

/-- Members in another order make up the same problem. -/
theorem MakeUp.of_reorders {left right : List (Option String × Raw)}
    (reorders : Reorders left right) {problem : Problem} (makeUp : MakeUp left problem) :
    MakeUp right problem where
  strict member found := makeUp.strict member (reorders.perm.mem_iff.mpr found)
  single name isField := by
    rw [← (reorders.perm.map Prod.fst).count_eq]
    exact makeUp.single name isField
  kind := reorders.perm.mem_iff.mp makeUp.kind
  body := makeUp.body.of_reorders reorders
  ascending := makeUp.ascending
  details name value := by
    simp only [← reorders.isLast_iff]
    exact makeUp.details name value

theorem decode?_eq_of_reorders {left right : List (Option String × Raw)}
    (reorders : Reorders left right) : decode? (.object left) = decode? (.object right) := by
  have sameItem : decodeItem? (.object left) = decodeItem? (.object right) := by
    apply Option.ext
    intro problem
    rw [decodeItem?_eq_some_iff, decodeItem?_eq_some_iff]
    exact ⟨.of_reorders reorders, .of_reorders reorders.symm⟩
  have sameDepth : (Raw.object left).depth = (Raw.object right).depth :=
    congrArg (· + 1) (Raw.membersDepth_eq_of_perm reorders.perm)
  rw [decode?, decode?, sameItem, sameDepth]

/-! ## Problems written again -/

/-- A problem that is written again has its type and the text of its issue report in front,
`null` where there is none.  In the object it came from nothing else has these names.  The
other names of this object follow, each of them once and in order, with the last value it
had there.  Another order of the members gives the same problem, as long as those with one
name follow each other as before. -/
theorem encode_keeps_members {members : List (Option String × Raw)} {problem : Problem}
    (decoded : decode? (.object members) = some problem) :
    ∃ body details,
      problem.encode =
        .object (("type", .string problem.kind) :: ("githubIssueBody", body) :: details) ∧
      withKey (some "type") members = [(some "type", .string (some problem.kind))] ∧
      (body = .null ∧ withKey (some "githubIssueBody") members = [] ∨
        body = .null ∧
          withKey (some "githubIssueBody") members = [(some "githubIssueBody", .null)] ∨
        ∃ text, body = .string text ∧ withKey (some "githubIssueBody") members =
          [(some "githubIssueBody", .string (some text))]) ∧
      Ascending details ∧
      (∀ name, name ∈ details.map Prod.fst ↔
        name ≠ "type" ∧ name ≠ "githubIssueBody" ∧ some name ∈ members.map Prod.fst) ∧
      (∀ name value, (name, value) ∈ details →
        ∃ raw plain, IsLast (some name, raw) members ∧ raw.Shows plain ∧ value = plain.sorted) ∧
      ∀ reordered, Reorders members reordered → decode? (.object reordered) = some problem := by
  have makeUp : MakeUp members problem :=
    decodeItem?_eq_some_iff.mp (Option.ite_none_right_eq_some.mp decoded).2
  refine ⟨_, problem.details, rfl, ?_, ?_, makeUp.ascending, ?_, ?_, ?_⟩
  · exact withKey_eq_singleton makeUp.kind (makeUp.single _ type_mem_fieldNames)
  · have single := makeUp.single _ body_mem_fieldNames
    have body := makeUp.body
    cases isBody : problem.githubIssueBody with
    | none =>
        rw [isBody] at body
        rcases body with absent | isNull
        · exact .inl ⟨rfl, withKey_eq_nil_iff.mpr absent⟩
        · exact .inr (.inl ⟨rfl, withKey_eq_singleton isNull single⟩)
    | some text =>
        rw [isBody] at body
        exact .inr (.inr ⟨text, rfl, withKey_eq_singleton body single⟩)
  · exact fun name => makeUp.mem_keys_iff
  · intro name value isDetail
    obtain ⟨-, raw, isLast, read⟩ := (makeUp.details name value).mp isDetail
    obtain ⟨plain, shown, sorted⟩ := Raw.value?_eq_some_iff.mp read
    exact ⟨raw, plain, isLast, shown, sorted.symm⟩
  · intro reordered reorders
    rw [← decode?_eq_of_reorders reorders, decoded]

/-- Members of a problem in no order, with a date that is given twice. -/
def mixedReport : List (Option String × Raw) :=
  [(some "createdAt", .string (some "2026-03-01")),
    (some "context", .object [(some "b", .null), (some "a", .bool true), (some "b", .bool false)]),
    (some "type", .string (some "severe-jobrunr-exception")),
    (some "createdAt", .string (some "2026-03-02"))]

/-- The same members, those with one name beside each other. -/
def tidyReport : List (Option String × Raw) :=
  [(some "type", .string (some "severe-jobrunr-exception")),
    (some "createdAt", .string (some "2026-03-01")),
    (some "createdAt", .string (some "2026-03-02")),
    (some "context", .object [(some "b", .null), (some "a", .bool true), (some "b", .bool false)])]

theorem mixedReport_reorders : Reorders mixedReport tidyReport where
  perm := ((List.Perm.swap _ _ _).cons _).trans
    ((List.Perm.swap _ _ _).trans (((List.Perm.swap _ _ _).cons _).cons _))
  sameOrder key := by
    simp only [withKey, mixedReport, tidyReport, List.filter]
    grind

theorem encode_of_mixedReport : ∃ problem,
    decode? (.object mixedReport) = some problem ∧
      problem.encode = .object [("type", .string "severe-jobrunr-exception"),
        ("githubIssueBody", .null),
        ("context", .object [("a", .bool true), ("b", .bool false)]),
        ("createdAt", .string "2026-03-02")] ∧
      decode? (.object tidyReport) = some problem := by
  have decoded : decode? (.object mixedReport) = some {
      kind := "severe-jobrunr-exception"
      githubIssueBody := none
      details := [("context", .object [("a", .bool true), ("b", .bool false)]),
        ("createdAt", .string "2026-03-02")] } := rfl
  obtain ⟨body, details, -, -, -, -, -, -, sameProblem⟩ := encode_keeps_members decoded
  exact ⟨_, decoded, rfl, sameProblem tidyReport mixedReport_reorders⟩

end Problem

end JobConsole
