import JobConsole.Api
import JobConsole.Proofs.Http.PercentDecoding

/-!
# What an action addresses

An identifier is put into the path of an action as it is.  A host reads the path up to
the first question mark or number sign, takes what stands between two slashes as one
segment, and decodes the segment.  So an action addresses the job with the given
identifier exactly if the identifier speaks for itself: it has none of these marks, it
is no dots, and there is no escape in it.

Among identifiers that speak for themselves different ones are different jobs for every
host.  Behind a question mark or a number sign nothing of an identifier is left in the
path, not even the name of the action.
-/

namespace JobConsole.Api

open JobConsole.Batch
open JobConsole.Http
open JobConsole.Text

/-- Whether a character ends a path. -/
def endsPath (c : Char) : Bool :=
  c == '?' || c == '#'

/-- The path that a text begins with. -/
def pathOf (text : List Char) : List Char :=
  text.takeWhile fun c => !endsPath c

/-- What counts of a base. -/
def baseChars (base : String) : List Char :=
  (base.toList.reverse.dropWhile (· == '/')).reverse

/-- The text of the address that an action is sent to. -/
def actionText (base : String) (kind : Kind) (id : String) : String :=
  address base (actionPath kind id).2

/-- The path below the base that an action is sent to. -/
def actionTarget (base : String) (kind : Kind) (id : String) : List Char :=
  pathOf ((actionText base kind id).toList.drop (baseChars base).length)

/-- The path of the recurring jobs. -/
def jobsPath : List Char :=
  "/api/recurring-jobs".toList

/-- What stands in a path behind the identifier of a job. -/
def kindSuffix : Kind → List Char
  | .delete => []
  | kind => '/' :: kind.name.toList

/-- A path is that of an action on the job with the given identifier: its last segment
before the action, which is no dots, is decoded to the identifier. -/
def Names (kind : Kind) (id : String) (path : List Char) : Prop :=
  ∃ segment, path = jobsPath ++ '/' :: (segment ++ kindSuffix kind) ∧
    '/' ∉ segment ∧ segment ≠ ['.'] ∧ segment ≠ ['.', '.'] ∧
      Host.decodedBytes segment = encodeUtf8 id.toList

/-- An identifier means the same in a path as outside of it. -/
structure SpeaksForItself (id : String) : Prop where
  undivided : '/' ∉ id.toList
  unasked : '?' ∉ id.toList
  unnumbered : '#' ∉ id.toList
  notHere : id ≠ "."
  notAbove : id ≠ ".."
  plain : Host.hasEscape id.toList = false

theorem action_eq_submit (base : String) (kind : Kind) (id : String) :
    action base kind id = submit base (actionPath kind id).1 (actionPath kind id).2 := by
  unfold action
  rfl

theorem action_request (base : String) (kind : Kind) (id : String) :
    (action base kind id).request =
      Request.of (actionPath kind id).1 anyMedia (actionText base kind id) := by
  rw [action_eq_submit, submit, request, actionText]

theorem toList_actionPath (kind : Kind) (id : String) :
    (actionPath kind id).2.toList = jobsPath ++ '/' :: (id.toList ++ kindSuffix kind) := by
  have start : "/api/recurring-jobs/".toList = jobsPath ++ ['/'] := by decide
  by_cases deletes : kind = .delete
  · rw [deletes, actionPath, kindSuffix, String.toList_append, start, List.append_nil,
      List.append_assoc]
    rfl
  · rw [actionPath, kindSuffix, String.toList_append, String.toList_append, String.toList_append,
      start, List.append_assoc, List.append_assoc]
    · rfl
    · exact deletes
    · exact deletes

theorem pathOf_append {text rest : List Char} (goesOn : text.any endsPath = false) :
    pathOf (text ++ rest) = text ++ pathOf rest := by
  apply List.takeWhile_append_of_pos
  intro c member
  rw [Bool.not_eq_true', ← Bool.not_eq_true]
  exact List.any_eq_false.mp goesOn c member

/-- A path does not reach beyond a text that ends it. -/
theorem pathOf_append_of_ends {text rest : List Char} (ends : text.any endsPath = true) :
    pathOf (text ++ rest) = pathOf text := by
  induction text with
  | nil => exact absurd ends Bool.false_ne_true
  | cons c text ih =>
      rw [List.any_cons] at ends
      rw [List.cons_append, pathOf, pathOf, List.takeWhile_cons, List.takeWhile_cons]
      cases ended : endsPath c with
      | true => rfl
      | false =>
          rw [ended, Bool.false_or] at ends
          exact congrArg (c :: ·) (ih ends)

theorem pathOf_begins (text : List Char) : pathOf text <+: text :=
  List.takeWhile_prefix _

theorem any_endsPath_pathOf (text : List Char) : (pathOf text).any endsPath = false := by
  rw [List.any_eq_false]
  intro c member
  have inside := List.all_eq_true.mp List.all_takeWhile c member
  rw [Bool.not_eq_true]
  exact (Bool.not_eq_true' _).mp inside

theorem any_endsPath_eq_false_iff {text : List Char} :
    text.any endsPath = false ↔ '?' ∉ text ∧ '#' ∉ text := by
  rw [List.any_eq_false]
  constructor
  · intro goesOn
    exact ⟨fun member => goesOn _ member rfl, fun member => goesOn _ member rfl⟩
  · rintro ⟨unasked, unnumbered⟩ c member ends
    rw [endsPath, Bool.or_eq_true, beq_iff_eq, beq_iff_eq] at ends
    rcases ends with rfl | rfl
    · exact unasked member
    · exact unnumbered member

theorem any_endsPath_kindSuffix (kind : Kind) : (kindSuffix kind).any endsPath = false := by
  cases kind <;> decide

theorem actionTarget_eq (base : String) (kind : Kind) (id : String) :
    actionTarget base kind id = jobsPath ++ '/' :: pathOf (id.toList ++ kindSuffix kind) := by
  have below : (actionText base kind id).toList =
      baseChars base ++ (jobsPath ++ '/' :: (id.toList ++ kindSuffix kind)) := by
    rw [actionText, address, String.toList_ofList, toList_actionPath, baseChars]
  rw [actionTarget, below, List.drop_left, pathOf_append (by decide)]
  rfl

theorem pathOf_eq_self {text : List Char} (goesOn : text.any endsPath = false) :
    pathOf text = text := by
  have whole : pathOf (text ++ []) = text ++ [] := pathOf_append goesOn
  rwa [List.append_nil] at whole

/-- An identifier that does not end the path of an action is in it as it is. -/
theorem actionTarget_of_goesOn {base : String} {kind : Kind} {id : String}
    (goesOn : id.toList.any endsPath = false) :
    actionTarget base kind id = jobsPath ++ '/' :: (id.toList ++ kindSuffix kind) := by
  rw [actionTarget_eq, pathOf_append goesOn, pathOf_eq_self (any_endsPath_kindSuffix kind)]

/-- What is behind the end of a path in an identifier does not count. -/
theorem actionTarget_append {base : String} {kind : Kind} {id rest : String}
    (ends : id.toList.any endsPath = true) :
    actionTarget base kind (id ++ rest) = actionTarget base kind id := by
  rw [actionTarget_eq, actionTarget_eq, String.toList_append, List.append_assoc,
    pathOf_append_of_ends ends, pathOf_append_of_ends ends]

/-- An identifier that ends the path is too long for what is left of it. -/
theorem not_names_of_ends {base : String} {kind : Kind} {id : String}
    (ends : id.toList.any endsPath = true) : ¬Names kind id (actionTarget base kind id) := by
  rintro ⟨segment, path, _, _, _, decoded⟩
  rw [actionTarget_eq, pathOf_append_of_ends ends] at path
  have within : pathOf id.toList = segment ++ kindSuffix kind :=
    List.tail_eq_of_cons_eq (List.append_cancel_left path)
  have begins : segment <+: pathOf id.toList := within ▸ List.prefix_append _ _
  have proper : segment ≠ id.toList := by
    rintro rfl
    rw [begins.eq_of_length_le (pathOf_begins _).length_le, any_endsPath_pathOf] at ends
    exact absurd ends Bool.false_ne_true
  have shorter := length_encodeUtf8_lt (begins.trans (pathOf_begins _)) proper
  have bounded := Host.length_decodedBytes_le segment
  rw [decoded] at bounded
  exact absurd shorter (Nat.not_lt.mpr bounded)

/-- An action addresses the job with the given identifier exactly if the identifier
speaks for itself. -/
theorem names_actionTarget_iff (base : String) (kind : Kind) (id : String) :
    Names kind id (actionTarget base kind id) ↔ SpeaksForItself id := by
  constructor
  · intro names
    cases ends : id.toList.any endsPath with
    | true => exact absurd names (not_names_of_ends ends)
    | false =>
        rcases any_endsPath_eq_false_iff.mp ends with ⟨unasked, unnumbered⟩
        rcases names with ⟨segment, path, undivided, notHere, notAbove, decoded⟩
        rw [actionTarget_of_goesOn ends] at path
        have whole : id.toList = segment :=
          List.append_cancel_right (List.tail_eq_of_cons_eq (List.append_cancel_left path))
        rw [← whole] at undivided notHere notAbove decoded
        exact {
          undivided, unasked, unnumbered
          notHere := fun same => notHere (same ▸ rfl)
          notAbove := fun same => notAbove (same ▸ rfl)
          plain := Host.decodedBytes_eq_encodeUtf8_iff.mp decoded }
  · intro speaks
    have goesOn := any_endsPath_eq_false_iff.mpr ⟨speaks.unasked, speaks.unnumbered⟩
    refine ⟨id.toList, actionTarget_of_goesOn goesOn, speaks.undivided, ?_, ?_, ?_⟩
    · exact fun same => speaks.notHere (String.toList_inj.mp same)
    · exact fun same => speaks.notAbove (String.toList_inj.mp same)
    · exact Host.decodedBytes_of_not_hasEscape speaks.plain

/-- What a host decodes the path of an action on a job to. -/
theorem decodedBytes_of_names {kind : Kind} {id : String} {path : List Char}
    (names : Names kind id path) :
    Host.decodedBytes path =
      encodeUtf8 (jobsPath ++ '/' :: (id.toList ++ kindSuffix kind)) := by
  rcases names with ⟨segment, rfl, _, _, _, decoded⟩
  have behind : Host.decodedBytes (segment ++ kindSuffix kind) =
      encodeUtf8 (id.toList ++ kindSuffix kind) := by
    by_cases deletes : kind = .delete
    · rw [deletes, kindSuffix, List.append_nil, List.append_nil, decoded]
    · rw [kindSuffix, Host.decodedBytes_append rfl, decoded, encodeUtf8_append]
      · rw [Host.decodedBytes_of_not_hasEscape (by cases kind <;> decide)]
      · exact deletes
  rw [Host.decodedBytes_append rfl,
    Host.decodedBytes_cons (Host.beginsEscape_of_ne (by decide)), behind,
    Host.decodedBytes_of_not_hasEscape (by decide), encodeUtf8_append jobsPath, encodeUtf8_cons]

/-- Paths that a host decodes to the same are of the same job. -/
theorem id_eq_of_names {kind : Kind} {id other : String} {path otherPath : List Char}
    (names : Names kind id path) (otherNames : Names kind other otherPath)
    (same : Host.decodedBytes path = Host.decodedBytes otherPath) : id = other := by
  rw [decodedBytes_of_names names, decodedBytes_of_names otherNames] at same
  have path := List.append_cancel_left (encodeUtf8_injective same)
  exact String.toList_inj.mp (List.append_cancel_right (List.tail_eq_of_cons_eq path))

instance (id : String) : Decidable (SpeaksForItself id) :=
  decidable_of_iff
    ('/' ∉ id.toList ∧ '?' ∉ id.toList ∧ '#' ∉ id.toList ∧ id ≠ "." ∧ id ≠ ".." ∧
      Host.hasEscape id.toList = false)
    ⟨fun ⟨undivided, unasked, unnumbered, notHere, notAbove, plain⟩ =>
        ⟨undivided, unasked, unnumbered, notHere, notAbove, plain⟩,
      fun ⟨undivided, unasked, unnumbered, notHere, notAbove, plain⟩ =>
        ⟨undivided, unasked, unnumbered, notHere, notAbove, plain⟩⟩

/-- The request of an action, which is sent to its text, addresses the job with the given
identifier exactly if the identifier speaks for itself.  Different identifiers that do are
different jobs also when a host decodes the path; of an identifier that ends the path,
what follows is lost. -/
theorem action_addresses_job_iff (base : String) (kind : Kind) :
    (∀ id,
      (action base kind id).request =
          Request.of (actionPath kind id).1 anyMedia (actionText base kind id) ∧
        (Names kind id (actionTarget base kind id) ↔ SpeaksForItself id)) ∧
      (∀ id other, SpeaksForItself id → SpeaksForItself other → id ≠ other →
        Host.decodedBytes (actionTarget base kind id) ≠
          Host.decodedBytes (actionTarget base kind other)) ∧
      ∀ id rest, ('?' ∈ id.toList ∨ '#' ∈ id.toList) →
        actionTarget base kind (id ++ rest) = actionTarget base kind id := by
  refine ⟨fun id => ⟨action_request base kind id, names_actionTarget_iff base kind id⟩, ?_, ?_⟩
  · intro id other speaks otherSpeaks different same
    have names := (names_actionTarget_iff base kind id).mpr speaks
    have otherNames := (names_actionTarget_iff base kind other).mpr otherSpeaks
    exact different (id_eq_of_names names otherNames same)
  · intro id rest marked
    apply actionTarget_append
    cases ends : id.toList.any endsPath with
    | true => rfl
    | false =>
        rcases any_endsPath_eq_false_iff.mp ends with ⟨unasked, unnumbered⟩
        exact absurd marked (not_or.mpr ⟨unasked, unnumbered⟩)

theorem action_addresses_reports :
    SpeaksForItself "reports" ∧ SpeaksForItself "import-sales" ∧
      Names .trigger "reports" (actionTarget "http://h/" .trigger "reports") ∧
      Host.decodedBytes (actionTarget "http://h/" .trigger "reports") ≠
        Host.decodedBytes (actionTarget "http://h/" .trigger "import-sales") ∧
      actionTarget "http://h/" .trigger ("reports#" ++ "old") =
        actionTarget "http://h/" .trigger "reports#" := by
  have reports : SpeaksForItself "reports" := by decide
  have sales : SpeaksForItself "import-sales" := by decide
  obtain ⟨addresses, distinct, lost⟩ := action_addresses_job_iff "http://h/" .trigger
  refine ⟨reports, sales, (addresses "reports").2.mpr reports, ?_, ?_⟩
  · exact distinct "reports" "import-sales" reports sales (by decide)
  · exact lost "reports#" "old" (.inr (by decide))

/-- Deleting the job called `x/../y` sends the request that deletes the job called `y`. -/
theorem action_misses_job :
    ¬Names .delete "x/../y" (actionTarget "http://h" .delete "x/../y") ∧
      (action "http://h" .delete "x/../y").requests =
        (action "http://h" .delete "y").requests ∧
      (action "http://h" .delete "y").requests ≠ [] := by
  refine ⟨?_, by decide +kernel, by decide +kernel⟩
  rw [names_actionTarget_iff]
  decide

end JobConsole.Api
