import JobConsole.Batch.Report

/-!
# Carrying out bulk actions

One request is made for each identifier of a selection.  All of them are handed to a
transport together, which settles every one, and no answer keeps another request from
being sent.  The report is made when all of them have settled.
-/

namespace JobConsole.Batch

/-- A request to take an action on the recurring job with an identifier. -/
structure ActionRequest where
  kind : Kind
  id : String
deriving DecidableEq

/-- The requests of an action on a selection, in the order of its identifiers. -/
def Selection.requests (kind : Kind) (selection : Selection) : List ActionRequest :=
  selection.ids.map fun id => ⟨kind, id⟩

/-- Takes an action on every identifier of a selection, given how the requests are
settled.  The results are a report and the events of the action. -/
def execute {m : Type → Type} [Monad m] (settle : List ActionRequest → m (List Settled))
    (kind : Kind) (selection : Selection) : m (Report × List LogEvent) := do
  let settled ← settle (selection.requests kind)
  pure (reportOf kind settled, eventsOf kind (selection.ids.zip settled))

/-- A transport that sends one request after the other, takes note of each of them, and
settles those for an identifier as given. -/
def scripted (answer : String → Settled) :
    List ActionRequest → StateM (List ActionRequest) (List Settled)
  | [] => pure []
  | request :: rest => do
      modify (· ++ [request])
      let settled ← scripted answer rest
      pure (answer request.id :: settled)

@[simp]
theorem run_scripted (answer : String → Settled) (requests sent : List ActionRequest) :
    (scripted answer requests).run sent =
      (requests.map fun request => answer request.id, sent ++ requests) := by
  induction requests generalizing sent with
  | nil =>
      rw [List.append_nil]
      rfl
  | cons request rest ih =>
      have later := ih (sent ++ [request])
      rw [List.append_assoc] at later
      exact congrArg (Prod.map (answer request.id :: ·) id) later

end JobConsole.Batch
