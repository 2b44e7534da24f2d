import JobConsole.Batch.Execution
import JobConsole.Session

/-!
# Bulk actions against the API

One request is sent for each identifier of a selection, all of them together.
The report is made when every request has settled.
-/

namespace JobConsole

open JobConsole.Batch

/-- The calls of the API that requests for actions stand for. -/
def actionCalls (base : String) (requests : List ActionRequest) : List (Api.Call Settled) :=
  requests.map fun request => Api.action base request.kind request.id

/-- Takes an action on every recurring job of a selection. -/
def bulkAction (base : String) (kind : Kind) (selection : Selection) : Session Report := do
  let settle requests := Session.callAll (actionCalls base requests)
  let (report, events) ← execute settle kind selection
  Session.reportAll events
  pure report

end JobConsole
