import JobConsole.Batch.Kind
import JobConsole.Batch.Selection
import JobConsole.LogEvent
import JobConsole.Text.Decimal

/-!
# Reports of bulk actions

An action is taken on every identifier of a selection, one request for each.
When all of them have settled, the outcomes are counted and summed up: a failure
outweighs a rejection, and a rejection outweighs a success.  The report keeps
the counts, the result, the first error in the order of the selection, the
notification for people, and whether the list of jobs has changed.
-/

namespace JobConsole.Batch

open JobConsole.Json
open JobConsole.Text

/-- Why a request got no status. -/
inductive TransportError where
  | timeout
  | request (message : String)
deriving DecidableEq

namespace TransportError

/-- What an error is called. -/
def message : TransportError → String
  | .timeout => "request timed out"
  | .request message => "http request failed: " ++ message

end TransportError

/-- How a request settled. -/
abbrev Settled : Type :=
  Except TransportError Nat

/-- The numbers of actions by outcome. -/
structure Counts where
  succeeded : Nat
  rejected : Nat
  failed : Nat
deriving DecidableEq

namespace Counts

/-- Nothing counted. -/
def zero : Counts :=
  ⟨0, 0, 0⟩

/-- One more outcome. -/
def record (counts : Counts) : Outcome → Counts
  | .succeeded => { counts with succeeded := counts.succeeded + 1 }
  | .rejected => { counts with rejected := counts.rejected + 1 }
  | .failed => { counts with failed := counts.failed + 1 }

/-- The counts of a list of outcomes. -/
def ofOutcomes (outcomes : List Outcome) : Counts :=
  outcomes.foldl record zero

/-- The number of actions. -/
def total (counts : Counts) : Nat :=
  counts.succeeded + counts.rejected + counts.failed

/-- Counts as a value. -/
def encode (counts : Counts) : Value :=
  .object [
    ("succeeded", .natural counts.succeeded),
    ("rejected", .natural counts.rejected),
    ("failed", .natural counts.failed)]

@[simp]
theorem total_record (counts : Counts) (outcome : Outcome) :
    (counts.record outcome).total = counts.total + 1 := by
  cases outcome <;> simp only [record, total] <;> omega

theorem total_foldl_record (counts : Counts) (outcomes : List Outcome) :
    (outcomes.foldl record counts).total = counts.total + outcomes.length := by
  induction outcomes generalizing counts with
  | nil => simp
  | cons outcome rest ih =>
      rw [List.foldl_cons, ih, total_record, List.length_cons]
      omega

/-- Every outcome is counted once. -/
@[simp]
theorem total_ofOutcomes (outcomes : List Outcome) :
    (ofOutcomes outcomes).total = outcomes.length := by
  rw [ofOutcomes, total_foldl_record]
  exact Nat.zero_add _

end Counts

/-- The result of a bulk action. -/
inductive Result where
  | allSucceeded
  | someSucceededSomeRejected
  | allRejected
  | someFailed (failed total : Nat) (firstError : String)
deriving DecidableEq

namespace Result

/-- The result for counts and the first error. -/
def aggregate (counts : Counts) (firstError : Option String) : Result :=
  if 0 < counts.failed then
    .someFailed counts.failed counts.total (firstError.getD "unknown error")
  else if counts.rejected = 0 then .allSucceeded
  else if counts.succeeded = 0 then .allRejected
  else .someSucceededSomeRejected

/-- The name of a result. -/
def name : Result → String
  | .allSucceeded => "all_succeeded"
  | .someSucceededSomeRejected => "some_succeeded_some_rejected"
  | .allRejected => "all_rejected"
  | .someFailed .. => "some_failed"

/-- The severity of a result. -/
def severity : Result → Severity
  | .someFailed .. => .error
  | _ => .success

/-- A result as a value. -/
def encode (result : Result) : Value :=
  .object (("outcome", .string result.name) ::
    match result with
    | .someFailed failed total firstError => [
        ("failed", .natural failed),
        ("total", .natural total),
        ("first_error", .string firstError)]
    | _ => [])

end Result

namespace Kind

/-- The sentence that sums up a result. -/
def summaryMessage (kind : Kind) : Result → String
  | .someFailed .. =>
      "Error " ++ kind.progressive ++ " recurring jobs - please refresh the page"
  | .allSucceeded => "Successfully " ++ kind.pastTense ++ " recurring jobs"
  | .someSucceededSomeRejected =>
      "Successfully " ++ kind.pastTense ++
        " recurring jobs. Some of the selected jobs cannot be " ++ kind.pastTense
  | .allRejected => "All selected jobs cannot be " ++ kind.pastTense

/-- The notification that sums up a result. -/
def summary (kind : Kind) (result : Result) : Notification :=
  ⟨kind.pastTense, result.severity, kind.summaryMessage result⟩

end Kind

/-- The report of a bulk action. -/
structure Report where
  kind : Kind
  result : Result
  counts : Counts
  notification : Notification
  refresh : Bool
deriving DecidableEq

namespace Report

/-- A report as a value. -/
def encode (report : Report) : Value :=
  .object [
    ("kind", .string report.kind.name),
    ("result", report.result.encode),
    ("counts", report.counts.encode),
    ("notification", report.notification.encode),
    ("refresh", .bool report.refresh)]

end Report

/-- The outcome of a settled request. -/
def outcomeOf (kind : Kind) : Settled → Outcome
  | .ok status => kind.classify status
  | .error _ => .failed

/-- The error of a settled request, if it failed. -/
def errorOf (kind : Kind) : Settled → Option String
  | .ok status =>
      if kind.classify status = .failed then some ("unexpected status " ++ natText status) else none
  | .error error => some error.message

/-- The event that reports a settled request, if it failed. -/
def eventOf (kind : Kind) (id : String) : Settled → Option LogEvent
  | .ok status =>
      if kind.classify status = .failed then
        some ⟨.batch, .warn, "unexpected status for recurring job action",
          [("action", .text kind.name), ("resource_id", .text id), ("status", .number status)]⟩
      else
        none
  | .error error =>
      some ⟨.batch, .warn, "recurring job action request failed",
        [("action", .text kind.name), ("resource_id", .text id), ("error", .text error.message)]⟩

/-- The report of an action whose requests settled as given, in the order of the
selection. -/
def reportOf (kind : Kind) (settled : List Settled) : Report :=
  let counts := Counts.ofOutcomes (settled.map (outcomeOf kind))
  let result := Result.aggregate counts (settled.findSome? (errorOf kind))
  ⟨kind, result, counts, kind.summary result, 0 < counts.succeeded⟩

/-- The event that closes a bulk action. -/
def settledEvent (report : Report) : LogEvent :=
  ⟨.batch, .info, "bulk action settled", [
    ("action", .text report.kind.name),
    ("result", .text report.result.name),
    ("succeeded", .number report.counts.succeeded),
    ("rejected", .number report.counts.rejected),
    ("failed", .number report.counts.failed),
    ("refresh", .flag report.refresh)]⟩

/-- The events of an action whose requests settled as given: one for each
failure, in the order of the selection, and a last one with the counts. -/
def eventsOf (kind : Kind) (settled : List (String × Settled)) : List LogEvent :=
  settled.filterMap (fun (id, answer) => eventOf kind id answer) ++
    [settledEvent (reportOf kind (settled.map Prod.snd))]

/-- A report counts every request once. -/
theorem total_counts_reportOf (kind : Kind) (settled : List Settled) :
    (reportOf kind settled).counts.total = settled.length := by
  simp [reportOf]

end JobConsole.Batch
