import JobConsole.Time.Json
import JobConsole.Uuid

/-!
# Jobs and their states

A job has a history of states, to which the server appends.  States that this
library does not know are kept as unknown.
-/

namespace JobConsole

open JobConsole.Json
open JobConsole.Time

/-- The state of a job. -/
inductive JobState where
  | awaitingExecution
  | scheduled
  | enqueued
  | processing
  | failed
  | succeeded
  | deleted
  | unknown
deriving DecidableEq

namespace JobState

/-- All states. -/
def all : List JobState :=
  [.awaitingExecution, .scheduled, .enqueued, .processing, .failed, .succeeded, .deleted, .unknown]

/-- The name of a state in data. -/
def name : JobState → String
  | .awaitingExecution => "AWAITING_EXECUTION"
  | .scheduled => "SCHEDULED"
  | .enqueued => "ENQUEUED"
  | .processing => "PROCESSING"
  | .failed => "FAILED"
  | .succeeded => "SUCCEEDED"
  | .deleted => "DELETED"
  | .unknown => "UNKNOWN"

/-- The name of a state in messages. -/
def title : JobState → String
  | .awaitingExecution => "AwaitingExecution"
  | .scheduled => "Scheduled"
  | .enqueued => "Enqueued"
  | .processing => "Processing"
  | .failed => "Failed"
  | .succeeded => "Succeeded"
  | .deleted => "Deleted"
  | .unknown => "Unknown"

/-- The state with a name; every other name is that of an unknown state. -/
def ofName (name : String) : JobState :=
  (all.find? fun state => state.name == name).getD .unknown

/-- Decodes a state: its name, or an object with its name as the only key and no
value. -/
def decode? : Raw → Option JobState
  | .string content => content.map ofName
  | .object [(key, .null)] => key.map ofName
  | _ => none

/-- A state as a value. -/
def encode (state : JobState) : Value :=
  .string state.name

/-- The name of a state leads back to it. -/
@[simp]
theorem ofName_name (state : JobState) : ofName state.name = state := by
  cases state <;> rfl

end JobState

/-- An entry in the history of a job. -/
structure Transition where
  state : JobState
  createdAt : Instant
deriving DecidableEq

namespace Transition

/-- Decodes an entry. -/
def decode? (raw : Raw) : Option Transition := do
  let fields ← raw.fields? ["state", "createdAt"]
  some {
    state := ← fields.required? "state" JobState.decode?
    createdAt := ← fields.required? "createdAt" Instant.decode?
  }

/-- An entry as a value. -/
def encode (transition : Transition) : Value :=
  .object [("state", transition.state.encode), ("createdAt", transition.createdAt.encode)]

end Transition

/-- A background job. -/
structure Job where
  id : Uuid
  jobName : Option String
  jobHistory : List Transition
deriving DecidableEq

namespace Job

/-- Decodes a job. -/
def decode? (raw : Raw) : Option Job := do
  let fields ← raw.fields? ["id", "jobName", "jobHistory"]
  some {
    id := ← fields.required? "id" Uuid.decode?
    jobName := ← fields.optional? "jobName" Raw.text?
    jobHistory := ← fields.given? "jobHistory" [] (Raw.list? Transition.decode?)
  }

/-- A job as a value. -/
def encode (job : Job) : Value :=
  .object [
    ("id", job.id.encode),
    ("jobName", .ofOption .string job.jobName),
    ("jobHistory", .array (job.jobHistory.map Transition.encode))]

/-- The most recent change of state. -/
def lastTransition? (job : Job) : Option Transition :=
  job.jobHistory.getLast?

end Job

end JobConsole
