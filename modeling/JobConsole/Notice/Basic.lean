import JobConsole.LogEvent
import JobConsole.Model.Job
import JobConsole.Model.Server
import JobConsole.Notice.Humanized
import JobConsole.Store.Snapshot

/-!
# Notices

A job that has succeeded, failed or been deleted is cleaned up by the server
after a retention period.  The notice of such a job says what has happened to it
and, when the settings of the servers are known, what will happen next and when.

The settings are those of the first server, since all servers of a cluster share
them.  A setting that cannot be read gives a warning and no transition; a
disabled one is reported for debugging only.
-/

namespace JobConsole

open JobConsole.Retention
open JobConsole.Time

/-- The states after which a job is cleaned up. -/
inductive TerminalState where
  | succeeded
  | failed
  | deleted
deriving DecidableEq

namespace TerminalState

/-- The terminal state that a state is, if it is one. -/
def ofState? : JobState → Option TerminalState
  | .succeeded => some .succeeded
  | .failed => some .failed
  | .deleted => some .deleted
  | _ => none

/-- The state that a terminal state is. -/
def state : TerminalState → JobState
  | .succeeded => .succeeded
  | .failed => .failed
  | .deleted => .deleted

/-- What has happened to the job. -/
def headline : TerminalState → String
  | .succeeded => "This job has succeeded."
  | .failed => "This job has failed."
  | .deleted => "This job is deleted."

/-- What will happen to the job. -/
def message : TerminalState → String
  | .succeeded => "It will automatically go to the deleted state"
  | .failed => "It will automatically be removed"
  | .deleted => "It will automatically be removed"

/-- The setting of a server for jobs in this state. -/
def setting? (terminal : TerminalState) (server : Server) : Option Setting :=
  match terminal with
  | .succeeded => some server.deleteSucceededJobsAfter
  | .failed => server.deleteFailedJobsAfter
  | .deleted => some server.permanentlyDeleteDeletedJobsAfter

/-- A state is terminal exactly when it is the state of a terminal state. -/
theorem ofState?_eq_some_iff {state : JobState} {terminal : TerminalState} :
    ofState? state = some terminal ↔ state = terminal.state := by
  cases state <;> cases terminal <;> simp [ofState?, TerminalState.state]

end TerminalState

/-- An automatic change of state to come. -/
structure AutoTransition where
  message : String
  target : Instant
  countdown : Countdown
deriving DecidableEq

namespace AutoTransition

/-- An automatic change of state as a sentence. -/
def display (transition : AutoTransition) : String :=
  match transition.countdown with
  | .pending remaining => transition.message ++ " in " ++ remaining.humanized
  | .reached ago => transition.message ++ " (due " ++ ago.humanized ++ " ago)"

/-- The data by which an event names the server and the state it concerns. -/
def subject (server : Server) (state : JobState) : List (String × LogDatum) :=
  [("server_id", .text server.id.text), ("state", .text state.title)]

/-- The report of a setting that cannot be read. -/
def unreadableSetting (server : Server) (state : JobState) (error : ParseError) : LogEvent :=
  ⟨.notice, .warn, "ignoring unparseable retention setting",
    subject server state ++ [("error", .text error.message)]⟩

/-- The report of a disabled setting. -/
def disabledSetting (server : Server) (state : JobState) : LogEvent :=
  ⟨.notice, .debug, "automatic transition disabled", subject server state⟩

/-- The automatic change of state that a setting of a server leads to, with the
events that reading it gives rise to. -/
def ofSetting (terminal : TerminalState) (server : Server) (setting : Setting)
    (last now : Instant) : Option AutoTransition × List LogEvent :=
  match Policy.parse setting with
  | .error error => (none, [unreadableSetting server terminal.state error])
  | .ok policy =>
      if policy.isDisabled then
        (none, [disabledSetting server terminal.state])
      else
        ((policy.transitionInstant? last).map fun target =>
          ⟨terminal.message, target, Countdown.between target now⟩, [])

/-- The automatic change of state of a job in a state since an instant. -/
def derive (state : JobState) (last : Instant) (servers : Snapshot (List Server)) (now : Instant) :
    Option AutoTransition × List LogEvent :=
  match TerminalState.ofState? state, servers.value?.bind List.head? with
  | some terminal, some server =>
      match terminal.setting? server with
      | some setting => ofSetting terminal server setting last now
      | none => (none, [])
  | _, _ => (none, [])

end AutoTransition

/-- What the detail view of a job says about its state. -/
structure JobNotice where
  headline : String
  autoTransition : Option String
  transitionAt : Option Instant
deriving DecidableEq

namespace JobNotice

/-- The notice of a job, which there is none of while the job is in flight. -/
def derive (job : Job) (servers : Snapshot (List Server)) (now : Instant) :
    Option JobNotice × List LogEvent :=
  match job.lastTransition? with
  | none => (none, [])
  | some last =>
      match TerminalState.ofState? last.state with
      | none => (none, [])
      | some terminal =>
          let (transition, events) := AutoTransition.derive last.state last.createdAt servers now
          (some ⟨terminal.headline, transition.map AutoTransition.display,
            transition.map AutoTransition.target⟩, events)

/-- A notice as a value. -/
def encode (notice : JobNotice) : Json.Value :=
  .object [
    ("headline", .string notice.headline),
    ("auto_transition", .ofOption .string notice.autoTransition),
    ("transition_at", .ofOption Instant.encode notice.transitionAt)]

end JobNotice

end JobConsole
