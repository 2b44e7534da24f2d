import JobConsole.Api
import JobConsole.Resource

/-!
# Errors of commands

A command ends with status zero or with an error.  An error has a status and a
message: status three for everything that concerns the API, status four for
actions that have failed.  A command line that cannot be carried out has status
two and is no error of a command.
-/

namespace JobConsole.Cli

open JobConsole.Batch
open JobConsole.Text

/-- The status of a command line that cannot be carried out. -/
def usageStatus : Nat := 2

/-- Why a command has failed. -/
inductive CommandError where
  | listRecurringJobs (error : Api.FetchError)
  | fetchJob (error : Api.FetchError)
  | listProblems (error : Api.FetchError)
  | dismissalUnacknowledged (status : Nat)
  | dashboardUnreachable
  | notLoaded (seconds : Nat) (missing : List Resource)
  | actionsFailed (kind : Kind) (counts : Counts)
deriving DecidableEq

namespace CommandError

/-- The status with which the program ends. -/
def status : CommandError → Nat
  | .actionsFailed .. => 4
  | _ => 3

/-- What is said of an error. -/
def message : CommandError → String
  | .listRecurringJobs error => "api_error: list recurring jobs: " ++ error.fullMessage
  | .fetchJob error => "api_error: fetch job: " ++ error.fullMessage
  | .listProblems error => "api_error: list problems: " ++ error.fullMessage
  | .dismissalUnacknowledged status =>
      "api_error: dismissal not acknowledged (status " ++ natText status ++ ")"
  | .dashboardUnreachable => "api_error: dashboard unreachable"
  | .notLoaded seconds missing =>
      "api_error: not loaded within " ++ natText seconds ++ "s: " ++
        String.intercalate ", " (missing.map Resource.name)
  | .actionsFailed kind counts =>
      "action_failed: " ++ natText counts.failed ++ " of " ++ natText counts.total ++ " " ++
        kind.name ++ " requests failed"

end CommandError

/-- How a command ends. -/
abbrev CommandEnd : Type :=
  Except CommandError Unit

/-- The status with which the program ends after a command. -/
def CommandEnd.status : CommandEnd → Nat
  | .ok _ => 0
  | .error error => error.status

/-- A command ends with status zero exactly when it has no error. -/
theorem CommandEnd.status_eq_zero_iff {commandEnd : CommandEnd} :
    CommandEnd.status commandEnd = 0 ↔ commandEnd = .ok () := by
  cases commandEnd with
  | ok result => simp [CommandEnd.status]
  | error error => cases error <;> simp [CommandEnd.status, CommandError.status]

end JobConsole.Cli
