import JobConsole.Json.Printer

/-!
# Notifications

A notification is the summary of an operation that a person sees: a kind, a
severity and a sentence.
-/

namespace JobConsole

open JobConsole.Json

/-- Whether an operation succeeded, as a person is told. -/
inductive Severity where
  | success
  | error
deriving DecidableEq

namespace Severity

/-- The name of a severity. -/
def name : Severity → String
  | .success => "success"
  | .error => "error"

end Severity

/-- The summary of an operation. -/
structure Notification where
  kind : String
  severity : Severity
  message : String
deriving DecidableEq

namespace Notification

/-- Whether a notification tells of an error. -/
def isError (notification : Notification) : Bool :=
  notification.severity = .error

/-- A notification as a line of text. -/
def display (notification : Notification) : String :=
  "[" ++ notification.severity.name ++ "] " ++ notification.message

/-- A notification as a value. -/
def encode (notification : Notification) : Value :=
  .object [
    ("kind", .string notification.kind),
    ("severity", .string notification.severity.name),
    ("message", .string notification.message)]

end Notification

end JobConsole
