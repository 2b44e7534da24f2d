import JobConsole.Notification

/-!
# Bulk actions

Four actions can be taken on recurring jobs.  The server answers each request
with a status: 204 for success, and for a deletion 409 when the job may not be
deleted from here; every other status is a failure.
-/

namespace JobConsole.Batch

open JobConsole.Json

/-- An action on a recurring job. -/
inductive Kind where
  | delete
  | trigger
  | enable
  | disable
deriving DecidableEq

/-- What has become of one action. -/
inductive Outcome where
  | succeeded
  | rejected
  | failed
deriving DecidableEq

namespace Outcome

/-- The name of an outcome. -/
def name : Outcome → String
  | .succeeded => "succeeded"
  | .rejected => "rejected"
  | .failed => "failed"

end Outcome

namespace Kind

/-- All actions. -/
def all : List Kind :=
  [.delete, .trigger, .enable, .disable]

/-- The name of an action. -/
def name : Kind → String
  | .delete => "delete"
  | .trigger => "trigger"
  | .enable => "enable"
  | .disable => "disable"

/-- What has been done when the action is over. -/
def pastTense : Kind → String
  | .delete => "deleted"
  | .trigger => "triggered"
  | .enable => "enabled"
  | .disable => "disabled"

/-- What is being done while the action lasts. -/
def progressive : Kind → String
  | .delete => "deleting"
  | .trigger => "triggering"
  | .enable => "enabling"
  | .disable => "disabling"

/-- The action with a name. -/
def ofName? (name : String) : Option Kind :=
  all.find? fun kind => kind.name == name

@[simp]
theorem ofName?_name (kind : Kind) : ofName? kind.name = some kind := by
  cases kind <;> rfl

/-- The outcome that a status stands for. -/
def classify (kind : Kind) (status : Nat) : Outcome :=
  if status = 204 then .succeeded
  else if kind = .delete ∧ status = 409 then .rejected
  else .failed

/-- Success does not depend on the action. -/
theorem classify_eq_succeeded_iff {kind : Kind} {status : Nat} :
    kind.classify status = .succeeded ↔ status = 204 := by
  unfold classify
  split
  · simp_all
  · split <;> simp_all

/-- Only a deletion can be rejected. -/
theorem classify_eq_rejected_iff {kind : Kind} {status : Nat} :
    kind.classify status = .rejected ↔ kind = .delete ∧ status = 409 := by
  unfold classify
  split
  · simp_all
  · split <;> simp_all

end Kind

end JobConsole.Batch
