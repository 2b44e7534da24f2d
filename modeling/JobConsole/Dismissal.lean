import JobConsole.Session
import JobConsole.Store.Dispatch

/-!
# Dismissing the severe exception

The report of a severe exception is dismissed with a request of its own.  When
that request has got a status, whatever it is, the problems are fetched again
and pushed into their store.  The outcome depends on the first request alone.
-/

namespace JobConsole

open JobConsole.Batch
open JobConsole.Json

/-- What has become of a dismissal. -/
inductive DismissOutcome where
  | dismissed
  | unacknowledged (status : Nat)
  | unreachable
deriving DecidableEq

namespace DismissOutcome

/-- The outcome of a settled request. -/
def ofSettled : Settled → DismissOutcome
  | .ok status => if Http.isSuccessStatus status then .dismissed else .unacknowledged status
  | .error _ => .unreachable

/-- An outcome as a value. -/
def encode : DismissOutcome → Value
  | .dismissed => .object [("outcome", .string "dismissed")]
  | .unacknowledged status =>
      .object [("outcome", .string "unacknowledged"), ("status", .natural status)]
  | .unreachable => .object [("outcome", .string "unreachable")]

/-- A dismissal has succeeded exactly when its status is one of success. -/
theorem ofSettled_eq_dismissed_iff {settled : Settled} :
    ofSettled settled = .dismissed ↔
      ∃ status, settled = .ok status ∧ Http.isSuccessStatus status = true := by
  cases settled with
  | error error => simp [ofSettled]
  | ok status =>
      simp only [ofSettled, Except.ok.injEq, exists_eq_left']
      split <;> simp_all

/-- A dismissal is out of reach exactly when its request has got no status. -/
theorem ofSettled_eq_unreachable_iff {settled : Settled} :
    ofSettled settled = .unreachable ↔ ∃ error, settled = .error error := by
  cases settled with
  | error error => simp [ofSettled]
  | ok status =>
      simp only [ofSettled]
      split <;> simp

end DismissOutcome

/-- The events of a settled request. -/
def dismissalEvents : Settled → List LogEvent
  | .ok status =>
      if Http.isSuccessStatus status then []
      else
        [⟨.problems, .warn, "severe exception dismissal was not acknowledged",
          [("status", .number status)]⟩]
  | .error error =>
      [⟨.problems, .warn, "failed to dismiss severe exception",
        [("error", .text error.message)]⟩]

/-- The event of problems that have been fetched again, or have not. -/
def refreshEvent : Except Api.FetchError (List Problem) → LogEvent
  | .ok problems => ⟨.problems, .info, "problems refreshed",
      [("problems", .number problems.length)]⟩
  | .error error => ⟨.problems, .warn, "failed to refresh problems",
      [("error", .text error.message)]⟩

variable {ο γ : Type} [DecidableEq ο] [DecidableEq γ]

/-- What a dismissal comes to: its outcome, which is known before the store is
touched, and the store with the ending of the push, or as it was if nothing is
pushed.  An observer that fails takes the outcome with it.  A push that needs
more passes than given leaves no store. -/
structure Dismissal (ο γ : Type) where
  outcome : DismissOutcome
  stored : Option (Store.Run (List Problem) ο γ × Store.Run.Ending)

/-- The store of the problems after they have been fetched again, or have not.
Its observers follow a script. -/
def refreshStore (script : Store.Script (List Problem) ο γ) (passes : Nat)
    (fetched : Except Api.FetchError (List Problem)) (store : Store.Run (List Problem) ο γ) :
    Option (Store.Run (List Problem) ο γ × Store.Run.Ending) :=
  match fetched with
  | .ok problems => store.step script passes (.push problems)
  | .error _ => some (store, .finished)

/-- Dismisses the report of a severe exception and fetches the problems again
into a store whose observers follow a script. -/
def dismissSevereTelling (script : Store.Script (List Problem) ο γ) (passes : Nat) (base : String)
    (store : Store.Run (List Problem) ο γ) : Session (Dismissal ο γ) := do
  let settled ← Session.call (Api.dismiss base Problem.severeExceptionKind)
  Session.reportAll (dismissalEvents settled)
  match settled with
  | .error _ => pure ⟨DismissOutcome.ofSettled settled, some (store, .finished)⟩
  | .ok _ =>
      let fetched ← Session.call (Api.problems base)
      Session.reportAll [refreshEvent fetched]
      pure ⟨DismissOutcome.ofSettled settled, refreshStore script passes fetched store⟩

/-- Dismisses the report of a severe exception and fetches the problems again
into a store whose observers only take note of their calls.  One pass tells them
of the problems, one more look finds the queue empty. -/
def dismissSevere (base : String) (store : Store.Run (List Problem) ο γ) :
    Session (DismissOutcome × Store.Run (List Problem) ο γ) := do
  let dismissal ←
    dismissSevereTelling Store.Run.passive (store.store.pending.length + 2) base store
  pure (dismissal.outcome, (dismissal.stored.map Prod.fst).getD store)

end JobConsole
