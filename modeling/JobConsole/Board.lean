import JobConsole.Resource
import JobConsole.Store.Dispatch

/-!
# Boards

A board holds one store for each polled resource.  A desk has several boards,
and a board can be reached under more than one handle.  Subscriptions made at a
desk are scoped: they last until all of them are ended together.

An operation on one store leaves every other store as it is; the laws of
`Board.store` say so.
-/

namespace JobConsole

open JobConsole.Json

/-- A store for each resource. -/
structure Board (ο γ : Type) where
  jobStats : Store.Run JobStats ο γ
  servers : Store.Run (List Server) ο γ
  problems : Store.Run (List Problem) ο γ

namespace Board

variable {ο γ : Type} [DecidableEq ο] [DecidableEq γ]

/-- A board that has never been used. -/
def empty : Board ο γ :=
  ⟨Store.Run.empty, Store.Run.empty, Store.Run.empty⟩

omit [DecidableEq ο] [DecidableEq γ] in
/-- The store of a resource. -/
def store (board : Board ο γ) : (resource : Resource) → Store.Run resource.Data ο γ
  | .jobStats => board.jobStats
  | .servers => board.servers
  | .problems => board.problems

omit [DecidableEq ο] [DecidableEq γ] in
/-- The board with the store of a resource changed. -/
def update (board : Board ο γ) (resource : Resource)
    (change : Store.Run resource.Data ο γ → Store.Run resource.Data ο γ) : Board ο γ :=
  match resource with
  | .jobStats => { board with jobStats := change board.jobStats }
  | .servers => { board with servers := change board.servers }
  | .problems => { board with problems := change board.problems }

omit [DecidableEq ο] [DecidableEq γ] in
/-- The board with every store changed. -/
def updateAll (board : Board ο γ)
    (change : {α : Type} → Store.Run α ο γ → Store.Run α ο γ) : Board ο γ :=
  ⟨change board.jobStats, change board.servers, change board.problems⟩

/-- The board after data of a resource have been pushed. -/
def push (board : Board ο γ) (resource : Resource) (data : resource.Data) : Board ο γ :=
  board.update resource (Store.Run.announce data)

/-- The board with an observer subscribed to a resource until a guard is
dropped. -/
def scope (board : Board ο γ) (resource : Resource) (guard : γ) (observer : ο) : Board ο γ :=
  board.update resource (Store.Run.perform (.scope guard observer))

/-- The board with all scopes ended. -/
def endScopes (board : Board ο γ) : Board ο γ :=
  board.updateAll fun run => run.scopes.foldl (fun run scope => run.endScope scope.1) run

/-- The board with every store reset. -/
def reset (board : Board ο γ) : Board ο γ :=
  board.updateAll (Store.Run.perform .reset)

omit [DecidableEq ο] [DecidableEq γ] in
/-- The description of a board. -/
def describe (board : Board ο γ) : String :=
  let shown (resource : Resource) :=
    resource.name ++ ": " ++ (board.store resource).store.describe resource.name
  "Dashboard \x7b " ++ String.intercalate ", " (Resource.all.map shown) ++ " \x7d"

omit [DecidableEq ο] [DecidableEq γ] in
/-- The text of the snapshot of a resource. -/
def snapshotText? (board : Board ο γ) (resource : Resource) : Option String :=
  (board.store resource).store.current.value?.map fun data => (resource.encode data).compact

omit [DecidableEq ο] [DecidableEq γ] in
/-- The observers of a resource that have been called since an earlier state of
the board, with the texts of the data. -/
def callTexts (earlier board : Board ο γ) (resource : Resource) : List (ο × String) :=
  (Store.Run.callsOf (Store.Run.eventsSince (earlier.store resource) (board.store resource))).map
    fun (observer, data) => (observer, (resource.encode data).compact)

omit [DecidableEq ο] [DecidableEq γ] in
/-- A change of a store is seen in that store. -/
@[simp]
theorem store_update_self (board : Board ο γ) (resource : Resource)
    (change : Store.Run resource.Data ο γ → Store.Run resource.Data ο γ) :
    (board.update resource change).store resource = change (board.store resource) := by
  cases resource <;> rfl

omit [DecidableEq ο] [DecidableEq γ] in
/-- A change of a store is not seen in the others. -/
theorem store_update_of_ne (board : Board ο γ) {resource other : Resource}
    (change : Store.Run resource.Data ο γ → Store.Run resource.Data ο γ)
    (ne : other ≠ resource) : (board.update resource change).store other = board.store other := by
  cases resource <;> cases other <;> simp_all [update, store]

omit [DecidableEq ο] [DecidableEq γ] in
@[simp]
theorem store_updateAll (board : Board ο γ) (resource : Resource)
    (change : {α : Type} → Store.Run α ο γ → Store.Run α ο γ) :
    (board.updateAll change).store resource = change (board.store resource) := by
  cases resource <;> rfl

end Board

/-- What can be done at a desk. -/
inductive DeskStep (κ : Type) where
  | push (handle : Nat) (resource : Resource) (text : String)
  | subscribe (handle : Nat) (resource : Resource) (tag : κ)
  | endSubscriptions
  | reset (handle : Nat)

/-- Boards, the number of the board that each handle reaches, and the number of
subscriptions so far.  An observer is a subscription: its number and its tag. -/
structure Desk (κ : Type) where
  boards : List (Board (Nat × κ) Nat)
  handles : List Nat
  subscriptions : Nat

namespace Desk

variable {κ : Type} [DecidableEq κ]

/-- A desk on which nothing has been done, with as many boards as the handles
need. -/
def ofHandles (handles : List Nat) : Desk κ :=
  ⟨List.replicate (handles.foldl max 0 + 1) Board.empty, handles, 0⟩

omit [DecidableEq κ] in
/-- The number of the board that a handle reaches. -/
def number? (desk : Desk κ) (handle : Nat) : Option Nat :=
  desk.handles[handle]?

omit [DecidableEq κ] in
/-- The board that a handle reaches. -/
def board? (desk : Desk κ) (handle : Nat) : Option (Board (Nat × κ) Nat) :=
  (desk.number? handle).bind fun number => desk.boards[number]?

omit [DecidableEq κ] in
/-- The desk with the board of a handle changed. -/
def update (desk : Desk κ) (handle : Nat)
    (change : Board (Nat × κ) Nat → Board (Nat × κ) Nat) : Desk κ :=
  match desk.number? handle with
  | some number => { desk with boards := desk.boards.modify number change }
  | none => desk

/-- The desk after a step, unless the step pushes a text that does not decode. -/
def step? (step : DeskStep κ) (desk : Desk κ) : Option (Desk κ) :=
  match step with
  | .push handle resource text =>
      (decode? resource.decode? text).map fun data =>
        desk.update handle fun board => board.push resource data
  | .subscribe handle resource tag =>
      let number := desk.subscriptions
      some { desk.update handle fun board => board.scope resource number (number, tag) with
        subscriptions := number + 1 }
  | .endSubscriptions => some { desk with boards := desk.boards.map Board.endScopes }
  | .reset handle => some (desk.update handle Board.reset)

/-- The desk after a step; a step that pushes a text that does not decode
changes nothing. -/
def step (desk : Desk κ) (step : DeskStep κ) : Desk κ :=
  (desk.step? step).getD desk

end Desk

end JobConsole
