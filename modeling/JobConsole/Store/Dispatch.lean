import JobConsole.Store.Basic

/-!
# Dispatch

A pushed value is told to the observers in passes, one for each value.  A pass
calls the observers that are registered when it starts, in the order of their
registration.  A called observer may act on the store itself: a value that it
pushes waits behind the others, a registration that it changes counts from the
next pass on.  When an observer fails, the pass ends and all waiting values are
given up.

Observers are described by a script, which says what an observer does when it
is called, in view of everything that has happened so far.  Scripts may push
for ever, so a run is given a number of passes; a run that needs more of them
has no result.  The events of a run are recorded, the last one first.
-/

namespace JobConsole.Store

/-- What can be done with a store, by its owner or by an observer that is being
called.  A scope keeps an observer registered until the guard of the scope is
dropped; a guard that is used again drops its old scope after the new one has
begun. -/
inductive Action (α ο γ : Type) where
  | subscribe (observer : ο)
  | unsubscribe (observer : ο)
  | push (value : α)
  | scope (guard : γ) (observer : ο)
  | dropGuard (guard : γ)
  | reset
  | readCurrent
  | readCount
  | describe
  | fail
deriving DecidableEq

/-- What happens in a run. -/
inductive Event (α ο γ : Type) where
  | subscribed (observer : ο)
  | unsubscribed (observer : ο)
  | pushed (value : α)
  | scopeBegun (guard : γ) (observer : ο)
  | scopeEnded (guard : γ) (observer : ο)
  | reset
  | passStarted (value : α) (observers : List ο)
  | called (observer : ο) (value : α)
  | passEnded
  | passCut
  | readCurrent (snapshot : Snapshot α)
  | readCount (count : Nat)
  | described (store : Store α ο)
deriving DecidableEq

/-- What an observer does when it is called with a value, in view of the events
so far. -/
abbrev Script (α ο γ : Type) : Type :=
  List (Event α ο γ) → ο → α → List (Action α ο γ)

/-- A store in use: its state, the scopes that have not ended, and the events so
far, the last one first. -/
structure Run (α ο γ : Type) where
  store : Store α ο
  scopes : List (γ × ο)
  events : List (Event α ο γ)
deriving DecidableEq

namespace Run

variable {α ο γ : Type} [DecidableEq ο] [DecidableEq γ]

/-- A store that has never been used. -/
def empty : Run α ο γ :=
  ⟨Store.empty, [], []⟩

omit [DecidableEq ο] [DecidableEq γ] in
/-- The run with one more event. -/
def record (event : Event α ο γ) (run : Run α ο γ) : Run α ο γ :=
  { run with events := event :: run.events }

omit [DecidableEq ο] [DecidableEq γ] in
/-- The run with its store changed. -/
def update (change : Store α ο → Store α ο) (run : Run α ο γ) : Run α ο γ :=
  { run with store := change run.store }

/-- The run without the scope of a guard; the observer of the scope is no longer
registered. -/
def endScope (guard : γ) (run : Run α ο γ) : Run α ο γ :=
  match run.scopes.lookup guard with
  | none => run
  | some observer =>
      { store := run.store.unsubscribe observer
        scopes := run.scopes.filter (·.1 ≠ guard)
        events := .scopeEnded guard observer :: run.events }

/-- The run with a new scope under a guard.  An older one under the same guard
ends when the new one has begun. -/
def beginScope (guard : γ) (observer : ο) (run : Run α ο γ) : Run α ο γ :=
  let begun := run.update (Store.subscribe observer) |>.record (.scopeBegun guard observer)
  let ended := begun.endScope guard
  { ended with scopes := (guard, observer) :: ended.scopes }

/-- The run after an action other than a failure.  A value that is pushed only
enters the queue. -/
def perform (action : Action α ο γ) (run : Run α ο γ) : Run α ο γ :=
  match action with
  | .subscribe observer => run.update (Store.subscribe observer) |>.record (.subscribed observer)
  | .unsubscribe observer =>
      run.update (Store.unsubscribe observer) |>.record (.unsubscribed observer)
  | .push value => run.update (Store.enqueue value) |>.record (.pushed value)
  | .scope guard observer => run.beginScope guard observer
  | .dropGuard guard => run.endScope guard
  | .reset => run.update Store.reset |>.record .reset
  | .readCurrent => run.record (.readCurrent run.store.current)
  | .readCount => run.record (.readCount run.store.observers.length)
  | .describe => run.record (.described run.store)
  | .fail => run

/-- Whether actions were carried out to the end, or one of them was a
failure. -/
inductive Ending where
  | finished
  | failed
deriving DecidableEq

/-- The run after a list of actions, of which those behind a failure are not
carried out. -/
def performAll (run : Run α ο γ) : List (Action α ο γ) → Run α ο γ × Ending
  | [] => (run, .finished)
  | .fail :: _ => (run, .failed)
  | action :: rest => (run.perform action).performAll rest

/-- The run after the given observers have been called with a value, up to the
first one that fails. -/
def callAll (script : Script α ο γ) (value : α) (run : Run α ο γ) : List ο → Run α ο γ × Ending
  | [] => (run, .finished)
  | observer :: rest =>
      let called := run.record (.called observer value)
      match called.performAll (script called.events observer value) with
      | (run, .finished) => run.callAll script value rest
      | (run, .failed) => (run, .failed)

/-- The run after one pass, which tells the observers of the first of the values
that wait. -/
def pass (script : Script α ο γ) (value : α) (rest : List α) (run : Run α ο γ) :
    Run α ο γ × Ending :=
  let observers := run.store.observers
  let started := run.update (Store.startPass rest) |>.record (.passStarted value observers)
  match started.callAll script value observers with
  | (run, .finished) => (run.record .passEnded, .finished)
  | (run, .failed) => (run.record .passCut, .failed)

/-- The run after all passes, if there are no more of them than given. -/
def drain (script : Script α ο γ) : Nat → Run α ο γ → Option (Run α ο γ × Ending)
  | 0, _ => none
  | passes + 1, run =>
      match run.store.pending with
      | [] => some (run.update Store.settle, .finished)
      | value :: rest =>
          match run.pass script value rest with
          | (run, .finished) => drain script passes run
          | (run, .failed) => some (run.update Store.abandon, .failed)

/-- The run after an action of the owner of the store.  A pushed value is told
at once, and so are the values that are pushed meanwhile. -/
def step (script : Script α ο γ) (passes : Nat) (action : Action α ο γ) (run : Run α ο γ) :
    Option (Run α ο γ × Ending) :=
  match action with
  | .push value =>
      let pushed := run.perform (.push value)
      if run.store.dispatching then some (pushed, .finished) else pushed.drain script passes
  | .fail => some (run, .failed)
  | action => some (run.perform action, .finished)

/-- The run after a list of actions of the owner. -/
def steps (script : Script α ο γ) (passes : Nat) :
    List (Action α ο γ) → Run α ο γ → Option (Run α ο γ)
  | [], run => some run
  | action :: rest, run => do
      let (run, _) ← run.step script passes action
      steps script passes rest run

/-- The script of observers that only take note of their calls. -/
def passive : Script α ο γ :=
  fun _ _ _ => []

/-- The run after a value has been pushed to observers that only take note of
their calls.  One pass tells them, one more look finds the queue empty. -/
def announce (value : α) (run : Run α ο γ) : Run α ο γ :=
  match run.step passive (run.store.pending.length + 2) (.push value) with
  | some (run, _) => run
  | none => run

/-- The calls among a list of events. -/
def callsOf (events : List (Event α ο γ)) : List (ο × α) :=
  events.filterMap fun
    | .called observer value => some (observer, value)
    | _ => none

/-- The events of a run since an earlier state of it, the first one first. -/
def eventsSince (earlier run : Run α ο γ) : List (Event α ο γ) :=
  (run.events.take (run.events.length - earlier.events.length)).reverse

omit [DecidableEq ο] [DecidableEq γ] in
/-- The events since an earlier state are those that have been added. -/
theorem eventsSince_of_append {earlier run : Run α ο γ} {added : List (Event α ο γ)}
    (more : run.events = added ++ earlier.events) :
    eventsSince earlier run = added.reverse := by
  have length : run.events.length - earlier.events.length = added.length := by
    rw [more, List.length_append, Nat.add_sub_cancel]
  rw [eventsSince, length, more, List.take_left]

/-- More passes than needed do not change the result. -/
theorem drain_mono {script : Script α ο γ} {passes more : Nat} {run : Run α ο γ}
    {result : Run α ο γ × Ending} (drained : drain script passes run = some result)
    (enough : passes ≤ more) : drain script more run = some result := by
  induction passes generalizing more run with
  | zero => simp [drain] at drained
  | succ passes ih =>
      obtain ⟨more, rfl⟩ : ∃ n, more = n + 1 := ⟨more - 1, by omega⟩
      unfold drain at drained ⊢
      split
      · rename_i waiting
        rw [waiting] at drained
        exact drained
      · rename_i value rest waiting
        rw [waiting] at drained
        simp only at drained
        split
        · rename_i after passed
          rw [passed] at drained
          exact ih drained (by omega)
        · rename_i after passed
          rw [passed] at drained
          exact drained

/-- When the queue has been worked off, nothing waits and nothing is told. -/
theorem idle_of_drain {script : Script α ο γ} {passes : Nat} {run : Run α ο γ}
    {result : Run α ο γ × Ending} (drained : drain script passes run = some result) :
    result.1.store.pending = [] ∧ result.1.store.dispatching = false := by
  induction passes generalizing run with
  | zero => simp [drain] at drained
  | succ passes ih =>
      unfold drain at drained
      split at drained
      · rename_i waiting
        cases drained
        simp [update, settle, waiting]
      · split at drained
        · exact ih drained
        · cases drained
          simp [update, abandon]

end Run

end JobConsole.Store
