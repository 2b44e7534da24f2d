import JobConsole.Proofs.Store.History

/-!
# The store and its history

At every moment the store holds what its history says: the registered observers
in their order, and the values of the pushes that wait.  An action, be it of the
owner or of an observer, changes registrations, the queue and the snapshot, and
has no part in the passes.
-/

namespace JobConsole.Store

open History

variable {α ο γ : Type} [DecidableEq ο] [DecidableEq γ]

omit [DecidableEq γ] in
theorem observers_subscribe (observer : ο) (store : Store α ο) :
    (store.subscribe observer).observers = enroll observer store.observers := by
  unfold subscribe enroll
  split <;> rfl

omit [DecidableEq γ] in
@[simp]
theorem dispatching_subscribe (observer : ο) (store : Store α ο) :
    (store.subscribe observer).dispatching = store.dispatching := by
  unfold subscribe
  split <;> rfl

/-- The store of a run is the one that its history speaks of. -/
structure Agrees (run : Run α ο γ) : Prop where
  observers : run.store.observers = registered run.events
  pending : run.store.pending = (waiting run.events).map Prod.snd

/-- What an action leaves alone: the passes and the calls made in them.  Pushes
can be added. -/
structure Beside (run after : Run α ο γ) : Prop where
  passes : passes after.events = passes run.events
  calls : Run.callsOf after.events = Run.callsOf run.events
  pushed : pushed run.events <+: pushed after.events
  dispatching : after.store.dispatching = run.store.dispatching

omit [DecidableEq γ] in
theorem Beside.refl (run : Run α ο γ) : Beside run run :=
  ⟨rfl, rfl, List.prefix_refl _, rfl⟩

omit [DecidableEq γ] in
theorem Beside.trans {run between after : Run α ο γ} (first : Beside run between)
    (second : Beside between after) : Beside run after where
  passes := second.passes.trans first.passes
  calls := second.calls.trans first.calls
  pushed := first.pushed.trans second.pushed
  dispatching := second.dispatching.trans first.dispatching

omit [DecidableEq γ] in
/-- A registration, be it by a scope or without one, keeps agreement. -/
theorem Agrees.subscribe {run : Run α ο γ} (agrees : Agrees run) {event : Event α ο γ}
    {observer : ο}
    (enrolls : registered (event :: run.events) = enroll observer (registered run.events))
    (same : waiting (event :: run.events) = waiting run.events) :
    Agrees ((run.update (Store.subscribe observer)).record event) := by
  constructor
  · rw [Run.store_record, Run.store_update, Run.events_record, Run.events_update,
      observers_subscribe, enrolls, agrees.observers]
  · rw [Run.store_record, Run.store_update, Run.events_record, Run.events_update,
      pending_subscribe, same, agrees.pending]

theorem Agrees.endScope {run : Run α ο γ} (agrees : Agrees run) (guard : γ) :
    Agrees (run.endScope guard) := by
  unfold Run.endScope
  split
  · exact agrees
  · constructor
    · simp only [registered, Store.unsubscribe, agrees.observers]
    · simp only [waiting, Store.unsubscribe, agrees.pending]

theorem Beside.endScope (run : Run α ο γ) (guard : γ) : Beside run (run.endScope guard) := by
  unfold Run.endScope
  split
  · exact Beside.refl run
  · exact ⟨rfl, rfl, List.prefix_refl _, rfl⟩

/-- The beginning of a scope is a registration, behind which an older scope of
the guard ends. -/
theorem Agrees.beginScope {run : Run α ο γ} (agrees : Agrees run) (guard : γ) (observer : ο) :
    Agrees (run.beginScope guard observer) := by
  have begun : Agrees
      ((run.update (Store.subscribe observer)).record (.scopeBegun guard observer)) :=
    agrees.subscribe rfl rfl
  have ended := begun.endScope guard
  exact ⟨ended.observers, ended.pending⟩

theorem Beside.beginScope (run : Run α ο γ) (guard : γ) (observer : ο) :
    Beside run (run.beginScope guard observer) := by
  have begun : Beside run
      ((run.update (Store.subscribe observer)).record (.scopeBegun guard observer)) :=
    ⟨rfl, rfl, List.prefix_refl _, dispatching_subscribe observer run.store⟩
  have ended := begun.trans (Beside.endScope _ guard)
  exact ⟨ended.passes, ended.calls, ended.pushed, ended.dispatching⟩

/-- An action changes the store as it changes the history. -/
theorem Agrees.perform {run : Run α ο γ} (agrees : Agrees run) (action : Action α ο γ) :
    Agrees (run.perform action) := by
  cases action with
  | subscribe observer => exact agrees.subscribe rfl rfl
  | unsubscribe observer =>
      constructor
      · simp only [Run.perform, Run.store_record, Run.store_update, Run.events_record,
          Run.events_update, Store.unsubscribe, registered, agrees.observers]
      · simp only [Run.perform, Run.store_record, Run.store_update, Run.events_record,
          Run.events_update, Store.unsubscribe, waiting, agrees.pending]
  | push value =>
      constructor
      · exact agrees.observers
      · simp only [Run.perform, Run.store_record, Run.store_update, Run.events_record,
          Run.events_update, Store.enqueue, waiting, agrees.pending, List.map_append,
          List.map_cons, List.map_nil]
  | scope guard observer => exact agrees.beginScope guard observer
  | dropGuard guard => exact agrees.endScope guard
  | reset => exact ⟨rfl, rfl⟩
  | _ => exact ⟨agrees.observers, agrees.pending⟩

theorem Beside.perform (run : Run α ο γ) (action : Action α ο γ) :
    Beside run (run.perform action) := by
  cases action with
  | subscribe observer =>
      exact ⟨rfl, rfl, List.prefix_refl _, dispatching_subscribe observer run.store⟩
  | push value => exact ⟨rfl, rfl, List.prefix_append _ _, rfl⟩
  | scope guard observer => exact Beside.beginScope run guard observer
  | dropGuard guard => exact Beside.endScope run guard
  | _ => exact ⟨rfl, rfl, List.prefix_refl _, rfl⟩

/-- At every moment the store is the one its history speaks of. -/
theorem agrees_of_moment {script : Script α ο γ} {run : Run α ο γ} {stage : Stage α ο γ}
    (moment : Moment script run stage) : Agrees run := by
  induction moment with
  | unused => exact ⟨rfl, rfl⟩
  | owner action here ih => exact ih.perform action
  | settle here idle ih => exact ⟨ih.observers, ih.pending⟩
  | @start run value rest here next ih =>
      have queue := ih.pending
      rw [next] at queue
      refine ⟨ih.observers, ?_⟩
      simp only [Run.store_record, Run.store_update, startPass, Run.events_record,
        Run.events_update, waiting]
      rw [List.map_tail, ← queue, List.tail_cons]
  | call here ih => exact ⟨ih.observers, ih.pending⟩
  | act here going ih => exact ih.perform _
  | cut here ih => exact ⟨ih.observers, rfl⟩
  | finish here ih => exact ⟨ih.observers, ih.pending⟩

end JobConsole.Store
