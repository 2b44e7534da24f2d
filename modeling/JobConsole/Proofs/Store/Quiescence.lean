import JobConsole.Proofs.Store.Delivery

/-!
# Quiescence

Behind every action of its owner a store is at rest: nothing waits and nobody is
being told, also when an observer has failed or has reset the store.  So it has
no memory of what it went through: it does what a store does that has just been
made with its snapshot and its observers.

The past of a run is only read by the observers; to put one history before the
events of another run changes nothing else.
-/

namespace JobConsole.Store

open History

variable {α ο γ : Type}

/-- The script of observers that remember a past. -/
def remembering (past : List (Event α ο γ)) (script : Script α ο γ) : Script α ο γ :=
  fun events => script (events ++ past)

namespace Run

/-- The run with a past before its own events. -/
def onto (past : List (Event α ο γ)) (run : Run α ο γ) : Run α ο γ :=
  { run with events := run.events ++ past }

/-- A run that begins with a store that holds a snapshot and observers, under some
scopes. -/
def holding (current : Snapshot α) (observers : List ο) (scopes : List (γ × ο)) : Run α ο γ :=
  ⟨⟨current, observers, [], false⟩, scopes, []⟩

variable [DecidableEq ο] [DecidableEq γ]

/-! ## The past -/

omit [DecidableEq ο] [DecidableEq γ] in
@[simp]
theorem store_onto (past : List (Event α ο γ)) (run : Run α ο γ) :
    (run.onto past).store = run.store :=
  rfl

omit [DecidableEq ο] [DecidableEq γ] in
@[simp]
theorem record_onto (past : List (Event α ο γ)) (event : Event α ο γ) (run : Run α ο γ) :
    (run.onto past).record event = (run.record event).onto past :=
  rfl

omit [DecidableEq ο] [DecidableEq γ] in
@[simp]
theorem update_onto (past : List (Event α ο γ)) (change : Store α ο → Store α ο)
    (run : Run α ο γ) : (run.onto past).update change = (run.update change).onto past :=
  rfl

theorem endScope_onto (past : List (Event α ο γ)) (guard : γ) (run : Run α ο γ) :
    (run.onto past).endScope guard = (run.endScope guard).onto past := by
  simp only [endScope, onto]
  cases run.scopes.lookup guard <;> rfl

theorem beginScope_onto (past : List (Event α ο γ)) (guard : γ) (observer : ο) (run : Run α ο γ) :
    (run.onto past).beginScope guard observer = (run.beginScope guard observer).onto past := by
  simp only [beginScope, update_onto, record_onto, endScope_onto]
  rfl

theorem perform_onto (past : List (Event α ο γ)) (action : Action α ο γ) (run : Run α ο γ) :
    (run.onto past).perform action = (run.perform action).onto past := by
  cases action with
  | scope guard observer => exact beginScope_onto past guard observer run
  | dropGuard guard => exact endScope_onto past guard run
  | _ => rfl

theorem performAll_onto (past : List (Event α ο γ)) (actions : List (Action α ο γ))
    (run : Run α ο γ) :
    (run.onto past).performAll actions = (run.performAll actions).map (onto past) id := by
  induction actions generalizing run with
  | nil => rfl
  | cons action actions ih =>
      by_cases failing : action = .fail
      · subst failing
        rfl
      · rw [performAll_cons_of_ne failing, performAll_cons_of_ne failing, perform_onto]
        exact ih _

theorem callAll_cons (script : Script α ο γ) (value : α) (observer : ο) (rest : List ο)
    (run : Run α ο γ) :
    run.callAll script value (observer :: rest) =
      match (run.record (.called observer value)).performAll
          (script (.called observer value :: run.events) observer value) with
      | (run, .finished) => run.callAll script value rest
      | (run, .failed) => (run, .failed) :=
  rfl

theorem callAll_onto (past : List (Event α ο γ)) (script : Script α ο γ) (value : α)
    (observers : List ο) (run : Run α ο γ) :
    (run.onto past).callAll script value observers =
      (run.callAll (remembering past script) value observers).map (onto past) id := by
  induction observers generalizing run with
  | nil => rfl
  | cons observer rest ih =>
      rw [callAll_cons, callAll_cons, record_onto, performAll_onto]
      simp only [remembering, onto, List.cons_append]
      obtain ⟨after, ending⟩ := (run.record (.called observer value)).performAll
        (script (.called observer value :: (run.events ++ past)) observer value)
      cases ending with
      | finished => exact ih after
      | failed => rfl

theorem pass_onto (past : List (Event α ο γ)) (script : Script α ο γ) (value : α)
    (rest : List α) (run : Run α ο γ) :
    (run.onto past).pass script value rest =
      (run.pass (remembering past script) value rest).map (onto past) id := by
  simp only [pass, store_onto, update_onto, record_onto, callAll_onto]
  obtain ⟨after, ending⟩ := callAll (remembering past script) value
    ((run.update (startPass rest)).record (.passStarted value run.store.observers))
    run.store.observers
  cases ending <;> rfl

theorem drain_onto (past : List (Event α ο γ)) (script : Script α ο γ) (passes : Nat)
    (run : Run α ο γ) :
    drain script passes (run.onto past) =
      (drain (remembering past script) passes run).map (Prod.map (onto past) id) := by
  induction passes generalizing run with
  | zero => rfl
  | succ passes ih =>
      simp only [drain, store_onto]
      cases run.store.pending with
      | nil => rfl
      | cons value rest =>
          simp only [pass_onto]
          obtain ⟨after, ending⟩ := run.pass (remembering past script) value rest
          cases ending with
          | finished => exact ih after
          | failed => rfl

/-- An action of the owner does to a store what it would do without its past. -/
theorem step_onto (past : List (Event α ο γ)) (script : Script α ο γ) (passes : Nat)
    (action : Action α ο γ) (run : Run α ο γ) :
    (run.onto past).step script passes action =
      (run.step (remembering past script) passes action).map (Prod.map (onto past) id) := by
  cases action with
  | push value =>
      simp only [step, store_onto, perform_onto, drain_onto]
      split <;> rfl
  | fail => rfl
  | _ =>
      simp only [step, perform_onto]
      rfl

theorem steps_onto (past : List (Event α ο γ)) (script : Script α ο γ) (passes : Nat)
    (actions : List (Action α ο γ)) (run : Run α ο γ) :
    steps script passes actions (run.onto past) =
      (steps (remembering past script) passes actions run).map (onto past) := by
  induction actions generalizing run with
  | nil => rfl
  | cons action actions ih =>
      simp only [steps, step_onto, Option.bind_eq_bind, Option.map_bind, Option.bind_map]
      apply Option.bind_congr
      rintro ⟨between, ending⟩ -
      exact ih between

omit [DecidableEq ο] [DecidableEq γ] in
theorem forgotten_onto (run : Run α ο γ) :
    ({ run with events := [] } : Run α ο γ).onto run.events = run :=
  rfl

theorem callAll_suffix (script : Script α ο γ) (value : α) (observers : List ο)
    (run : Run α ο γ) : run.events <:+ (run.callAll script value observers).1.events := by
  rw [← forgotten_onto run, callAll_onto]
  exact List.suffix_append _ _

theorem drain_suffix {script : Script α ο γ} {passes : Nat} {run after : Run α ο γ}
    {ending : Ending} (drained : drain script passes run = some (after, ending)) :
    run.events <:+ after.events := by
  rw [← forgotten_onto run, drain_onto] at drained
  obtain ⟨⟨before, _⟩, -, same⟩ := Option.map_eq_some_iff.mp drained
  cases same
  exact List.suffix_append _ _

/-! ## Rest -/

/-- A push into a store at rest starts its own pass, with its own value and the
observers of the moment. -/
theorem pass_of_push {script : Script α ο γ} {passes : Nat} {run after : Run α ο γ}
    {ending : Ending} {value : α} (idle : run.store.pending = [])
    (still : run.store.dispatching = false)
    (stepped : run.step script passes (.push value) = some (after, ending)) :
    .passStarted value run.store.observers :: .pushed value :: run.events <:+ after.events := by
  simp only [step, still, Bool.false_eq_true, if_false] at stepped
  cases passes with
  | zero => cases stepped
  | succ passes =>
      have waits : (run.perform (.push value)).store.pending = [value] := by
        simp only [perform, store_record, store_update, Store.enqueue, idle, List.nil_append]
      have observers : (run.perform (.push value)).store.observers = run.store.observers := rfl
      simp only [drain, waits, pass, observers] at stepped
      have told := callAll_suffix script value run.store.observers
        (((run.perform (.push value)).update (startPass [])).record
          (.passStarted value run.store.observers))
      rcases called : callAll script value
        (((run.perform (.push value)).update (startPass [])).record
          (.passStarted value run.store.observers)) run.store.observers with ⟨between, ending⟩
      rw [called] at stepped told
      cases ending with
      | finished => exact (told.trans (List.suffix_cons _ _)).trans (drain_suffix stepped)
      | failed =>
          cases stepped
          exact told.trans (List.suffix_cons _ _)

end Run

/-- A push into a store at rest leads to its own pass. -/
theorem Moment.start_of_push [DecidableEq ο] [DecidableEq γ] {script : Script α ο γ}
    {run : Run α ο γ} (here : Moment script run .rest) (idle : run.store.pending = [])
    (still : run.store.dispatching = false) (value : α) :
    Moment script
      (((run.perform (.push value)).update (startPass [])).record
        (.passStarted value run.store.observers)) (.telling value run.store.observers []) := by
  have between := here.owner (.push value)
  rw [Stage.behind_push still] at between
  apply between.start
  simp only [Run.perform, Run.store_record, Run.store_update, Store.enqueue, idle,
    List.nil_append]

/-- Behind every action of its owner a store is at rest.  From there on it does what a
store does that has just been made with its snapshot and its observers, for
observers that remember the past; a push that was given up has had no pass and never has
one; and a push starts its own pass, whether the pass ever ends or not. -/
theorem quiescent_of_steps [DecidableEq ο] [DecidableEq γ] {script : Script α ο γ}
    {passes : Nat} {actions : List (Action α ο γ)} {run : Run α ο γ}
    (done : Run.steps script passes actions Run.empty = some run) :
    run.store.pending = [] ∧ run.store.dispatching = false ∧
      (∀ more next action,
        (Run.steps script more next run).bind (Run.step script more action) =
          ((Run.steps (remembering run.events script) more next
            (Run.holding run.store.current run.store.observers run.scopes)).bind
              (Run.step (remembering run.events script) more action)).map
                (Prod.map (Run.onto run.events) id)) ∧
      (∀ number, GivenUp number run.events → ∀ later, some number ∉ numbers (later ++ run.events)) ∧
      (∀ value, Moment script
        (((run.perform (.push value)).update (startPass [])).record
          (.passStarted value run.store.observers)) (.telling value run.store.observers [])) ∧
      (∀ more value after ending,
        run.step script more (.push value) = some (after, ending) →
          .passStarted value run.store.observers :: .pushed value :: run.events <:+
            after.events) := by
  have here := Moment.unused.steps done
  obtain ⟨idle, still, -⟩ := (orderly_of_moment here).fits
  have fresh : (Run.holding run.store.current run.store.observers run.scopes).onto run.events =
      run := by
    obtain ⟨⟨current, observers, pending, dispatching⟩, scopes, events⟩ := run
    cases idle
    cases still
    rfl
  refine ⟨idle, still, ?_, fun number given later => not_told_of_givenUp (given.append later),
    fun value => here.start_of_push idle still value,
    fun more value after ending stepped => Run.pass_of_push idle still stepped⟩
  intro more next action
  have steps := Run.steps_onto run.events script more next
    (Run.holding run.store.current run.store.observers run.scopes)
  rw [fresh] at steps
  rw [steps, Option.bind_map, Option.map_bind]
  apply Option.bind_congr
  rintro between -
  exact Run.step_onto run.events script more action between

theorem quiescent_echoes :
    Run.steps echo 4 [.subscribe 0, .push 1, .push 7] Run.empty = some echoes ∧
      echoes.store.pending = [] ∧ echoes.store.dispatching = false ∧
        ∀ more value after ending,
          echoes.step echo more (.push value) = some (after, ending) →
            .passStarted value [0, 1] :: .pushed value :: echoes.events <:+ after.events := by
  have done : Run.steps echo 4 [.subscribe 0, .push 1, .push 7] Run.empty = some echoes := rfl
  obtain ⟨idle, still, -, -, -, next⟩ := quiescent_of_steps done
  exact ⟨done, idle, still, next⟩

end JobConsole.Store
