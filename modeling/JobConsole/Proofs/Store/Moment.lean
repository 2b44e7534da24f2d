import JobConsole.Store.Dispatch

/-!
# Moments of a run

`Run.steps` carries out a run in one go, and a run whose pushes never end has no
result.  Here the same run is taken apart: a moment lies between two actions of
the owner, between two passes, or inside a pass between two actions of the
observer that is being called.  What holds at every moment holds at every point
of every run, whether the run ends or not.

`moment_rest_iff_resulting` says that the moments at rest are the results of
`Run.steps`.
-/

namespace JobConsole.Store

theorem Action.push_or_quiet {α ο γ : Type} (action : Action α ο γ) :
    (∃ value, action = .push value) ∨ ∀ value, action ≠ .push value := by
  cases action with
  | push value => exact .inl ⟨value, rfl⟩
  | _ =>
      right
      intro value same
      cases same

/-- Where a run stands: at rest, between two passes, or inside a pass.  There a
value is told, some observers are still to be called, and the one that is being
called has some actions left. -/
inductive Stage (α ο γ : Type) where
  | rest
  | between
  | telling (value : α) (observers : List ο) (actions : List (Action α ο γ))

namespace Stage

variable {α ο γ : Type}

theorem between_ne_rest : (between : Stage α ο γ) ≠ rest := by
  intro same
  cases same

theorem telling_ne_rest {value : α} {observers : List ο} {actions : List (Action α ο γ)} :
    telling value observers actions ≠ rest := by
  intro same
  cases same

theorem rest_ne_between : (rest : Stage α ο γ) ≠ between := by
  intro same
  cases same

theorem telling_ne_between {value : α} {observers : List ο} {actions : List (Action α ο γ)} :
    telling value observers actions ≠ between := by
  intro same
  cases same

/-- The stage behind an action of the owner. -/
def behind (action : Action α ο γ) (store : Store α ο) : Stage α ο γ :=
  match action with
  | .push _ => if store.dispatching then .rest else .between
  | _ => .rest

/-- A push while no pass goes on leads to a first pass. -/
theorem behind_push {store : Store α ο} (still : store.dispatching = false) (value : α) :
    behind (.push value : Action α ο γ) store = .between := by
  rw [behind, still]
  rfl

/-- Only a push leaves the owner's action unfinished. -/
theorem behind_eq_rest {action : Action α ο γ} (quiet : ∀ value, action ≠ .push value)
    (store : Store α ο) : behind action store = .rest := by
  cases action with
  | push value => exact absurd rfl (quiet value)
  | _ => rfl

end Stage

variable {α ο γ : Type} [DecidableEq ο] [DecidableEq γ]

/-- The moments of all runs with a script, each with the stage it belongs to. -/
inductive Moment (script : Script α ο γ) : Run α ο γ → Stage α ο γ → Prop
  | unused : Moment script Run.empty .rest
  | owner {run : Run α ο γ} (action : Action α ο γ) (here : Moment script run .rest) :
      Moment script (run.perform action) (.behind action run.store)
  | settle {run : Run α ο γ} (here : Moment script run .between) (idle : run.store.pending = []) :
      Moment script (run.update settle) .rest
  | start {run : Run α ο γ} {value : α} {rest : List α} (here : Moment script run .between)
      (next : run.store.pending = value :: rest) :
      Moment script
        ((run.update (startPass rest)).record (.passStarted value run.store.observers))
        (.telling value run.store.observers [])
  | call {run : Run α ο γ} {value : α} {observer : ο} {rest : List ο}
      (here : Moment script run (.telling value (observer :: rest) [])) :
      Moment script (run.record (.called observer value))
        (.telling value rest (script (.called observer value :: run.events) observer value))
  | act {run : Run α ο γ} {value : α} {rest : List ο} {action : Action α ο γ}
      {actions : List (Action α ο γ)}
      (here : Moment script run (.telling value rest (action :: actions)))
      (going : action ≠ .fail) :
      Moment script (run.perform action) (.telling value rest actions)
  | cut {run : Run α ο γ} {value : α} {rest : List ο} {actions : List (Action α ο γ)}
      (here : Moment script run (.telling value rest (.fail :: actions))) :
      Moment script ((run.record .passCut).update abandon) .rest
  | finish {run : Run α ο γ} {value : α} (here : Moment script run (.telling value [] [])) :
      Moment script (run.record .passEnded) .between

namespace Run

omit [DecidableEq ο] [DecidableEq γ] in
@[simp]
theorem events_record (event : Event α ο γ) (run : Run α ο γ) :
    (run.record event).events = event :: run.events :=
  rfl

omit [DecidableEq ο] [DecidableEq γ] in
@[simp]
theorem store_record (event : Event α ο γ) (run : Run α ο γ) :
    (run.record event).store = run.store :=
  rfl

omit [DecidableEq ο] [DecidableEq γ] in
@[simp]
theorem events_update (change : Store α ο → Store α ο) (run : Run α ο γ) :
    (run.update change).events = run.events :=
  rfl

omit [DecidableEq ο] [DecidableEq γ] in
@[simp]
theorem store_update (change : Store α ο → Store α ο) (run : Run α ο γ) :
    (run.update change).store = change run.store :=
  rfl

/-- An action other than a failure is carried out, and the others follow. -/
theorem performAll_cons_of_ne {action : Action α ο γ} (going : action ≠ .fail) (run : Run α ο γ)
    (rest : List (Action α ο γ)) :
    run.performAll (action :: rest) = (run.perform action).performAll rest := by
  cases action with
  | fail => exact absurd rfl going
  | _ => rfl

end Run

namespace Moment

variable {script : Script α ο γ}

/-- The actions of an observer lead to the end of its call, or to a failure. -/
theorem performAll {run after : Run α ο γ} {ending : Run.Ending} {value : α} {rest : List ο}
    {actions : List (Action α ο γ)} (here : Moment script run (.telling value rest actions))
    (performed : run.performAll actions = (after, ending)) :
    (ending = .finished → Moment script after (.telling value rest [])) ∧
      (ending = .failed → ∃ left, Moment script after (.telling value rest (.fail :: left))) := by
  induction actions generalizing run with
  | nil =>
      cases performed
      exact ⟨fun _ => here, fun failed => (nomatch failed)⟩
  | cons action actions ih =>
      by_cases failing : action = .fail
      · subst failing
        cases performed
        exact ⟨fun finished => (nomatch finished), fun _ => ⟨actions, here⟩⟩
      · rw [Run.performAll_cons_of_ne failing] at performed
        exact ih (here.act failing) performed

/-- The calls of a pass lead to its end, or to a failure. -/
theorem callAll {run after : Run α ο γ} {ending : Run.Ending} {value : α} {observers : List ο}
    (here : Moment script run (.telling value observers []))
    (called : run.callAll script value observers = (after, ending)) :
    (ending = .finished → Moment script after (.telling value [] [])) ∧
      (ending = .failed →
        ∃ rest left, Moment script after (.telling value rest (.fail :: left))) := by
  induction observers generalizing run with
  | nil =>
      cases called
      exact ⟨fun _ => here, fun failed => (nomatch failed)⟩
  | cons observer rest ih =>
      unfold Run.callAll at called
      simp only at called
      split at called
      · rename_i between performed
        exact ih ((here.call.performAll performed).1 rfl) called
      · rename_i between performed
        cases called
        obtain ⟨left, failing⟩ := (here.call.performAll performed).2 rfl
        exact ⟨fun finished => (nomatch finished), fun _ => ⟨rest, left, failing⟩⟩

/-- Working off the queue leads to rest. -/
theorem drain {passes : Nat} {run after : Run α ο γ} {ending : Run.Ending}
    (here : Moment script run .between)
    (drained : Run.drain script passes run = some (after, ending)) :
    Moment script after .rest := by
  induction passes generalizing run with
  | zero => cases drained
  | succ passes ih =>
      unfold Run.drain at drained
      split at drained
      · rename_i idle
        cases drained
        exact here.settle idle
      · rename_i value rest next
        unfold Run.pass at drained
        simp only at drained
        split at drained
        · rename_i between passed
          split at passed
          · rename_i told called
            cases passed
            exact ih (((here.start next).callAll called).1 rfl).finish drained
          · cases passed
        · rename_i between passed
          split at passed
          · cases passed
          · rename_i told called
            cases passed
            cases drained
            obtain ⟨rest, left, failing⟩ := ((here.start next).callAll called).2 rfl
            exact failing.cut

/-- An action of the owner leads from rest to rest. -/
theorem step {passes : Nat} {run after : Run α ο γ} {ending : Run.Ending}
    {action : Action α ο γ} (here : Moment script run .rest)
    (stepped : run.step script passes action = some (after, ending)) :
    Moment script after .rest := by
  have begun := here.owner action
  cases action with
  | push value =>
      simp only [Run.step] at stepped
      simp only [Stage.behind] at begun
      split at stepped
      · rename_i busy
        cases stepped
        simpa [busy] using begun
      · rename_i idle
        simp only [idle, Bool.false_eq_true, if_false] at begun
        exact begun.drain stepped
  | _ =>
      cases stepped
      exact begun

/-- Actions of the owner lead from rest to rest. -/
theorem steps {passes : Nat} {run after : Run α ο γ} {actions : List (Action α ο γ)}
    (here : Moment script run .rest)
    (done : Run.steps script passes actions run = some after) :
    Moment script after .rest := by
  induction actions generalizing run with
  | nil =>
      cases done
      exact here
  | cons action actions ih =>
      simp only [Run.steps, Option.bind_eq_bind, Option.bind_eq_some_iff] at done
      obtain ⟨⟨between, ending⟩, stepped, done⟩ := done
      exact ih (here.step stepped) done

end Moment

/-! ## Moments at rest are results -/

namespace Run

variable {script : Script α ο γ}

/-- An action other than a push takes no passes. -/
theorem exists_step_of_ne_push {action : Action α ο γ} (quiet : ∀ value, action ≠ .push value)
    (script : Script α ο γ) (run : Run α ο γ) :
    ∃ ending, run.step script 0 action = some (run.perform action, ending) := by
  cases action with
  | push value => exact absurd rfl (quiet value)
  | _ => exact ⟨_, rfl⟩

/-- More passes than needed do not change what an action of the owner does. -/
theorem step_mono {passes more : Nat} {action : Action α ο γ} {run : Run α ο γ}
    {result : Run α ο γ × Ending} (stepped : run.step script passes action = some result)
    (enough : passes ≤ more) : run.step script more action = some result := by
  cases action with
  | push value =>
      simp only [step] at stepped ⊢
      split
      · rename_i busy
        simpa [busy] using stepped
      · rename_i idle
        simp only [idle] at stepped
        exact drain_mono stepped enough
  | _ => exact stepped

theorem steps_mono {passes more : Nat} {actions : List (Action α ο γ)} {run after : Run α ο γ}
    (done : steps script passes actions run = some after) (enough : passes ≤ more) :
    steps script more actions run = some after := by
  induction actions generalizing run with
  | nil => exact done
  | cons action actions ih =>
      simp only [steps, Option.bind_eq_bind, Option.bind_eq_some_iff] at done ⊢
      obtain ⟨between, stepped, done⟩ := done
      exact ⟨between, step_mono stepped enough, ih done⟩

theorem steps_concat (passes : Nat) (actions : List (Action α ο γ)) (action : Action α ο γ)
    (run : Run α ο γ) :
    steps script passes (actions ++ [action]) run =
      (steps script passes actions run).bind fun between =>
        (between.step script passes action).map Prod.fst := by
  induction actions generalizing run with
  | nil =>
      simp only [List.nil_append, steps, Option.bind_eq_bind, Option.bind_some]
      cases run.step script passes action <;> rfl
  | cons first actions ih =>
      simp only [List.cons_append, steps, Option.bind_eq_bind, Option.bind_assoc, ih]

/-- What a run can come to by actions of the owner. -/
def Resulting (script : Script α ο γ) (run : Run α ο γ) : Prop :=
  ∃ passes actions, steps script passes actions Run.empty = some run

theorem Resulting.step {run after : Run α ο γ} {ending : Ending} {passes : Nat}
    {action : Action α ο γ} (resulting : Resulting script run)
    (stepped : run.step script passes action = some (after, ending)) :
    Resulting script after := by
  obtain ⟨before, actions, done⟩ := resulting
  refine ⟨max before passes, actions ++ [action], ?_⟩
  rw [steps_concat, steps_mono done (Nat.le_max_left _ _)]
  simp [step_mono stepped (Nat.le_max_right before passes)]

end Run

namespace Stage

/-- What is left of the owner's action at a stage, carried out in one go. -/
def complete (script : Script α ο γ) (passes : Nat) (run : Run α ο γ) :
    Stage α ο γ → Option (Run α ο γ × Run.Ending)
  | .rest => some (run, .finished)
  | .between => run.drain script passes
  | .telling value observers actions =>
      match run.performAll actions with
      | (run, .failed) => some ((run.record .passCut).update abandon, .failed)
      | (run, .finished) =>
          match run.callAll script value observers with
          | (run, .failed) => some ((run.record .passCut).update abandon, .failed)
          | (run, .finished) => (run.record .passEnded).drain script passes

variable {script : Script α ο γ}

theorem complete_call (passes : Nat) (run : Run α ο γ) (value : α) (observer : ο)
    (rest : List ο) :
    complete script passes run (.telling value (observer :: rest) []) =
      complete script passes (run.record (.called observer value))
        (.telling value rest (script (.called observer value :: run.events) observer value)) := by
  simp only [complete, Run.performAll, Run.callAll, Run.events_record]
  obtain ⟨after, ending⟩ := Run.performAll (run.record (.called observer value))
    (script (.called observer value :: run.events) observer value)
  cases ending <;> rfl

theorem complete_act (passes : Nat) (run : Run α ο γ) (value : α) (rest : List ο)
    {action : Action α ο γ} (actions : List (Action α ο γ)) (going : action ≠ .fail) :
    complete script passes run (.telling value rest (action :: actions)) =
      complete script passes (run.perform action) (.telling value rest actions) := by
  simp only [complete, Run.performAll_cons_of_ne going]

theorem complete_start (passes : Nat) {run : Run α ο γ} {value : α} {rest : List α}
    (next : run.store.pending = value :: rest) :
    complete script (passes + 1) run .between =
      complete script passes
        ((run.update (startPass rest)).record (.passStarted value run.store.observers))
        (.telling value run.store.observers []) := by
  simp only [complete, Run.drain, next, Run.pass, Run.performAll]
  obtain ⟨after, ending⟩ := Run.callAll script value
    ((run.update (startPass rest)).record (.passStarted value run.store.observers))
    run.store.observers
  cases ending <;> rfl

/-- A run is at rest with a result, or carrying out an action on a result, which
comes to what is left of it. -/
def Underway (script : Script α ο γ) (run : Run α ο γ) (stage : Stage α ο γ) : Prop :=
  ∃ before action, Run.Resulting script before ∧
    ∀ passes result, stage.complete script passes run = some result →
      ∃ more, before.step script more action = some result

/-- An action that is completed leads to a result. -/
theorem Underway.resulting {run after : Run α ο γ} {stage : Stage α ο γ} {passes : Nat}
    {ending : Run.Ending} (underway : Underway script run stage)
    (completed : stage.complete script passes run = some (after, ending)) :
    Run.Resulting script after := by
  obtain ⟨before, action, resulting, completes⟩ := underway
  obtain ⟨more, stepped⟩ := completes passes _ completed
  exact resulting.step stepped

/-- A run stays underway at a step that does not change what the action comes to. -/
theorem Underway.advance {run after : Run α ο γ} {stage next : Stage α ο γ}
    (underway : Underway script run stage)
    (same : ∀ passes, ∃ more,
      complete script more run stage = complete script passes after next) :
    Underway script after next := by
  obtain ⟨before, action, resulting, completes⟩ := underway
  refine ⟨before, action, resulting, ?_⟩
  intro passes result completed
  obtain ⟨more, unchanged⟩ := same passes
  exact completes more result (unchanged.trans completed)

end Stage

/-- An action on a result leads to a result, or is underway. -/
theorem Run.Resulting.owner {script : Script α ο γ} {run : Run α ο γ}
    (resulting : Run.Resulting script run) (action : Action α ο γ) :
    (Stage.behind action run.store = .rest → Run.Resulting script (run.perform action)) ∧
      (Stage.behind action run.store ≠ .rest →
        Stage.Underway script (run.perform action) (.behind action run.store)) := by
  rcases action.push_or_quiet with ⟨value, rfl⟩ | quiet
  · rw [Stage.behind]
    split
    · rename_i busy
      have stepped : run.step script 0 (.push value) =
          some (run.perform (.push value), .finished) := by
        simp only [Run.step, busy, if_true]
      exact ⟨fun _ => resulting.step stepped, fun moving => absurd rfl moving⟩
    · rename_i idle
      refine ⟨fun resting => absurd resting Stage.between_ne_rest, fun _ => ?_⟩
      refine ⟨run, .push value, resulting, fun passes result completed => ⟨passes, ?_⟩⟩
      simp only [Run.step, if_neg idle]
      exact completed
  · obtain ⟨ending, stepped⟩ := Run.exists_step_of_ne_push quiet script run
    rw [Stage.behind_eq_rest quiet]
    exact ⟨fun _ => resulting.step stepped, fun moving => absurd rfl moving⟩

/-- Every moment is at rest with a result, or on the way from one to the next. -/
theorem Moment.resulting_or_underway {script : Script α ο γ} {run : Run α ο γ}
    {stage : Stage α ο γ} (moment : Moment script run stage) :
    (stage = .rest → Run.Resulting script run) ∧
      (stage ≠ .rest → Stage.Underway script run stage) := by
  induction moment with
  | unused => exact ⟨fun _ => ⟨0, [], rfl⟩, fun moving => absurd rfl moving⟩
  | owner action here ih => exact (ih.1 rfl).owner action
  | @settle run here idle ih =>
      have completed : Stage.complete script 1 run .between =
          some (run.update Store.settle, .finished) := by
        simp only [Stage.complete, Run.drain, idle]
      exact ⟨fun _ => (ih.2 Stage.between_ne_rest).resulting completed,
        fun moving => absurd rfl moving⟩
  | start here next ih =>
      refine ⟨fun resting => absurd resting Stage.telling_ne_rest, fun _ => ?_⟩
      apply (ih.2 Stage.between_ne_rest).advance
      exact fun passes => ⟨passes + 1, Stage.complete_start passes next⟩
  | @call run value observer rest here ih =>
      refine ⟨fun resting => absurd resting Stage.telling_ne_rest, fun _ => ?_⟩
      apply (ih.2 Stage.telling_ne_rest).advance
      exact fun passes => ⟨passes, Stage.complete_call passes run value observer rest⟩
  | @act run value rest action actions here going ih =>
      refine ⟨fun resting => absurd resting Stage.telling_ne_rest, fun _ => ?_⟩
      apply (ih.2 Stage.telling_ne_rest).advance
      exact fun passes => ⟨passes, Stage.complete_act passes run value rest actions going⟩
  | @cut run value rest actions here ih =>
      have completed : Stage.complete script 0 run (.telling value rest (.fail :: actions)) =
          some ((run.record .passCut).update abandon, .failed) := rfl
      exact ⟨fun _ => (ih.2 Stage.telling_ne_rest).resulting completed,
        fun moving => absurd rfl moving⟩
  | finish here ih =>
      refine ⟨fun resting => absurd resting Stage.between_ne_rest, fun _ => ?_⟩
      apply (ih.2 Stage.telling_ne_rest).advance
      exact fun passes => ⟨passes, rfl⟩

/-- The moments at rest are the results of `Run.steps`. -/
theorem moment_rest_iff_resulting {script : Script α ο γ} {run : Run α ο γ} :
    Moment script run .rest ↔ Run.Resulting script run := by
  constructor
  · intro moment
    exact moment.resulting_or_underway.1 rfl
  · rintro ⟨passes, actions, done⟩
    exact Moment.unused.steps done

end JobConsole.Store
