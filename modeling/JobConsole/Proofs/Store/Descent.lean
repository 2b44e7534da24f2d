import Mathlib.Data.Multiset.DershowitzManna
import JobConsole.Proofs.Store.Quiescence

/-!
# Descending pushes

Observers may push while they are called.  Then the queue can grow with every pass, and
which observers there are can change with every call, so neither the length of the queue
nor the number of observers tells when a push is over.

But let all that an observer pushes when it is called with a value have a smaller rank
than this value.  A pass takes one value off the queue and puts smaller ones in its place,
however many; whatever waited before is still there, or has been given up.  So the ranks
of the values that wait get smaller in the order of multisets, in which nothing can get
smaller for ever, and every push comes to rest.
-/

namespace JobConsole.Store

variable {α ο γ : Type}

namespace Action

/-- The actions that are carried out: those in front of the first failure. -/
def carriedOut : List (Action α ο γ) → List (Action α ο γ)
  | [] => []
  | .fail :: _ => []
  | action :: rest => action :: carriedOut rest

theorem carriedOut_cons_of_ne {action : Action α ο γ} (going : action ≠ .fail)
    (rest : List (Action α ο γ)) : carriedOut (action :: rest) = action :: carriedOut rest := by
  cases action with
  | fail => exact absurd rfl going
  | _ => rfl

end Action

/-- All that an observer pushes when it is called with a value has a smaller rank than
this value. -/
def Descends (script : Script α ο γ) (rank : α → Nat) : Prop :=
  ∀ before observer value later,
    .push later ∈ Action.carriedOut (script (.called observer value :: before) observer value) →
      rank later < rank value

/-! ## The queue in a pass -/

/-- What waits while a value is told: values that waited before, up to some place, and
behind them values of smaller rank. -/
def WaitsBelow (rank : α → Nat) (value : α) (rest queue : List α) : Prop :=
  ∃ kept added, kept <+: rest ∧ queue = kept ++ added ∧ ∀ later ∈ added, rank later < rank value

/-- The ranks of the values of a queue. -/
def weight (rank : α → Nat) (queue : List α) : Multiset Nat :=
  (queue.map rank : Multiset Nat)

variable {rank : α → Nat} {value : α} {rest : List α}

theorem waitsBelow_self (rank : α → Nat) (value : α) (rest : List α) :
    WaitsBelow rank value rest rest :=
  ⟨rest, [], List.prefix_rfl, (List.append_nil rest).symm, by simp⟩

/-- A value of smaller rank may join the queue. -/
theorem WaitsBelow.concat {queue : List α} (waits : WaitsBelow rank value rest queue) {later : α}
    (smaller : rank later < rank value) : WaitsBelow rank value rest (queue ++ [later]) := by
  obtain ⟨kept, added, isKept, rfl, below⟩ := waits
  refine ⟨kept, added ++ [later], isKept, List.append_assoc kept added [later], ?_⟩
  intro other member
  rcases List.mem_append.mp member with before | last
  · exact below other before
  · rw [List.mem_singleton.mp last]
    exact smaller

/-- Values of smaller rank in exchange for one value make the ranks smaller. -/
theorem WaitsBelow.weight_lt {queue : List α} (waits : WaitsBelow rank value rest queue) :
    Multiset.IsDershowitzMannaLT (weight rank queue) (weight rank (value :: rest)) := by
  obtain ⟨kept, added, ⟨dropped, rfl⟩, rfl, below⟩ := waits
  refine ⟨weight rank kept, weight rank added, weight rank (value :: dropped), ?_, ?_, ?_, ?_⟩
  · rw [weight, List.map_cons, ← Multiset.cons_coe]
    exact Multiset.cons_ne_zero
  · simp only [weight, List.map_append, Multiset.coe_add]
  · simp only [weight, Multiset.coe_add, Multiset.coe_eq_coe, ← List.map_append]
    exact (List.perm_middle.symm).map rank
  · intro number member
    obtain ⟨later, isAdded, rfl⟩ := List.mem_map.mp (Multiset.mem_coe.mp member)
    exact ⟨rank value, Multiset.mem_coe.mpr List.mem_cons_self, below later isAdded⟩

namespace Run

variable [DecidableEq ο] [DecidableEq γ]

theorem pending_endScope (run : Run α ο γ) (guard : γ) :
    (run.endScope guard).store.pending = run.store.pending := by
  unfold endScope
  split <;> rfl

theorem pending_beginScope (run : Run α ο γ) (guard : γ) (observer : ο) :
    (run.beginScope guard observer).store.pending = run.store.pending :=
  (pending_endScope _ guard).trans (pending_subscribe observer run.store)

end Run

variable [DecidableEq ο] [DecidableEq γ]

/-- An action puts a value of smaller rank behind the queue, empties the queue or leaves
it alone. -/
theorem WaitsBelow.perform {run : Run α ο γ} (waits : WaitsBelow rank value rest run.store.pending)
    {action : Action α ο γ} (smaller : ∀ later, action = .push later → rank later < rank value) :
    WaitsBelow rank value rest (run.perform action).store.pending := by
  cases action with
  | push later => exact waits.concat (smaller later rfl)
  | reset => exact ⟨[], [], List.nil_prefix, rfl, by simp⟩
  | subscribe observer =>
      rw [Run.perform, Run.store_record, Run.store_update, pending_subscribe]
      exact waits
  | scope guard observer =>
      rw [Run.perform, Run.pending_beginScope]
      exact waits
  | dropGuard guard =>
      rw [Run.perform, Run.pending_endScope]
      exact waits
  | _ => exact waits

theorem WaitsBelow.performAll {run : Run α ο γ} {actions : List (Action α ο γ)}
    (waits : WaitsBelow rank value rest run.store.pending)
    (smaller : ∀ later, .push later ∈ Action.carriedOut actions → rank later < rank value) :
    WaitsBelow rank value rest (run.performAll actions).1.store.pending := by
  induction actions generalizing run with
  | nil => exact waits
  | cons action actions ih =>
      by_cases failing : action = .fail
      · subst failing
        exact waits
      · rw [Run.performAll_cons_of_ne failing]
        rw [Action.carriedOut_cons_of_ne failing] at smaller
        apply ih
        · apply waits.perform
          rintro later rfl
          exact smaller later List.mem_cons_self
        · intro later member
          exact smaller later (List.mem_cons_of_mem action member)

variable {script : Script α ο γ}

theorem WaitsBelow.callAll {run : Run α ο γ}
    (waits : WaitsBelow rank value rest run.store.pending) (descends : Descends script rank)
    (observers : List ο) :
    WaitsBelow rank value rest (run.callAll script value observers).1.store.pending := by
  induction observers generalizing run with
  | nil => exact waits
  | cons observer observers ih =>
      have begun : WaitsBelow rank value rest
          (run.record (.called observer value)).store.pending := waits
      have told := begun.performAll (descends run.events observer value)
      rw [Run.callAll_cons]
      rcases performed : (run.record (.called observer value)).performAll
          (script (.called observer value :: run.events) observer value) with ⟨after, ending⟩
      rw [performed] at told
      cases ending with
      | finished => exact ih told
      | failed => exact told

/-- A pass takes the value that it tells off the queue, and whatever it adds has a smaller
rank. -/
theorem waitsBelow_pass (descends : Descends script rank) (value : α) (rest : List α)
    (run : Run α ο γ) :
    WaitsBelow rank value rest (run.pass script value rest).1.store.pending := by
  have started : WaitsBelow rank value rest
      ((run.update (startPass rest)).record
        (.passStarted value run.store.observers)).store.pending :=
    waitsBelow_self rank value rest
  have told := started.callAll descends run.store.observers
  unfold Run.pass
  rcases called : Run.callAll script value
      ((run.update (startPass rest)).record (.passStarted value run.store.observers))
      run.store.observers with ⟨after, ending⟩
  rw [called] at told
  cases ending with
  | finished =>
      simp only [called]
      exact told
  | failed =>
      simp only [called]
      exact told

/-! ## Coming to rest -/

namespace Run

/-- The queue is worked off in some number of passes, since the ranks that wait get smaller
with each of them. -/
theorem exists_drain (descends : Descends script rank) (run : Run α ο γ) :
    ∃ passes result, drain script passes run = some result := by
  have wellFounded : WellFounded (Multiset.IsDershowitzMannaLT : Multiset Nat → _ → Prop) :=
    Multiset.wellFounded_isDershowitzMannaLT
  induction ranks : weight rank run.store.pending using wellFounded.induction generalizing run with
  | _ ranks ih =>
      cases next : run.store.pending with
      | nil =>
          refine ⟨1, (run.update settle, .finished), ?_⟩
          simp only [drain, next]
      | cons value rest =>
          have smaller := (waitsBelow_pass descends value rest run).weight_lt
          rw [← next, ranks] at smaller
          rcases passed : run.pass script value rest with ⟨after, ending⟩
          rw [passed] at smaller
          cases ending with
          | failed =>
              refine ⟨1, (after.update abandon, .failed), ?_⟩
              simp only [drain, next, passed]
          | finished =>
              obtain ⟨passes, result, drained⟩ := ih _ smaller after rfl
              refine ⟨passes + 1, result, ?_⟩
              simp only [drain, next, passed]
              exact drained

/-- An action of the owner comes to an end, after which nothing is told any more. -/
theorem exists_step (descends : Descends script rank) {run : Run α ο γ}
    (still : run.store.dispatching = false) (action : Action α ο γ) :
    ∃ passes after ending, run.step script passes action = some (after, ending) ∧
      after.store.dispatching = false := by
  rcases action.push_or_quiet with ⟨value, rfl⟩ | quiet
  · obtain ⟨passes, ⟨after, ending⟩, drained⟩ := exists_drain descends (run.perform (.push value))
    refine ⟨passes, after, ending, ?_, (idle_of_drain drained).2⟩
    simp only [step, still, Bool.false_eq_true, if_false]
    exact drained
  · obtain ⟨ending, stepped⟩ := exists_step_of_ne_push quiet script run
    exact ⟨0, run.perform action, ending, stepped,
      (Beside.perform run action).dispatching.trans still⟩

/-- Actions of the owner, one after the other, come to an end. -/
theorem exists_steps (descends : Descends script rank) (actions : List (Action α ο γ))
    {run : Run α ο γ} (still : run.store.dispatching = false) :
    ∃ passes after, steps script passes actions run = some after := by
  induction actions generalizing run with
  | nil => exact ⟨0, run, rfl⟩
  | cons action actions ih =>
      obtain ⟨first, between, ending, stepped, stillBetween⟩ := exists_step descends still action
      obtain ⟨later, after, done⟩ := ih stillBetween
      refine ⟨max first later, after, ?_⟩
      simp only [steps, step_mono stepped (Nat.le_max_left first later), Option.bind_eq_bind,
        Option.bind_some]
      exact steps_mono done (Nat.le_max_right first later)

end Run

/-- Where all pushes of observers descend, a push into a store that tells nothing right
now comes to rest: there is a number of passes from which on its result is the same, and
then nothing waits and nothing is told.  So does any list of actions of the owner. -/
theorem push_comes_to_rest (descends : Descends script rank) {run : Run α ο γ}
    (still : run.store.dispatching = false) :
    (∀ value, ∃ passes after ending,
        (∀ more, passes ≤ more → run.step script more (.push value) = some (after, ending)) ∧
          after.store.pending = [] ∧ after.store.dispatching = false) ∧
      ∀ actions, ∃ passes after, Run.steps script passes actions run = some after := by
  refine ⟨fun value => ?_, fun actions => Run.exists_steps descends actions still⟩
  obtain ⟨passes, after, ending, stepped, stillAfter⟩ :=
    Run.exists_step descends still (.push value)
  refine ⟨passes, after, ending, fun more enough => Run.step_mono stepped enough, ?_, stillAfter⟩
  simp only [Run.step, still, Bool.false_eq_true, if_false] at stepped
  exact (Run.idle_of_drain stepped).1

/-- Observers that answer a value with smaller ones, two of them at a time, and change the
registrations meanwhile. -/
def cascade : Script Nat Nat Nat
  | _, 0, later + 1 => [.push later, .push later]
  | _, 1, later + 1 => [.scope 7 2, .push later]
  | _, 2, later + 1 => [.unsubscribe 1, .push (later / 2), .dropGuard 7]
  | _, 2, 0 => [.reset, .fail, .push 5]
  | _, _, _ => []

/-- A push into a store with two observers of the cascade, the second of which registers
the third one. -/
theorem push_into_cascade :
    Descends cascade id ∧ ∃ run : Run Nat Nat Nat,
      Run.steps cascade 0 [.subscribe 0, .subscribe 1] Run.empty = some run ∧
        run.store.dispatching = false ∧ ∃ passes after ending,
          (∀ more, passes ≤ more → run.step cascade more (.push 9) = some (after, ending)) ∧
            after.store.pending = [] ∧ after.store.dispatching = false := by
  have descends : Descends cascade id := by
    intro before observer value later member
    unfold cascade at member
    split at member <;> simp [Action.carriedOut] at member
    all_goals
      simp only [id_eq]
      omega
  exact ⟨descends, _, rfl, rfl, (push_comes_to_rest descends rfl).1 9⟩

end JobConsole.Store
