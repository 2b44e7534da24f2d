import JobConsole.Proofs.Store.Delivery
import JobConsole.Proofs.Store.Quiescence

/-!
# Bystanders

A bystander is an observer that only takes note of its calls.  Its owner may register it
and let it go at any time, under guards that are its own; nobody else mentions it.  A run
with a bystander is compared with the run without it: the same actions, less those that
concern the bystander, and the same observers, which do not see it.

`Accompanied` relates the two runs, and every function of the dispatch keeps it.  So the
answers to the owner's actions are the same, less what happened to the bystander
(`answers_beside`).  What is left out of the comparison is reading the number of
observers, which counts the bystander.
-/

namespace JobConsole.Store

variable {α ο γ : Type} [DecidableEq ο] [DecidableEq γ]

/-! ## A run without its bystander -/

/-- Whether an action has nothing to do with a bystander and its guards, and does not
count the observers. -/
def Action.spares (bystander : ο) (guards : List γ) : Action α ο γ → Bool
  | .subscribe observer => observer ≠ bystander
  | .unsubscribe observer => observer ≠ bystander
  | .scope guard observer => observer ≠ bystander ∧ guard ∉ guards
  | .dropGuard guard => guard ∉ guards
  | .readCount => false
  | .describe => false
  | .push _ => true
  | .reset => true
  | .readCurrent => true
  | .fail => true

/-- Whether an action registers a bystander or lets it go. -/
def Action.concerns (bystander : ο) (guards : List γ) : Action α ο γ → Bool
  | .subscribe observer => observer = bystander
  | .unsubscribe observer => observer = bystander
  | .scope guard observer => observer = bystander ∧ guard ∈ guards
  | .dropGuard guard => guard ∈ guards
  | _ => false

/-- What is left of an event when a bystander is not looked at. -/
def Event.without? (bystander : ο) : Event α ο γ → Option (Event α ο γ)
  | .subscribed observer =>
      if observer = bystander then none else some (.subscribed observer)
  | .unsubscribed observer =>
      if observer = bystander then none else some (.unsubscribed observer)
  | .scopeBegun guard observer =>
      if observer = bystander then none else some (.scopeBegun guard observer)
  | .scopeEnded guard observer =>
      if observer = bystander then none else some (.scopeEnded guard observer)
  | .called observer value =>
      if observer = bystander then none else some (.called observer value)
  | .passStarted value observers =>
      some (.passStarted value (observers.filter (· ≠ bystander)))
  | event => some event

/-- The events that are left when a bystander is not looked at. -/
def eventsWithout (bystander : ο) (events : List (Event α ο γ)) : List (Event α ο γ) :=
  events.filterMap (Event.without? bystander)

/-- The store without a registration of a bystander. -/
def without (bystander : ο) (store : Store α ο) : Store α ο :=
  { store with observers := store.observers.filter (· ≠ bystander) }

/-- The script of the same observers beside a bystander, which does nothing and is seen
by none of them. -/
def beside (bystander : ο) (script : Script α ο γ) : Script α ο γ :=
  fun events observer value =>
    if observer = bystander then []
    else script (eventsWithout bystander events) observer value

/-- A run is that of another one with a bystander, who has exactly the scopes of its
guards. -/
structure Accompanied (bystander : ο) (guards : List γ) (run bare : Run α ο γ) : Prop where
  store : bare.store = run.store.without bystander
  scopes : bare.scopes = run.scopes.filter (·.1 ∉ guards)
  events : bare.events = eventsWithout bystander run.events
  kept : ∀ scope ∈ run.scopes, scope.1 ∈ guards ↔ scope.2 = bystander

/-! ## Registrations -/

theorem without_subscribe {bystander observer : ο} (other : observer ≠ bystander)
    (store : Store α ο) :
    (store.subscribe observer).without bystander =
      (store.without bystander).subscribe observer := by
  unfold subscribe without
  by_cases registered : observer ∈ store.observers
  · have stays : observer ∈ store.observers.filter (· ≠ bystander) := by
      simp [registered, other]
    rw [if_pos registered, if_pos stays]
  · have absent : observer ∉ store.observers.filter (· ≠ bystander) := by
      simp [registered]
    rw [if_neg registered, if_neg absent]
    simp [other]

theorem without_subscribe_self (bystander : ο) (store : Store α ο) :
    (store.subscribe bystander).without bystander = store.without bystander := by
  unfold subscribe without
  by_cases registered : bystander ∈ store.observers
  · rw [if_pos registered]
  · rw [if_neg registered]
    simp [List.filter_append]

theorem without_unsubscribe (bystander observer : ο) (store : Store α ο) :
    (store.unsubscribe observer).without bystander =
      (store.without bystander).unsubscribe observer := by
  have commute : (store.observers.filter (· ≠ observer)).filter (· ≠ bystander) =
      (store.observers.filter (· ≠ bystander)).filter (· ≠ observer) := by
    rw [List.filter_filter, List.filter_filter]
    apply List.filter_congr
    exact fun other _ => Bool.and_comm _ _
  simp only [without, unsubscribe, commute]

theorem without_unsubscribe_self (bystander : ο) (store : Store α ο) :
    (store.unsubscribe bystander).without bystander = store.without bystander := by
  simp only [without, unsubscribe, List.filter_filter, Bool.and_self]

omit [DecidableEq ο] in
theorem lookup_filter_of_not_mem {guards : List γ} {guard : γ} (other : guard ∉ guards)
    (scopes : List (γ × ο)) :
    (scopes.filter (·.1 ∉ guards)).lookup guard = scopes.lookup guard := by
  induction scopes with
  | nil => rfl
  | cons scope scopes ih =>
      by_cases own : scope.1 ∈ guards
      · have apart : (guard == scope.1) = false := by
          apply beq_false_of_ne
          rintro rfl
          exact other own
        rw [List.filter_cons_of_neg (by simpa using own), ih, List.lookup_cons, apart]
      · rw [List.filter_cons_of_pos (by simpa using own), List.lookup_cons, List.lookup_cons, ih]

namespace Accompanied

variable {bystander : ο} {guards : List γ} {run bare : Run α ο γ}

theorem record (accompanied : Accompanied bystander guards run bare) (event seen : Event α ο γ)
    (isSeen : event.without? bystander = some seen) :
    Accompanied bystander guards (run.record event) (bare.record seen) := by
  constructor
  · exact accompanied.store
  · exact accompanied.scopes
  · rw [Run.events_record, Run.events_record, accompanied.events, eventsWithout, eventsWithout,
      List.filterMap_cons_some isSeen]
  · exact accompanied.kept

/-- An event of the bystander is recorded in one run only. -/
theorem recordUnseen (accompanied : Accompanied bystander guards run bare) (event : Event α ο γ)
    (unseen : event.without? bystander = none) :
    Accompanied bystander guards (run.record event) bare := by
  constructor
  · exact accompanied.store
  · exact accompanied.scopes
  · rw [Run.events_record, accompanied.events, eventsWithout, eventsWithout,
      List.filterMap_cons_none unseen]
  · exact accompanied.kept

theorem update (accompanied : Accompanied bystander guards run bare)
    (change other : Store α ο → Store α ο)
    (alike : (change run.store).without bystander = other (run.store.without bystander)) :
    Accompanied bystander guards (run.update change) (bare.update other) := by
  constructor
  · rw [Run.store_update, Run.store_update, accompanied.store, alike]
  · exact accompanied.scopes
  · exact accompanied.events
  · exact accompanied.kept

/-- A change of the registration of the bystander is not seen. -/
theorem updateUnseen (accompanied : Accompanied bystander guards run bare)
    (change : Store α ο → Store α ο)
    (unseen : (change run.store).without bystander = run.store.without bystander) :
    Accompanied bystander guards (run.update change) bare := by
  constructor
  · rw [Run.store_update, accompanied.store, unseen]
  · exact accompanied.scopes
  · exact accompanied.events
  · exact accompanied.kept

/-! ## Scopes -/

/-- The observer of a scope is the bystander exactly when the guard is its own. -/
theorem mem_guards_iff_of_lookup (accompanied : Accompanied bystander guards run bare) {guard : γ}
    {observer : ο} (found : run.scopes.lookup guard = some observer) :
    guard ∈ guards ↔ observer = bystander := by
  obtain ⟨before, after, isScopes, -⟩ := List.lookup_eq_some_iff.mp found
  apply accompanied.kept (guard, observer)
  rw [isScopes]
  exact List.mem_append_right before List.mem_cons_self

theorem endScope (accompanied : Accompanied bystander guards run bare) {guard : γ}
    (other : guard ∉ guards) :
    Accompanied bystander guards (run.endScope guard) (bare.endScope guard) := by
  have same : bare.scopes.lookup guard = run.scopes.lookup guard := by
    rw [accompanied.scopes]
    exact lookup_filter_of_not_mem other run.scopes
  unfold Run.endScope
  rw [same]
  cases found : run.scopes.lookup guard with
  | none => exact accompanied
  | some observer =>
      have apart : observer ≠ bystander := by
        intro isBystander
        exact other ((accompanied.mem_guards_iff_of_lookup found).mpr isBystander)
      constructor
      · simp only [accompanied.store, without_unsubscribe]
      · simp only [accompanied.scopes, List.filter_filter]
        apply List.filter_congr
        exact fun scope _ => Bool.and_comm _ _
      · exact (accompanied.record (.scopeEnded guard observer) _ (if_neg apart)).events
      · intro scope member
        exact accompanied.kept scope (List.mem_of_mem_filter member)

/-- The end of a scope of the bystander is not seen. -/
theorem endScopeUnseen (accompanied : Accompanied bystander guards run bare) {guard : γ}
    (own : guard ∈ guards) : Accompanied bystander guards (run.endScope guard) bare := by
  unfold Run.endScope
  cases found : run.scopes.lookup guard with
  | none => exact accompanied
  | some observer =>
      obtain rfl := (accompanied.mem_guards_iff_of_lookup found).mp own
      constructor
      · simp only [accompanied.store, without_unsubscribe_self]
      · rw [accompanied.scopes, List.filter_filter]
        apply List.filter_congr
        intro scope _
        by_cases isOwn : scope.1 ∈ guards
        · simp [isOwn]
        · have apart : scope.1 ≠ guard := by
            intro same
            exact isOwn (same ▸ own)
          simp [isOwn, apart]
      · exact (accompanied.recordUnseen (.scopeEnded guard observer) (if_pos rfl)).events
      · intro scope member
        exact accompanied.kept scope (List.mem_of_mem_filter member)

theorem subscribe (accompanied : Accompanied bystander guards run bare) {observer : ο}
    (other : observer ≠ bystander) :
    Accompanied bystander guards (run.update (Store.subscribe observer))
      (bare.update (Store.subscribe observer)) :=
  accompanied.update _ _ (without_subscribe other run.store)

theorem beginScope (accompanied : Accompanied bystander guards run bare) {guard : γ}
    {observer : ο} (otherGuard : guard ∉ guards) (other : observer ≠ bystander) :
    Accompanied bystander guards (run.beginScope guard observer)
      (bare.beginScope guard observer) := by
  have begun := (accompanied.subscribe other).record (.scopeBegun guard observer) _ (if_neg other)
  have ended := begun.endScope otherGuard
  constructor
  · exact ended.store
  · simp only [Run.beginScope]
    rw [List.filter_cons_of_pos (by simpa using otherGuard), ended.scopes]
  · exact ended.events
  · intro scope member
    rcases List.mem_cons.mp member with rfl | member
    · exact iff_of_false otherGuard other
    · exact ended.kept scope member

/-- The beginning of a scope of the bystander is not seen. -/
theorem beginScopeUnseen (accompanied : Accompanied bystander guards run bare) {guard : γ}
    (own : guard ∈ guards) :
    Accompanied bystander guards (run.beginScope guard bystander) bare := by
  have registered := accompanied.updateUnseen _ (without_subscribe_self bystander run.store)
  have begun := registered.recordUnseen (.scopeBegun guard bystander) (if_pos rfl)
  have ended := begun.endScopeUnseen own
  constructor
  · exact ended.store
  · simp only [Run.beginScope]
    rw [List.filter_cons_of_neg (by simpa using own), ended.scopes]
  · exact ended.events
  · intro scope member
    rcases List.mem_cons.mp member with rfl | member
    · exact iff_of_true own rfl
    · exact ended.kept scope member

/-! ## Actions -/

/-- An action that spares the bystander does the same in both runs. -/
theorem perform (accompanied : Accompanied bystander guards run bare) {action : Action α ο γ}
    (spares : action.spares bystander guards = true) :
    Accompanied bystander guards (run.perform action) (bare.perform action) := by
  cases action with
  | subscribe observer =>
      have other : observer ≠ bystander := by simpa [Action.spares] using spares
      exact (accompanied.subscribe other).record (.subscribed observer) _ (if_neg other)
  | unsubscribe observer =>
      have other : observer ≠ bystander := by simpa [Action.spares] using spares
      have gone := accompanied.update _ _ (without_unsubscribe bystander observer run.store)
      exact gone.record (.unsubscribed observer) _ (if_neg other)
  | push value =>
      have queued := accompanied.update (enqueue value) (enqueue value) rfl
      exact queued.record (.pushed value) _ rfl
  | scope guard observer =>
      have others : observer ≠ bystander ∧ guard ∉ guards := by
        simpa [Action.spares] using spares
      exact accompanied.beginScope others.2 others.1
  | dropGuard guard =>
      have other : guard ∉ guards := by simpa [Action.spares] using spares
      exact accompanied.endScope other
  | reset =>
      have empty := accompanied.update Store.reset Store.reset rfl
      exact empty.record .reset _ rfl
  | readCurrent =>
      have same : bare.store.current = run.store.current := by
        rw [accompanied.store]
        rfl
      simp only [Run.perform, same]
      exact accompanied.record (.readCurrent run.store.current) _ rfl
  | readCount => cases spares
  | describe => cases spares
  | fail => exact accompanied

/-- An action that concerns the bystander is not seen. -/
theorem performUnseen (accompanied : Accompanied bystander guards run bare)
    {action : Action α ο γ} (concerns : action.concerns bystander guards = true) :
    Accompanied bystander guards (run.perform action) bare := by
  cases action with
  | subscribe observer =>
      obtain rfl : observer = bystander := by simpa [Action.concerns] using concerns
      have registered := accompanied.updateUnseen _ (without_subscribe_self observer run.store)
      exact registered.recordUnseen (.subscribed observer) (if_pos rfl)
  | unsubscribe observer =>
      obtain rfl : observer = bystander := by simpa [Action.concerns] using concerns
      have gone := accompanied.updateUnseen _ (without_unsubscribe_self observer run.store)
      exact gone.recordUnseen (.unsubscribed observer) (if_pos rfl)
  | scope guard observer =>
      obtain ⟨rfl, own⟩ : observer = bystander ∧ guard ∈ guards := by
        simpa [Action.concerns] using concerns
      exact accompanied.beginScopeUnseen own
  | dropGuard guard =>
      have own : guard ∈ guards := by simpa [Action.concerns] using concerns
      exact accompanied.endScopeUnseen own
  | _ => cases concerns

theorem performAll (accompanied : Accompanied bystander guards run bare)
    {actions : List (Action α ο γ)}
    (spare : ∀ action ∈ actions, action.spares bystander guards = true) :
    Accompanied bystander guards (run.performAll actions).1 (bare.performAll actions).1 ∧
      (run.performAll actions).2 = (bare.performAll actions).2 := by
  induction actions generalizing run bare with
  | nil => exact ⟨accompanied, rfl⟩
  | cons action actions ih =>
      by_cases failing : action = .fail
      · subst failing
        exact ⟨accompanied, rfl⟩
      · rw [Run.performAll_cons_of_ne failing, Run.performAll_cons_of_ne failing]
        apply ih (accompanied.perform (spare action List.mem_cons_self))
        exact fun other member => spare other (List.mem_cons_of_mem action member)

end Accompanied

/-! ## Passes -/

/-- Observers never mention a bystander. -/
def Unaware (bystander : ο) (guards : List γ) (script : Script α ο γ) : Prop :=
  ∀ events observer value, ∀ action ∈ script events observer value,
    action.spares bystander guards = true

/-- Two runs have come to the same, less what happened to a bystander. -/
def AccompaniedEnds (bystander : ο) (guards : List γ) (first second : Run α ο γ × Run.Ending) :
    Prop :=
  Accompanied bystander guards first.1 second.1 ∧ first.2 = second.2

namespace Accompanied

variable {bystander : ο} {guards : List γ} {script : Script α ο γ}

/-- The same observers are called in both runs, and the bystander in one of them. -/
theorem callAll {run bare : Run α ο γ} (accompanied : Accompanied bystander guards run bare)
    (unaware : Unaware bystander guards script) (value : α) (observers : List ο) :
    AccompaniedEnds bystander guards (run.callAll (beside bystander script) value observers)
      (bare.callAll script value (observers.filter (· ≠ bystander))) := by
  induction observers generalizing run bare with
  | nil => exact ⟨accompanied, rfl⟩
  | cons observer observers ih =>
      rw [Run.callAll_cons]
      by_cases isBystander : observer = bystander
      · have still : beside bystander script (.called observer value :: run.events) observer value =
            [] := if_pos isBystander
        rw [still, List.filter_cons_of_neg (by simpa using isBystander)]
        exact ih (accompanied.recordUnseen (.called observer value) (if_pos isBystander))
      · have told := accompanied.record (.called observer value) _ (if_neg isBystander)
        have same : beside bystander script (.called observer value :: run.events) observer value =
            script (.called observer value :: bare.events) observer value := by
          have events := told.events
          rw [Run.events_record, Run.events_record] at events
          rw [beside, if_neg isBystander, events]
        have acted := told.performAll
          (unaware (.called observer value :: bare.events) observer value)
        rw [List.filter_cons_of_pos (by simpa using isBystander), Run.callAll_cons, same]
        generalize (run.record (.called observer value)).performAll
          (script (.called observer value :: bare.events) observer value) = first at acted ⊢
        generalize (bare.record (.called observer value)).performAll
          (script (.called observer value :: bare.events) observer value) = second at acted ⊢
        obtain ⟨after, ending⟩ := first
        obtain ⟨afterBare, endingBare⟩ := second
        obtain ⟨stillAccompanied, rfl⟩ := acted
        cases ending with
        | finished => exact ih stillAccompanied
        | failed => exact ⟨stillAccompanied, rfl⟩

theorem pass {run bare : Run α ο γ} (accompanied : Accompanied bystander guards run bare)
    (unaware : Unaware bystander guards script) (value : α) (rest : List α) :
    AccompaniedEnds bystander guards (run.pass (beside bystander script) value rest)
      (bare.pass script value rest) := by
  have observers : bare.store.observers = run.store.observers.filter (· ≠ bystander) := by
    rw [accompanied.store]
    rfl
  have started : Accompanied bystander guards
      ((run.update (startPass rest)).record (.passStarted value run.store.observers))
      ((bare.update (startPass rest)).record
        (.passStarted value (run.store.observers.filter (· ≠ bystander)))) :=
    (accompanied.update (startPass rest) (startPass rest) rfl).record _ _ rfl
  have called := started.callAll unaware value run.store.observers
  simp only [Run.pass, observers]
  generalize Run.callAll (beside bystander script) value
    ((run.update (startPass rest)).record (.passStarted value run.store.observers))
    run.store.observers = first at called ⊢
  generalize Run.callAll script value
    ((bare.update (startPass rest)).record
      (.passStarted value (run.store.observers.filter (· ≠ bystander))))
    (run.store.observers.filter (· ≠ bystander)) = second at called ⊢
  obtain ⟨after, ending⟩ := first
  obtain ⟨afterBare, endingBare⟩ := second
  obtain ⟨stillAccompanied, rfl⟩ := called
  cases ending with
  | finished => exact ⟨stillAccompanied.record .passEnded _ rfl, rfl⟩
  | failed => exact ⟨stillAccompanied.record .passCut _ rfl, rfl⟩

/-- The queues are worked off alike: both to an end, or both to none within the same
number of passes. -/
theorem drain {run bare : Run α ο γ} (accompanied : Accompanied bystander guards run bare)
    (unaware : Unaware bystander guards script) (passes : Nat) :
    Option.Rel (AccompaniedEnds bystander guards)
      (Run.drain (beside bystander script) passes run) (Run.drain script passes bare) := by
  induction passes generalizing run bare with
  | zero => exact .none
  | succ passes ih =>
      have queue : bare.store.pending = run.store.pending := by
        rw [accompanied.store]
        rfl
      simp only [Run.drain, queue]
      cases run.store.pending with
      | nil => exact .some ⟨accompanied.update settle settle rfl, rfl⟩
      | cons value rest =>
          have passed := accompanied.pass unaware value rest
          simp only
          generalize run.pass (beside bystander script) value rest = first at passed ⊢
          generalize bare.pass script value rest = second at passed ⊢
          obtain ⟨after, ending⟩ := first
          obtain ⟨afterBare, endingBare⟩ := second
          obtain ⟨stillAccompanied, rfl⟩ := passed
          cases ending with
          | finished => exact ih stillAccompanied
          | failed => exact .some ⟨stillAccompanied.update abandon abandon rfl, rfl⟩

theorem step {run bare : Run α ο γ} (accompanied : Accompanied bystander guards run bare)
    (unaware : Unaware bystander guards script) (passes : Nat) {action : Action α ο γ}
    (spares : action.spares bystander guards = true) :
    Option.Rel (AccompaniedEnds bystander guards)
      (run.step (beside bystander script) passes action) (bare.step script passes action) := by
  have performed := accompanied.perform spares
  cases action with
  | push value =>
      have dispatching : bare.store.dispatching = run.store.dispatching := by
        rw [accompanied.store]
        rfl
      simp only [Run.step, dispatching]
      split
      · exact .some ⟨performed, rfl⟩
      · exact performed.drain unaware passes
  | fail => exact .some ⟨accompanied, rfl⟩
  | _ => exact .some ⟨performed, rfl⟩

end Accompanied

/-! ## Answers -/

theorem Run.step_suffix {script : Script α ο γ} {passes : Nat} {action : Action α ο γ}
    {run after : Run α ο γ} {ending : Run.Ending}
    (stepped : run.step script passes action = some (after, ending)) :
    run.events <:+ after.events := by
  rw [← Run.forgotten_onto run, Run.step_onto] at stepped
  obtain ⟨⟨before, _⟩, -, same⟩ := Option.map_eq_some_iff.mp stepped
  cases same
  exact List.suffix_append _ _

/-- What the owner of a store sees of an action: what happened in it, the first event
first, whether it was broken off by a failure, and the snapshot behind it. -/
structure Answer (α ο γ : Type) where
  events : List (Event α ο γ)
  ending : Run.Ending
  current : Snapshot α
deriving DecidableEq

/-- An answer, when a bystander is not looked at. -/
def Answer.without (bystander : ο) (answer : Answer α ο γ) : Answer α ο γ :=
  { answer with events := eventsWithout bystander answer.events }

/-- The actions of an owner with the answers to them. -/
def Run.answers (script : Script α ο γ) (passes : Nat) :
    List (Action α ο γ) → Run α ο γ → Option (List (Action α ο γ × Answer α ο γ))
  | [], _ => some []
  | action :: rest, run => do
      let (after, ending) ← run.step script passes action
      let others ← after.answers script passes rest
      some ((action, ⟨run.eventsSince after, ending, after.store.current⟩) :: others)

/-- The answers to the actions that spare a bystander, when it is not looked at. -/
def answersWithout (bystander : ο) (guards : List γ)
    (answers : List (Action α ο γ × Answer α ο γ)) : List (Action α ο γ × Answer α ο γ) :=
  (answers.filter (·.1.spares bystander guards)).map (Prod.map id (Answer.without bystander))

theorem answersWithout_cons_of_spares {bystander : ο} {guards : List γ} {action : Action α ο γ}
    (spares : action.spares bystander guards = true) (answer : Answer α ο γ)
    (rest : List (Action α ο γ × Answer α ο γ)) :
    answersWithout bystander guards ((action, answer) :: rest) =
      (action, answer.without bystander) :: answersWithout bystander guards rest := by
  simp only [answersWithout, List.filter_cons, spares, if_true, List.map_cons]
  rfl

theorem answersWithout_cons_of_not {bystander : ο} {guards : List γ} {action : Action α ο γ}
    (noSpares : action.spares bystander guards = false) (answer : Answer α ο γ)
    (rest : List (Action α ο γ × Answer α ο γ)) :
    answersWithout bystander guards ((action, answer) :: rest) =
      answersWithout bystander guards rest := by
  simp only [answersWithout, List.filter_cons, noSpares, Bool.false_eq_true, if_false]

/-- An action that concerns a bystander does not spare it, and is carried out at once. -/
theorem Action.of_concerns {bystander : ο} {guards : List γ} {action : Action α ο γ}
    (concerns : action.concerns bystander guards = true) :
    action.spares bystander guards = false ∧
      ∀ (script : Script α ο γ) (passes : Nat) (run : Run α ο γ),
        run.step script passes action = some (run.perform action, .finished) := by
  cases action with
  | subscribe observer =>
      exact ⟨by simpa [spares, Action.concerns] using concerns, fun _ _ _ => rfl⟩
  | unsubscribe observer =>
      exact ⟨by simpa [spares, Action.concerns] using concerns, fun _ _ _ => rfl⟩
  | scope guard observer =>
      obtain ⟨rfl, own⟩ : observer = bystander ∧ guard ∈ guards := by
        simpa [Action.concerns] using concerns
      exact ⟨by simp [spares], fun _ _ _ => rfl⟩
  | dropGuard guard =>
      exact ⟨by simpa [spares, Action.concerns] using concerns, fun _ _ _ => rfl⟩
  | _ => cases concerns

namespace Accompanied

variable {bystander : ο} {guards : List γ} {script : Script α ο γ}

/-- Between accompanied states the same has happened, less what happened to the
bystander. -/
theorem eventsSince {run bare after afterBare : Run α ο γ}
    (before : Accompanied bystander guards run bare)
    (behind : Accompanied bystander guards after afterBare) (suffix : run.events <:+ after.events) :
    Run.eventsSince bare afterBare = eventsWithout bystander (Run.eventsSince run after) := by
  obtain ⟨added, more⟩ := suffix
  have moreBare : afterBare.events = eventsWithout bystander added ++ bare.events := by
    rw [behind.events, ← more, eventsWithout, List.filterMap_append, before.events]
    rfl
  rw [Run.eventsSince_of_append more.symm, Run.eventsSince_of_append moreBare, eventsWithout,
    eventsWithout, List.filterMap_reverse]

/-- The answer to an action is the same in both runs, when the bystander is not looked
at. -/
theorem answer {run bare after afterBare : Run α ο γ}
    (before : Accompanied bystander guards run bare)
    (behind : Accompanied bystander guards after afterBare) (suffix : run.events <:+ after.events)
    (ending : Run.Ending) :
    (⟨Run.eventsSince bare afterBare, ending, afterBare.store.current⟩ : Answer α ο γ) =
      Answer.without bystander ⟨Run.eventsSince run after, ending, after.store.current⟩ := by
  have current : afterBare.store.current = after.store.current := by
    rw [behind.store]
    rfl
  rw [before.eventsSince behind suffix, current]
  rfl

theorem answers {run bare : Run α ο γ} (accompanied : Accompanied bystander guards run bare)
    (unaware : Unaware bystander guards script) (passes : Nat) {actions : List (Action α ο γ)}
    (each : ∀ action ∈ actions,
      action.spares bystander guards = true ∨ action.concerns bystander guards = true) :
    (run.answers (beside bystander script) passes actions).map (answersWithout bystander guards) =
      bare.answers script passes (actions.filter (·.spares bystander guards)) := by
  induction actions generalizing run bare with
  | nil => rfl
  | cons action actions ih =>
      have others := fun other member => each other (List.mem_cons_of_mem action member)
      rcases each action List.mem_cons_self with spares | concerns
      · have stepped := accompanied.step unaware passes spares
        rw [List.filter_cons_of_pos spares]
        simp only [Run.answers, Option.bind_eq_bind]
        generalize isFirst : run.step (beside bystander script) passes action = first at stepped ⊢
        generalize bare.step script passes action = second at stepped ⊢
        cases stepped with
        | none => rfl
        | some ends =>
            rename_i before behind
            obtain ⟨after, ending⟩ := before
            obtain ⟨afterBare, endingBare⟩ := behind
            obtain ⟨stillAccompanied, rfl⟩ := ends
            have same := accompanied.answer stillAccompanied (Run.step_suffix isFirst) ending
            simp only [Option.bind_some]
            rw [← ih stillAccompanied others, same]
            cases after.answers (beside bystander script) passes actions with
            | none => rfl
            | some rest =>
                simp only [Option.bind_some, Option.map_some, answersWithout_cons_of_spares spares]
      · obtain ⟨noSpares, stepped⟩ := Action.of_concerns concerns
        rw [List.filter_cons_of_neg (by simp [noSpares]),
          ← ih (accompanied.performUnseen concerns) others]
        simp only [Run.answers, Option.bind_eq_bind, stepped, Option.bind_some]
        cases (run.perform action).answers (beside bystander script) passes actions with
        | none => rfl
        | some rest =>
            simp only [Option.bind_some, Option.map_some, answersWithout_cons_of_not noSpares]

/-- Nothing is seen of an action that concerns the bystander. -/
theorem eventsSince_performUnseen {run bare : Run α ο γ}
    (accompanied : Accompanied bystander guards run bare) {action : Action α ο γ}
    (concerns : action.concerns bystander guards = true) :
    eventsWithout bystander (Run.eventsSince run (run.perform action)) = [] := by
  have stepped := (Action.of_concerns concerns).2 Run.passive 0 run
  rw [← accompanied.eventsSince (accompanied.performUnseen concerns) (Run.step_suffix stepped)]
  exact Run.eventsSince_of_append (List.nil_append bare.events).symm

/-- The answers to the actions that concern the bystander tell of nobody else. -/
theorem silent {run bare : Run α ο γ} (accompanied : Accompanied bystander guards run bare)
    (unaware : Unaware bystander guards script) (passes : Nat) {actions : List (Action α ο γ)}
    (each : ∀ action ∈ actions,
      action.spares bystander guards = true ∨ action.concerns bystander guards = true)
    {answers : List (Action α ο γ × Answer α ο γ)}
    (answered : run.answers (beside bystander script) passes actions = some answers) :
    ∀ entry ∈ answers, entry.1.concerns bystander guards = true →
      eventsWithout bystander entry.2.events = [] ∧ entry.2.ending = .finished := by
  induction actions generalizing run bare answers with
  | nil =>
      cases answered
      exact fun entry member => absurd member List.not_mem_nil
  | cons action actions ih =>
      have others := fun other member => each other (List.mem_cons_of_mem action member)
      simp only [Run.answers, Option.bind_eq_bind, Option.bind_eq_some_iff] at answered
      obtain ⟨⟨after, ending⟩, isFirst, rest, isRest, same⟩ := answered
      cases same
      rcases each action List.mem_cons_self with spares | concerns
      · have stepped := accompanied.step unaware passes spares
        rw [isFirst] at stepped
        generalize bare.step script passes action = second at stepped
        cases stepped with
        | some ends =>
            intro entry member concerns
            rcases List.mem_cons.mp member with rfl | member
            · have noSpares := (Action.of_concerns concerns).1
              exact absurd (noSpares.symm.trans spares) Bool.false_ne_true
            · exact ih ends.1 others isRest entry member concerns
      · have stepped := (Action.of_concerns concerns).2 (beside bystander script) passes run
        cases isFirst.symm.trans stepped
        intro entry member isConcerned
        rcases List.mem_cons.mp member with rfl | member
        · exact ⟨accompanied.eventsSince_performUnseen concerns, rfl⟩
        · exact ih (accompanied.performUnseen concerns) others isRest entry member isConcerned

end Accompanied

theorem accompanied_empty (bystander : ο) (guards : List γ) :
    Accompanied bystander guards (Run.empty : Run α ο γ) Run.empty :=
  ⟨rfl, rfl, rfl, fun _ member => absurd member List.not_mem_nil⟩

/-- A bystander that its owner registers and lets go at will does not disturb the others.
The answers to all other actions are those of the run without it, as far as they do not
tell of the bystander: what happened, whether it was broken off by a failure, and the
snapshot behind it; and one run goes on for ever where the other does. -/
theorem answers_beside (bystander : ο) (guards : List γ) {script : Script α ο γ}
    (unaware : Unaware bystander guards script) (passes : Nat) {actions : List (Action α ο γ)}
    (each : ∀ action ∈ actions,
      action.spares bystander guards = true ∨ action.concerns bystander guards = true) :
    (Run.empty.answers (beside bystander script) passes actions).map
        (answersWithout bystander guards) =
      Run.empty.answers script passes (actions.filter (·.spares bystander guards)) ∧
    ∀ answers, Run.empty.answers (beside bystander script) passes actions = some answers →
      ∀ entry ∈ answers, entry.1.concerns bystander guards = true →
        eventsWithout bystander entry.2.events = [] ∧ entry.2.ending = .finished := by
  have alone := accompanied_empty (α := α) bystander guards
  exact ⟨alone.answers unaware passes each, fun _ => alone.silent unaware passes each⟩

/-- Observer `0` pushes `2` and lets observer `1` in, which resets the store and fails. -/
def quarrel : Script Nat Nat Nat := fun _ observer value =>
  if observer = 0 ∧ value = 1 then [.push 2, .scope 5 1, .readCurrent]
  else if observer = 1 ∧ value = 2 then [.reset, .push 4, .fail]
  else []

/-- Observer `9` stands between the others, and is told what they are told. -/
theorem answers_beside_quarrel :
    Unaware 9 [7] quarrel ∧
      (Run.empty.answers (beside 9 quarrel) 3
          [.scope 7 9, .subscribe 0, .push 1, .dropGuard 7, .subscribe 9, .push 3]).map
          (answersWithout 9 [7]) =
        Run.empty.answers quarrel 3 [.subscribe 0, .push 1, .push 3] := by
  have unaware : Unaware 9 [7] quarrel := by
    intro events observer value action member
    unfold quarrel at member
    split at member
    · revert action
      decide
    · split at member
      · revert action
        decide
      · exact absurd member List.not_mem_nil
  exact ⟨unaware, (answers_beside 9 [7] unaware 3 (by decide)).1⟩

end JobConsole.Store
