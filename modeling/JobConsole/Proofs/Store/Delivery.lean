import JobConsole.Proofs.Store.Agreement

/-!
# Delivery

Pushes are told first in, first out.  Whatever the observers do while they are
called, a pass tells the observers that were registered when it started, each of
them once; passes follow each other in the order of the push calls; and a push
is left without a pass only when the store has given it up.

The invariant `Orderly` is kept by every step from one moment to the next.
-/

namespace JobConsole.Store

open History

variable {α ο γ : Type} [DecidableEq ο]

/-- All passes of a history are over. -/
def Over (events : List (Event α ο γ)) : Prop :=
  ∀ pass ∈ passes events, pass.ending ≠ none

/-- What a stage says of the run that stands there.  In a pass, the calls made so
far and the ones still to be made are those that are due. -/
def Fits (run : Run α ο γ) : Stage α ο γ → Prop
  | .rest => run.store.pending = [] ∧ run.store.dispatching = false ∧ Over run.events
  | .between => Over run.events
  | .telling value observers _ =>
      ∃ pass earlier, passes run.events = pass :: earlier ∧ pass.ending = none ∧
        pass.value = value ∧ pass.calls ++ observers.map (·, value) = pass.due ∧
        ∀ other ∈ earlier, other.ending ≠ none

/-- A pass tells the value that stands under its number among those that were
pushed, to observers that are due, and to all of them unless it is cut or still
going on. -/
structure Faithful (values : List α) (pass : Pass α ο) : Prop where
  told : ∃ number, pass.number = some number ∧ values[number]? = some pass.value
  started : pass.calls <+: pass.due
  finished : pass.ending = some .finished → pass.calls = pass.due

/-- Every call belongs to a pass, every pass is faithful, and the run stands where
its stage says. -/
structure Orderly (run : Run α ο γ) (stage : Stage α ο γ) : Prop where
  calls : Run.callsOf run.events = (passes run.events).flatMap fun pass => pass.calls.reverse
  faithful : ∀ pass ∈ passes run.events, Faithful (pushed run.events) pass
  fits : Fits run stage

/-! ## Steps -/

omit [DecidableEq ο] in
theorem Faithful.mono {values more : List α} {pass : Pass α ο}
    (faithful : Faithful values pass) (longer : values <+: more) : Faithful more pass := by
  obtain ⟨number, isNumber, made⟩ := faithful.told
  refine ⟨⟨number, isNumber, ?_⟩, faithful.started, faithful.finished⟩
  obtain ⟨bound, -⟩ := List.getElem?_eq_some_iff.mp made
  obtain ⟨later, same⟩ := longer
  rw [← same, List.getElem?_append_left bound]
  exact made

variable [DecidableEq γ]

/-- An action that is no push leaves an empty queue empty. -/
theorem pending_perform_of_ne_push {run : Run α ο γ} {action : Action α ο γ}
    (quiet : ∀ value, action ≠ .push value) (idle : run.store.pending = []) :
    (run.perform action).store.pending = [] := by
  have ended (run : Run α ο γ) (guard : γ) (idle : run.store.pending = []) :
      (run.endScope guard).store.pending = [] := by
    unfold Run.endScope
    split
    · exact idle
    · exact idle
  cases action with
  | push value => exact absurd rfl (quiet value)
  | subscribe observer => exact (pending_subscribe observer run.store).trans idle
  | scope guard observer =>
      exact ended _ guard ((pending_subscribe observer run.store).trans idle)
  | dropGuard guard => exact ended run guard idle
  | reset => rfl
  | _ => exact idle

/-- An action keeps the passes faithful. -/
theorem Orderly.perform {run : Run α ο γ} {stage next : Stage α ο γ}
    (orderly : Orderly run stage) (action : Action α ο γ)
    (fits : Fits (run.perform action) next) : Orderly (run.perform action) next := by
  have beside := Beside.perform run action
  refine ⟨?_, ?_, fits⟩
  · rw [beside.calls, beside.passes]
    exact orderly.calls
  · rw [beside.passes]
    intro pass member
    exact (orderly.faithful pass member).mono beside.pushed

theorem Orderly.owner {run : Run α ο γ} (orderly : Orderly run .rest)
    (action : Action α ο γ) :
    Orderly (run.perform action) (.behind action run.store) := by
  obtain ⟨idle, still, closed⟩ := orderly.fits
  have beside := Beside.perform run action
  have stillOver : Over (run.perform action).events := by
    unfold Over
    rw [beside.passes]
    exact closed
  apply orderly.perform action
  rcases action.push_or_quiet with ⟨value, rfl⟩ | quiet
  · rw [Stage.behind_push still]
    exact stillOver
  · rw [Stage.behind_eq_rest quiet]
    exact ⟨pending_perform_of_ne_push quiet idle, beside.dispatching.trans still, stillOver⟩

omit [DecidableEq γ] in
/-- A pass starts with all its calls ahead of it. -/
theorem Orderly.start {run : Run α ο γ} {value : α} {rest : List α}
    (orderly : Orderly run .between) (agrees : Agrees run)
    (next : run.store.pending = value :: rest) :
    Orderly ((run.update (startPass rest)).record (.passStarted value run.store.observers))
      (.telling value run.store.observers []) := by
  have queue := agrees.pending
  rw [next] at queue
  cases waits : waiting run.events with
  | nil =>
      rw [waits] at queue
      cases queue
  | cons first others =>
      rw [waits, List.map_cons, List.cons.injEq] at queue
      have made := pushed_of_mem_waiting
        (waits ▸ List.mem_cons_self : (first.1, first.2) ∈ waiting run.events)
      refine ⟨orderly.calls, ?_, ?_⟩
      · intro pass member
        rcases List.mem_cons.mp member with rfl | member
        · refine ⟨⟨first.1, ?_, ?_⟩, List.nil_prefix, fun ended => (nomatch ended)⟩
          · simp only [Run.events_update, waits, List.head?_cons, Option.map_some]
          · exact queue.1 ▸ made
        · exact orderly.faithful pass member
      · refine ⟨_, passes run.events, rfl, rfl, rfl, ?_, orderly.fits⟩
        simp only [List.nil_append, Pass.due, agrees.observers]
        rfl

omit [DecidableEq γ] in
/-- A call is one of those that are due. -/
theorem Orderly.call {run : Run α ο γ} {value : α} {observer : ο} {rest : List ο}
    {actions : List (Action α ο γ)}
    (orderly : Orderly run (.telling value (observer :: rest) [])) :
    Orderly (run.record (.called observer value)) (.telling value rest actions) := by
  obtain ⟨pass, earlier, current, going, rfl, ahead, closed⟩ := orderly.fits
  have now : passes (run.record (.called observer pass.value)).events =
      pass.tell observer pass.value :: earlier := by
    rw [Run.events_record, passes, current]
    rfl
  have due : (pass.tell observer pass.value).calls ++ rest.map (·, pass.value) = pass.due := by
    rw [← ahead]
    simp [Pass.tell]
  have faithful := orderly.faithful
  have calls := orderly.calls
  rw [current] at faithful calls
  constructor
  · rw [now]
    simp only [Run.events_record, Run.callsOf, List.filterMap_cons, List.flatMap_cons, Pass.tell,
      List.reverse_append, List.reverse_cons, List.reverse_nil, List.nil_append,
      List.cons_append] at calls ⊢
    rw [calls]
  · rw [now]
    intro other member
    rcases List.mem_cons.mp member with rfl | member
    · have before := faithful pass List.mem_cons_self
      exact ⟨before.told, ⟨_, due⟩, fun ended => absurd (going.symm.trans ended) (by simp)⟩
    · exact faithful other (List.mem_cons_of_mem _ member)
  · exact ⟨_, earlier, now, going, rfl, due, closed⟩

omit [DecidableEq γ] in
/-- The pass that goes on ends, and all passes are over. -/
theorem Orderly.close {run : Run α ο γ} {value : α} {observers : List ο}
    {actions : List (Action α ο γ)} (orderly : Orderly run (.telling value observers actions))
    (event : Event α ο γ) (ending : Run.Ending)
    (ends : passes (event :: run.events) = (passes run.events).modifyHead (Pass.close ending))
    (noCall : Run.callsOf (event :: run.events) = Run.callsOf run.events)
    (noPush : pushed (event :: run.events) = pushed run.events)
    (all : ending = .finished → observers = []) :
    Orderly (run.record event) .between := by
  obtain ⟨pass, earlier, current, going, rfl, ahead, closed⟩ := orderly.fits
  have now : passes (run.record event).events = pass.close ending :: earlier := by
    rw [Run.events_record, ends, current]
    rfl
  have faithful := orderly.faithful
  have calls := orderly.calls
  rw [current] at faithful calls
  refine ⟨?_, ?_, ?_⟩
  · rw [now, Run.events_record, noCall]
    exact calls
  · rw [now, Run.events_record, noPush]
    intro other member
    rcases List.mem_cons.mp member with rfl | member
    · have before := faithful pass List.mem_cons_self
      refine ⟨before.told, before.started, fun ended => ?_⟩
      rw [all (Option.some.inj ended), List.map_nil, List.append_nil] at ahead
      exact ahead
    · exact faithful other (List.mem_cons_of_mem _ member)
  · intro other member
    rw [now] at member
    rcases List.mem_cons.mp member with rfl | member
    · exact Option.some_ne_none _
    · exact closed other member

/-- Every moment is orderly. -/
theorem orderly_of_moment {script : Script α ο γ} {run : Run α ο γ} {stage : Stage α ο γ}
    (moment : Moment script run stage) : Orderly run stage := by
  induction moment with
  | unused =>
      exact ⟨rfl, fun pass member => absurd member List.not_mem_nil,
        rfl, rfl, fun pass member => absurd member List.not_mem_nil⟩
  | owner action here ih => exact ih.owner action
  | settle here idle ih => exact ⟨ih.calls, ih.faithful, idle, rfl, ih.fits⟩
  | start here next ih => exact ih.start (agrees_of_moment here) next
  | call here ih => exact ih.call
  | act here going ih =>
      apply ih.perform
      obtain ⟨pass, earlier, current, rest⟩ := ih.fits
      exact ⟨pass, earlier, (Beside.perform _ _).passes.trans current, rest⟩
  | cut here ih =>
      have closed := ih.close .passCut .failed rfl rfl rfl (fun finished => nomatch finished)
      exact ⟨closed.calls, closed.faithful, rfl, rfl, closed.fits⟩
  | finish here ih => exact ih.close .passEnded .finished rfl rfl rfl (fun _ => rfl)

/-! ## Whole histories -/

/-- First in, first out: a pass tells a value that was pushed, the passes start in
the order of the push calls with no push told twice, and a pass is over before
the next one starts. -/
structure InOrder (events : List (Event α ο γ)) : Prop where
  told : ∀ pass ∈ passes events,
    ∃ number, pass.number = some number ∧ (pushed events)[number]? = some pass.value
  ordered : (passes events).Pairwise fun later earlier =>
    ∀ first second, earlier.number = some first → later.number = some second → first < second
  apart : ∀ pass ∈ (passes events).tail, pass.ending ≠ none

/-- Every call belongs to a pass.  A pass calls the observers that were registered
when it started, each once, with the value of its push and in the order of
registration: all of them, unless it is cut or still going on. -/
structure ToldOnce (events : List (Event α ο γ)) : Prop where
  calls : Run.callsOf events.reverse = (passes events).reverse.flatMap Pass.calls
  nodup : ∀ pass ∈ passes events, pass.observers.Nodup
  started : ∀ pass ∈ passes events, pass.calls <+: pass.due
  finished : ∀ pass ∈ passes events, pass.ending = some .finished → pass.calls = pass.due

/-- All passes are over, and a push without a pass was given up while it
waited. -/
structure Accounted (events : List (Event α ο γ)) : Prop where
  closed : Over events
  pushes : ∀ number < (pushed events).length, some number ∈ numbers events ∨ GivenUp number events

/-- The values that an observer was told, in their order. -/
def toldTo (observer : ο) (events : List (Event α ο γ)) : List α :=
  ((Run.callsOf events.reverse).filter (·.1 == observer)).map Prod.snd

/-- Every push has its pass, and an observer that was registered for all of them was
told what was pushed, each value once and in its order. -/
structure Undisturbed (events : List (Event α ο γ)) : Prop where
  numbers : (numbers events).reverse = (List.range (pushed events).length).map some
  finished : ∀ pass ∈ passes events, pass.ending = some .finished
  told : ∀ observer, (∀ pass ∈ passes events, observer ∈ pass.observers) →
    toldTo observer events = pushed events

omit [DecidableEq γ]

theorem Orderly.inOrder {run : Run α ο γ} {stage : Stage α ο γ} (orderly : Orderly run stage) :
    InOrder run.events := by
  refine ⟨fun pass member => (orderly.faithful pass member).told,
    List.pairwise_map.mp (pairwise_numbers run.events), ?_⟩
  have fits := orderly.fits
  cases stage with
  | rest => exact fun pass member => fits.2.2 pass (List.mem_of_mem_tail member)
  | between => exact fun pass member => fits pass (List.mem_of_mem_tail member)
  | telling value observers actions =>
      obtain ⟨pass, earlier, current, -, -, -, closed⟩ := fits
      rw [current]
      exact closed

theorem Orderly.toldOnce {run : Run α ο γ} {stage : Stage α ο γ} (orderly : Orderly run stage) :
    ToldOnce run.events := by
  refine ⟨?_, ?_, fun pass member => (orderly.faithful pass member).started,
    fun pass member => (orderly.faithful pass member).finished⟩
  · rw [Run.callsOf, List.filterMap_reverse]
    change (Run.callsOf run.events).reverse = _
    rw [orderly.calls, List.reverse_flatMap]
    simp only [Function.comp_def, List.reverse_reverse]
  · intro pass member
    obtain ⟨after, observers, before, -, -, areRegistered⟩ := started_of_mem_passes member
    rw [areRegistered]
    exact nodup_registered before

theorem Orderly.waiting_eq_nil {run : Run α ο γ} (orderly : Orderly run .rest)
    (agrees : Agrees run) : waiting run.events = [] := by
  have queue := agrees.pending
  rw [orderly.fits.1] at queue
  exact List.map_eq_nil_iff.mp queue.symm

theorem Orderly.accounted {run : Run α ο γ} (orderly : Orderly run .rest) (agrees : Agrees run) :
    Accounted run.events := by
  refine ⟨orderly.fits.2.2, fun number made => ?_⟩
  rcases waits_or_told_or_givenUp made with waits | accounted
  · rw [orderly.waiting_eq_nil agrees] at waits
    exact absurd waits List.not_mem_nil
  · exact accounted

/-- Without an event that gives up what waits, the pushes have had their passes,
from the first one on, up to those that wait. -/
theorem numbers_append_waiting {events : List (Event α ο γ)}
    (kept : ∀ event ∈ events, ¬ GivesUp event)
    (numbered : ∀ number ∈ numbers events, number ≠ none) :
    (numbers events).reverse ++ (waiting events).map (fun waits => some waits.1) =
      (List.range (pushed events).length).map some := by
  induction events with
  | nil => rfl
  | cons event past ih =>
      have keptBefore := fun earlier member => kept earlier (List.mem_cons_of_mem event member)
      rcases event_cases event past with ⟨last, rfl⟩ | ⟨value, observers, rfl⟩ |
        ⟨samePushed, sameNumbers, sameWaiting | ⟨-, givesUp⟩⟩
      · have before := ih keptBefore numbered
        simp only [waiting, pushed, List.map_append, List.map_cons, List.map_nil,
          List.length_append, List.length_singleton, List.range_succ, ← before, List.append_assoc]
        rfl
      · have before := ih keptBefore fun number member =>
          numbered number (List.mem_cons_of_mem _ member)
        have first := numbered _ List.mem_cons_self
        simp only [numbers, passes, pushed, waiting, List.map_cons, List.reverse_cons] at first ⊢
        cases queue : waiting past with
        | nil =>
            rw [queue] at first
            exact absurd rfl first
        | cons waits rest =>
            rw [← before, queue]
            simp [numbers]
      · rw [samePushed, sameWaiting, sameNumbers]
        rw [sameNumbers] at numbered
        exact ih keptBefore numbered
      · exact absurd givesUp (kept event List.mem_cons_self)

/-- When every push has its pass, the passes tell what was pushed. -/
theorem InOrder.values_eq_pushed {events : List (Event α ο γ)} (inOrder : InOrder events)
    (all : (numbers events).reverse = (List.range (pushed events).length).map some) :
    (passes events).reverse.map Pass.value = pushed events := by
  have looked : ∀ pass ∈ (passes events).reverse,
      some pass.value = pass.number.bind fun number => (pushed events)[number]? := by
    intro pass member
    obtain ⟨number, isNumber, isValue⟩ := inOrder.told pass (List.mem_reverse.mp member)
    rw [isNumber, Option.bind_some, isValue]
  apply List.map_injective_iff.mpr (fun _ _ => Option.some.inj)
  calc ((passes events).reverse.map Pass.value).map some
      = (passes events).reverse.map fun pass =>
          pass.number.bind fun number => (pushed events)[number]? := by
        rw [List.map_map]
        exact List.map_congr_left looked
    _ = (numbers events).reverse.map fun number =>
          number.bind fun number => (pushed events)[number]? := by
        rw [numbers, ← List.map_reverse, List.map_map]
        rfl
    _ = (List.range (pushed events).length).map fun number => (pushed events)[number]? := by
        rw [all, List.map_map]
        rfl
    _ = (pushed events).map some := by
        apply List.ext_getElem
        · simp
        · intro number first second
          simp

/-- An observer that is due once is told once. -/
theorem filter_due {pass : Pass α ο} {observer : ο}
    (nodup : pass.observers.Nodup) (member : observer ∈ pass.observers) :
    pass.due.filter (·.1 == observer) = [(observer, pass.value)] := by
  rw [Pass.due, List.filter_map]
  change (pass.observers.filter (· == observer)).map _ = _
  rw [List.filter_beq, List.count_eq_one_of_mem nodup member]
  rfl

theorem Orderly.undisturbed {run : Run α ο γ} (orderly : Orderly run .rest)
    (agrees : Agrees run) (kept : ∀ event ∈ run.events, ¬ GivesUp event) :
    Undisturbed run.events := by
  have inOrder := orderly.inOrder
  have toldOnce := orderly.toldOnce
  have finished : ∀ pass ∈ passes run.events, pass.ending = some .finished := by
    intro pass member
    cases isEnding : pass.ending with
    | none => exact absurd isEnding (orderly.fits.2.2 pass member)
    | some ending =>
        cases ending with
        | finished => rfl
        | failed => exact absurd (.inr rfl) (kept _ (passCut_mem_of_failed member isEnding))
  have all : (numbers run.events).reverse = (List.range (pushed run.events).length).map some := by
    have reckoned := numbers_append_waiting kept (by
      intro number member
      obtain ⟨pass, isPass, rfl⟩ := List.mem_map.mp member
      obtain ⟨number, isNumber, -⟩ := inOrder.told pass isPass
      rw [isNumber]
      exact Option.some_ne_none number)
    rw [orderly.waiting_eq_nil agrees, List.map_nil, List.append_nil] at reckoned
    exact reckoned
  refine ⟨all, finished, fun observer present => ?_⟩
  have single : ∀ pass ∈ (passes run.events).reverse,
      pass.calls.filter (·.1 == observer) = [(observer, pass.value)] := by
    intro pass member
    have member := List.mem_reverse.mp member
    rw [toldOnce.finished pass member (finished pass member)]
    exact filter_due (toldOnce.nodup pass member) (present pass member)
  rw [toldTo, toldOnce.calls, List.filter_flatMap, List.map_flatMap,
    ← inOrder.values_eq_pushed all, List.map_eq_flatMap]
  apply List.flatMap_congr
  intro pass member
  rw [single pass member]
  rfl

/-- Whatever observers do, at every moment of every run the passes follow the push
calls, one at a time and none twice, and tell the observers that were registered
when they started, each once.  At rest every push has had its pass unless it was
given up; where nothing was given up, everything that was pushed was told. -/
theorem delivery_in_order_once [DecidableEq γ] {script : Script α ο γ} {run : Run α ο γ}
    {stage : Stage α ο γ} (moment : Moment script run stage) :
    Agrees run ∧ InOrder run.events ∧ ToldOnce run.events ∧
      (stage = .rest → Accounted run.events ∧
        ((∀ event ∈ run.events, ¬ GivesUp event) → Undisturbed run.events)) := by
  have agrees := agrees_of_moment moment
  have orderly := orderly_of_moment moment
  refine ⟨agrees, orderly.inOrder, orderly.toldOnce, ?_⟩
  rintro rfl
  exact ⟨orderly.accounted agrees, orderly.undisturbed agrees⟩

/-- Observer `0` pushes the next value up to `3` and lets observer `1` in, which fails
when it is told `3`. -/
def echo : Script Nat Nat Nat := fun _ observer value =>
  if observer = 0 ∧ value < 3 then [.push (value + 1), .subscribe 1]
  else if observer = 1 ∧ value = 3 then [.fail]
  else []

/-- What comes of echoes of `1` and of `7`. -/
def echoes : Run Nat Nat Nat :=
  (Run.steps echo 4 [.subscribe 0, .push 1, .push 7] Run.empty).getD Run.empty

theorem moment_echoes : Moment echo echoes .rest := by
  have done : Run.steps echo 4 [.subscribe 0, .push 1, .push 7] Run.empty = some echoes := rfl
  exact Moment.unused.steps done

theorem delivery_of_echoes :
    Moment echo echoes .rest ∧ InOrder echoes.events ∧ ToldOnce echoes.events ∧
      Accounted echoes.events := by
  obtain ⟨-, inOrder, toldOnce, accounted⟩ := delivery_in_order_once moment_echoes
  exact ⟨moment_echoes, inOrder, toldOnce, (accounted rfl).1⟩

end JobConsole.Store
