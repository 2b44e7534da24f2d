import JobConsole.Proofs.Store.Delivery

/-!
# Recipients

Who is told of a push is settled when its pass starts.  A push of the owner has
its pass at once, so its recipients are those that are registered when it is
made.  A push of an observer waits, and who registers while it waits is told of
it as well.  This is the only way to be told of a push that was made before one's
registration, and it does happen.
-/

namespace JobConsole.Store

open History

variable {α ο γ : Type} [DecidableEq ο]

/-- Whether an event registers an observer, unless it is registered already. -/
def Enrolls (event : Event α ο γ) (observer : ο) : Prop :=
  event = .subscribed observer ∨ ∃ guard, event = .scopeBegun guard observer

/-- Who is registered was registered before, or has been registered since. -/
theorem registered_append {later past : List (Event α ο γ)} {observer : ο}
    (member : observer ∈ registered (later ++ past)) :
    observer ∈ registered past ∨ ∃ event ∈ later, Enrolls event observer := by
  have enrolled {other : ο} {observers : List ο} (member : observer ∈ enroll other observers) :
      observer = other ∨ observer ∈ observers := by
    unfold enroll at member
    split at member
    · exact .inr member
    · rcases List.mem_append.mp member with member | single
      · exact .inr member
      · exact .inl (List.mem_singleton.mp single)
  induction later with
  | nil => exact .inl member
  | cons event later ih =>
      have before (member : observer ∈ registered (later ++ past)) :
          observer ∈ registered past ∨ ∃ other ∈ event :: later, Enrolls other observer := by
        rcases ih member with member | ⟨other, isLater, enrolls⟩
        · exact .inl member
        · exact .inr ⟨other, List.mem_cons_of_mem event isLater, enrolls⟩
      cases event with
      | subscribed other =>
          rcases enrolled member with rfl | member
          · exact .inr ⟨_, List.mem_cons_self, .inl rfl⟩
          · exact before member
      | scopeBegun guard other =>
          rcases enrolled member with rfl | member
          · exact .inr ⟨_, List.mem_cons_self, .inr ⟨guard, rfl⟩⟩
          · exact before member
      | unsubscribed other => exact before (List.mem_of_mem_filter member)
      | scopeEnded guard other => exact before (List.mem_of_mem_filter member)
      | reset => exact absurd member List.not_mem_nil
      | _ => exact before member

/-! ## Pushes at rest -/

/-- A push that is made while no pass goes on either is the last event, and then its
pass comes next, or is followed by its pass at once. -/
def Prompt (run : Run α ο γ) (stage : Stage α ο γ) : Prop :=
  ∀ later value past, run.events = later ++ .pushed value :: past → Over past →
    waiting past = [] ∧
      (later = [] ∧ stage = .between ∨
        ∃ after observers, later = after ++ [.passStarted value observers])

variable [DecidableEq γ]

/-- An action that is no push adds no push. -/
theorem exists_events_perform {action : Action α ο γ} (quiet : ∀ value, action ≠ .push value)
    (run : Run α ο γ) :
    ∃ added, (run.perform action).events = added ++ run.events ∧
      ∀ value, .pushed value ∉ added := by
  have ended (run : Run α ο γ) (guard : γ) :
      ∃ added, (run.endScope guard).events = added ++ run.events ∧
        ∀ value, .pushed value ∉ added := by
    unfold Run.endScope
    split
    · exact ⟨[], rfl, by simp⟩
    · exact ⟨[.scopeEnded guard _], rfl, by simp⟩
  cases action with
  | push value => exact absurd rfl (quiet value)
  | subscribe observer => exact ⟨[.subscribed observer], rfl, by simp⟩
  | unsubscribe observer => exact ⟨[.unsubscribed observer], rfl, by simp⟩
  | scope guard observer =>
      obtain ⟨added, same, noPush⟩ := ended
        ((run.update (Store.subscribe observer)).record (.scopeBegun guard observer)) guard
      refine ⟨added ++ [.scopeBegun guard observer], ?_, fun value member => ?_⟩
      · rw [List.append_assoc]
        exact same
      · rcases List.mem_append.mp member with member | single
        · exact noPush value member
        · simp at single
  | dropGuard guard => exact ended run guard
  | reset => exact ⟨[.reset], rfl, by simp⟩
  | readCurrent => exact ⟨[.readCurrent run.store.current], rfl, by simp⟩
  | readCount => exact ⟨[.readCount run.store.observers.length], rfl, by simp⟩
  | describe => exact ⟨[.described run.store], rfl, by simp⟩
  | fail => exact ⟨[], rfl, by simp⟩

omit [DecidableEq ο] [DecidableEq γ] in
theorem push_split_of_append {added events later past : List (Event α ο γ)} {value : α}
    (noPush : ∀ value, .pushed value ∉ added)
    (split : added ++ events = later ++ .pushed value :: past) :
    ∃ between, later = added ++ between ∧ events = between ++ .pushed value :: past := by
  rcases List.append_eq_append_iff.mp split with ⟨between, isLater, isEvents⟩ |
    ⟨between, isAdded, isEvents⟩
  · exact ⟨between, isLater, isEvents⟩
  · cases between with
    | nil => exact ⟨[], by rw [isAdded]; simp, isEvents.symm⟩
    | cons event between =>
        rw [List.cons_append, List.cons.injEq] at isEvents
        refine absurd ?_ (noPush value)
        rw [isAdded, isEvents.1]
        exact List.mem_append_right later List.mem_cons_self

omit [DecidableEq γ] in
/-- Away from the choice of the next pass, events without a push change nothing. -/
theorem Prompt.extend {run after : Run α ο γ} {stage next : Stage α ο γ}
    (prompt : Prompt run stage) (away : stage ≠ .between) (added : List (Event α ο γ))
    (more : after.events = added ++ run.events) (noPush : ∀ value, .pushed value ∉ added) :
    Prompt after next := by
  intro later value past split closed
  rw [more] at split
  obtain ⟨between, rfl, before⟩ := push_split_of_append noPush split
  obtain ⟨noneWaits, ⟨-, isBetween⟩ | ⟨after, observers, rfl⟩⟩ :=
    prompt between value past before closed
  · exact absurd isBetween away
  · exact ⟨noneWaits, .inr ⟨added ++ after, observers, by rw [List.append_assoc]⟩⟩

omit [DecidableEq γ] in
/-- A push that is made while a pass goes on is not told at once. -/
theorem Prompt.push {run after : Run α ο γ} {stage next : Stage α ο γ} {pushed : α}
    (prompt : Prompt run stage) (away : stage ≠ .between)
    (more : after.events = .pushed pushed :: run.events)
    (here : Over run.events → waiting run.events = [] ∧ next = .between) : Prompt after next := by
  intro later value past split closed
  rw [more] at split
  cases later with
  | nil =>
      rw [List.nil_append, List.cons.injEq] at split
      rw [← split.2] at closed ⊢
      obtain ⟨noneWaits, isBetween⟩ := here closed
      exact ⟨noneWaits, .inl ⟨rfl, isBetween⟩⟩
  | cons event later =>
      rw [List.cons_append, List.cons.injEq] at split
      obtain ⟨noneWaits, ⟨-, isBetween⟩ | ⟨after, observers, rfl⟩⟩ :=
        prompt later value past split.2 closed
      · exact absurd isBetween away
      · exact ⟨noneWaits, .inr ⟨event :: after, observers, rfl⟩⟩

/-- Every moment is prompt. -/
theorem prompt_of_moment {script : Script α ο γ} {run : Run α ο γ} {stage : Stage α ο γ}
    (moment : Moment script run stage) : Prompt run stage := by
  induction moment with
  | unused =>
      intro later value past split closed
      exact absurd split.symm (by simp [Run.empty])
  | @owner run action here ih =>
      have orderly := orderly_of_moment here
      rcases action.push_or_quiet with ⟨value, rfl⟩ | quiet
      · apply ih.push Stage.rest_ne_between rfl
        intro closed
        exact ⟨orderly.waiting_eq_nil (agrees_of_moment here),
          Stage.behind_push orderly.fits.2.1 value⟩
      · obtain ⟨added, more, noPush⟩ := exists_events_perform quiet run
        exact ih.extend Stage.rest_ne_between added more noPush
  | @settle run here idle ih =>
      intro later value past split closed
      obtain ⟨noneWaits, ⟨rfl, -⟩ | told⟩ := ih later value past split closed
      · have queue := (agrees_of_moment here).pending
        simp only [Run.events_update, List.nil_append] at split
        rw [idle, split, waiting, noneWaits] at queue
        cases queue
      · exact ⟨noneWaits, .inr told⟩
  | @start run first rest here next ih =>
      intro later value past split closed
      cases later with
      | nil => cases split
      | cons event later =>
          rw [List.cons_append] at split
          obtain ⟨isEvent, split⟩ := List.cons.inj split
          obtain ⟨noneWaits, ⟨rfl, -⟩ | ⟨after, observers, rfl⟩⟩ := ih later value past split closed
          · have queue := (agrees_of_moment here).pending
            simp only [Run.events_update, List.nil_append] at split
            rw [next, split, waiting, noneWaits] at queue
            cases queue
            exact ⟨noneWaits, .inr ⟨[], run.store.observers, by rw [← isEvent]; rfl⟩⟩
          · exact ⟨noneWaits, .inr ⟨event :: after, observers, rfl⟩⟩
  | call here ih =>
      exact ih.extend Stage.telling_ne_between [.called _ _] rfl (by simp)
  | @act run value rest action actions here going ih =>
      rcases action.push_or_quiet with ⟨pushed, rfl⟩ | quiet
      · apply ih.push Stage.telling_ne_between rfl
        intro closed
        obtain ⟨pass, earlier, current, goes, -⟩ := (orderly_of_moment here).fits
        exact absurd goes (closed pass (current ▸ List.mem_cons_self))
      · obtain ⟨added, more, noPush⟩ := exists_events_perform quiet run
        exact ih.extend Stage.telling_ne_between added more noPush
  | cut here ih =>
      exact ih.extend Stage.telling_ne_between [.passCut] rfl (by simp)
  | finish here ih =>
      exact ih.extend Stage.telling_ne_between [.passEnded] rfl (by simp)

/-! ## Recipients of a push -/

omit [DecidableEq γ] in
theorem value_of_own {later past : List (Event α ο γ)} {value : α} {pass : Pass α ο}
    (inOrder : InOrder (later ++ .pushed value :: past))
    (member : pass ∈ passes (later ++ .pushed value :: past))
    (own : pass.number = some (pushed past).length) : pass.value = value := by
  obtain ⟨number, isNumber, isValue⟩ := inOrder.told pass member
  cases isNumber.symm.trans own
  rw [pushed_append, pushed, List.append_assoc,
    List.getElem?_append_right (Nat.le_refl _), Nat.sub_self] at isValue
  exact (Option.some.inj isValue).symm

omit [DecidableEq ο] [DecidableEq γ] in
/-- A push whose pass starts at once has no pass later on. -/
theorem start_at_once {start before behind past : List (Event α ο γ)} {value : α}
    {observers : List ο} (noneWaits : waiting past = [])
    (atOnce : start ++ before = behind ++ [.passStarted value observers])
    (isFirst : (waiting (before ++ .pushed value :: past)).head?.map Prod.fst =
      some (pushed past).length) : before = [] := by
  rcases List.eq_nil_or_concat before with isNil | ⟨between, event, rfl⟩
  · exact isNil
  · rw [List.concat_eq_append, ← List.append_assoc] at atOnce
    cases (List.append_inj' atOnce rfl).2
    obtain ⟨queued, isHead, isNumber⟩ := Option.map_eq_some_iff.mp isFirst
    rw [List.concat_eq_append, List.append_assoc] at isHead
    have gone : (pushed past).length ∉
        (waiting (between ++ ([.passStarted value observers] ++ .pushed value :: past))).map
          Prod.fst := by
      refine (not_mem_waiting_append ?_ ?_).2
      · simp [pushed]
      · simp [waiting, noneWaits]
    refine absurd ?_ gone
    rw [← isNumber]
    exact List.mem_map_of_mem (List.mem_of_head? isHead)

omit [DecidableEq γ] in
/-- Nothing happens between a push that is made while no pass goes on and its pass. -/
theorem Prompt.at_once {run : Run α ο γ} {stage : Stage α ο γ} (prompt : Prompt run stage)
    {later past after before : List (Event α ο γ)} {value : α} {observers : List ο}
    (split : run.events = later ++ .pushed value :: past) (closed : Over past)
    (isLater : later = after ++ .passStarted value observers :: before)
    (isFirst : (waiting (before ++ .pushed value :: past)).head?.map Prod.fst =
      some (pushed past).length) : before = [] := by
  obtain ⟨noneWaits, ⟨isNil, -⟩ | ⟨behind, first, isBehind⟩⟩ := prompt later value past split closed
  · rw [isNil] at isLater
    exact absurd isLater.symm (by simp)
  · have starts := isBehind.symm.trans (isLater.trans (List.append_cons _ _ _))
    exact start_at_once noneWaits starts.symm isFirst

/-- The recipients of a push are those that are registered when its pass starts: they
were registered when it was made, or have registered since.  A push that was made
while no pass went on is told at once, to those that were registered then. -/
theorem recipients_registered {script : Script α ο γ} {run : Run α ο γ} {stage : Stage α ο γ}
    (moment : Moment script run stage) {later past : List (Event α ο γ)} {value : α}
    (split : run.events = later ++ .pushed value :: past) {pass : Pass α ο}
    (member : pass ∈ passes run.events) (own : pass.number = some (pushed past).length) :
    ∃ after observers before, later = after ++ .passStarted value observers :: before ∧
      pass.observers = registered (before ++ .pushed value :: past) ∧
      (∀ call ∈ pass.calls, call.1 ∈ pass.observers ∧ call.2 = value) ∧
      (pass.ending = some .finished → pass.calls = pass.observers.map (·, value)) ∧
      (∀ observer ∈ pass.observers,
        observer ∈ registered past ∨ ∃ event ∈ before, Enrolls event observer) ∧
      (Over past → before = [] ∧ ∀ call ∈ pass.calls, call.1 ∈ registered past) := by
  have inOrder := (orderly_of_moment moment).inOrder
  have toldOnce := (orderly_of_moment moment).toldOnce
  have prompt := prompt_of_moment moment
  rw [split] at inOrder toldOnce member
  have isValue := value_of_own inOrder member own
  rcases started_of_mem_passes_append member with told |
    ⟨after, observers, before, isLater, isFirst, areRegistered⟩
  · rw [own] at told
    change some (pushed past).length ∈ numbers past at told
    exact absurd (lt_of_mem_numbers told).1 (Nat.lt_irrefl _)
  · have called : ∀ call ∈ pass.calls, call.1 ∈ pass.observers ∧ call.2 = value := by
      intro call isCall
      obtain ⟨observer, isObserver, rfl⟩ :=
        List.mem_map.mp ((toldOnce.started pass member).subset isCall)
      exact ⟨isObserver, isValue⟩
    rw [isValue] at isLater
    refine ⟨after, observers, before, isLater, areRegistered, called, ?_, ?_, ?_⟩
    · intro finished
      rw [toldOnce.finished pass member finished, Pass.due, isValue]
    · intro observer isObserver
      rw [areRegistered] at isObserver
      rcases registered_append isObserver with present | enrolled
      · exact .inl present
      · exact .inr enrolled
    · intro closed
      have atOnce := prompt.at_once split closed isLater (isFirst.symm.trans own)
      refine ⟨atOnce, fun call isCall => ?_⟩
      have isRegistered := (called call isCall).1
      rw [areRegistered, atOnce] at isRegistered
      exact isRegistered

/-- Observer `0` pushes `2` when it is told `1`, then lets observer `1` in and looks at
the snapshot. -/
def invite : Script Nat Nat Nat := fun _ observer value =>
  if observer = 0 ∧ value = 1 then [.push 2, .subscribe 1, .readCurrent] else []

/-- What comes of an invitation. -/
def invited : Run Nat Nat Nat :=
  (Run.steps invite 3 [.subscribe 0, .push 1] Run.empty).getD Run.empty

/-- The history up to the push of `2`. -/
def beforeInvitation : List (Event Nat Nat Nat) :=
  [.called 0 1, .passStarted 1 [0], .pushed 1, .subscribed 0]

/-- The history behind the push of `2`. -/
def afterInvitation : List (Event Nat Nat Nat) :=
  [.passEnded, .called 1 2, .called 0 2, .passStarted 2 [0, 1], .passEnded,
    .readCurrent (.loaded 2), .subscribed 1]

/-- The pass that tells `2`. -/
def invitation : Pass Nat Nat :=
  ⟨some 1, 2, [0, 1], [(0, 2), (1, 2)], some .finished⟩

theorem moment_invited : Moment invite invited .rest := by
  have done : Run.steps invite 3 [.subscribe 0, .push 1] Run.empty = some invited := rfl
  exact Moment.unused.steps done

theorem recipients_of_invitation :
    Moment invite invited .rest ∧ invitation ∈ passes invited.events ∧
      ∃ after observers before,
        afterInvitation = after ++ .passStarted 2 observers :: before ∧
          ∀ observer ∈ invitation.observers,
            observer ∈ registered beforeInvitation ∨ ∃ event ∈ before, Enrolls event observer := by
  have split : invited.events = afterInvitation ++ .pushed 2 :: beforeInvitation := by decide
  have member : invitation ∈ passes invited.events := by decide
  obtain ⟨after, observers, before, isLater, -, -, -, enrolled, -⟩ :=
    recipients_registered moment_invited split member rfl
  exact ⟨moment_invited, member, after, observers, before, isLater, enrolled⟩

/-- A recipient of a push need not have been registered when it was made. -/
theorem late_recipient :
    ¬ ∀ (script : Script Nat Nat Nat) (run : Run Nat Nat Nat) (stage : Stage Nat Nat Nat),
      Moment script run stage →
        ∀ later value past, run.events = later ++ .pushed value :: past →
          ∀ pass ∈ passes run.events, pass.number = some (pushed past).length →
            ∀ call ∈ pass.calls, call.1 ∈ registered past := by
  intro all
  have told := all invite invited .rest moment_invited afterInvitation 2 beforeInvitation
    (by decide) invitation (by decide) rfl (1, 2) (by decide)
  exact absurd told (by decide)

end JobConsole.Store
