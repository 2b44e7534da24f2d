import JobConsole.Proofs.Polling
import JobConsole.Watch.WakeUp

/-!
# No wake-up is lost

The waiter and the pollers share the stores and the bell.  Many rings may fall together
into one kept wake-up, so what is kept says little about what has been rung.  What holds
instead is this: as long as the waiter has found something missing, either a wake-up is
kept or something is still to come, a snapshot to be stored or an observer to be told
(`Stirs`).

`Attended` is that invariant together with the state of the stores.  It is kept by every
step, and it leaves no way to oversleep the last wake-up (`no_lost_wakeUp`).  All that is
asked of the bell is that it is reliable; whether it can keep more than one wake-up does
not matter.
-/

namespace JobConsole.Watch

open JobConsole.Store

/-! ## Stores that are watched -/

variable {α : Type}

/-- The observer of the watch has been told of everything. -/
def IsTold (store : Store α Unit) : Prop :=
  ∃ current, store = ⟨current, [()], [], false⟩

/-- A value has been pushed that the observer of the watch is still to be told of. -/
def IsUntold (run : Run α Unit Unit) : Prop :=
  ∃ (before : Run α Unit Unit) (value : α),
    IsTold before.store ∧ run = before.perform (.push value)

theorem isTold_freshBoard (resource : Resource) : IsTold (freshBoard.store resource).store := by
  cases resource <;> exact ⟨.notLoaded, rfl⟩

/-- To store a value and to tell of it is to push it. -/
theorem tellAll_perform_push {run : Run α Unit Unit} (told : IsTold run.store) (value : α) :
    tellAll (run.perform (.push value)) = run.announce value := by
  obtain ⟨store, scopes, events⟩ := run
  obtain ⟨current, rfl⟩ := told
  rfl

theorem announce_of_isTold {run : Run α Unit Unit} (told : IsTold run.store) (value : α) :
    run.announce value =
      { run with
        store := ⟨.loaded value, [()], [], false⟩
        events := [.passEnded, .called () value, .passStarted value [()], .pushed value] ++
          run.events } := by
  obtain ⟨store, scopes, events⟩ := run
  obtain ⟨current, rfl⟩ := told
  rfl

theorem IsUntold.tell {run : Run α Unit Unit} (untold : IsUntold run) :
    IsTold (tellAll run).store := by
  obtain ⟨before, value, told, rfl⟩ := untold
  rw [tellAll_perform_push told, announce_of_isTold told]
  exact ⟨.loaded value, rfl⟩

theorem current_tellAll {run : Run α Unit Unit} (untold : IsUntold run) :
    (tellAll run).store.current = run.store.current := by
  obtain ⟨before, value, told, rfl⟩ := untold
  rw [tellAll_perform_push told, announce_of_isTold told]
  rfl

/-- The observer is called once for what was stored. -/
theorem callsOf_tellAll {run : Run α Unit Unit} (untold : IsUntold run) :
    ∃ value, Run.callsOf (Run.eventsSince run (tellAll run)) = [((), value)] := by
  obtain ⟨before, value, told, rfl⟩ := untold
  refine ⟨value, ?_⟩
  have more : (before.announce value).events =
      [.passEnded, .called () value, .passStarted value [()]] ++
        (before.perform (.push value)).events := by
    rw [announce_of_isTold told]
    rfl
  rw [tellAll_perform_push told, Run.eventsSince_of_append more]
  rfl

/-- A resource has been loaded. -/
def IsLoaded (board : WatchBoard) (resource : Resource) : Prop :=
  (board.store resource).store.current.isLoaded = true

theorem missing_eq_nil_iff {board : WatchBoard} :
    missing board = [] ↔ ∀ resource, IsLoaded board resource := by
  rw [missing, List.filter_eq_nil_iff]
  constructor
  · intro none resource
    simpa [IsLoaded] using none resource (Resource.mem_all resource)
  · intro each resource _
    simpa [IsLoaded] using each resource

namespace Alarm

variable {ν : Type}

/-! ## The invariant -/

/-- Something is still to come: a snapshot, or a ring for one. -/
def Stirs (alarm : Alarm ν) : Prop :=
  ∃ resource, ¬ IsLoaded alarm.board resource ∨ resource ∈ alarm.untold

/-- What holds while the waiter does something. -/
def Holds (bell : Bell ν) (alarm : Alarm ν) : Waiter → Prop
  | .looking left found =>
      (∀ resource, resource ∈ left ∨ resource ∈ found ∨ IsLoaded alarm.board resource) ∧
        (found ≠ [] → bell.Keeps alarm.kept ∨ alarm.Stirs)
  | .drowsy => bell.Keeps alarm.kept ∨ alarm.Stirs
  | .asleep => alarm.Stirs
  | .finished => ∀ resource, IsLoaded alarm.board resource

/-- The stores are watched, and the waiter does not rely on a ring that has been. -/
structure Attended (bell : Bell ν) (alarm : Alarm ν) : Prop where
  told : ∀ resource, resource ∉ alarm.untold → IsTold (alarm.board.store resource).store
  untold : ∀ resource, resource ∈ alarm.untold → IsUntold (alarm.board.store resource)
  waiter : alarm.Holds bell alarm.waiter

variable {bell : Bell ν}

theorem holds_awake (bell : Bell ν) (alarm : Alarm ν) : alarm.Holds bell .awake := by
  constructor
  · exact fun resource => .inl (Resource.mem_all resource)
  · exact fun isFound => absurd rfl isFound

theorem attended_start : Attended bell (start bell) := by
  constructor
  · exact fun resource _ => isTold_freshBoard resource
  · exact fun resource member => absurd member List.not_mem_nil
  · exact holds_awake bell (start bell)

/-! ## Steps -/

theorem isLoaded_store {alarm : Alarm ν} {resource other : Resource}
    (loaded : IsLoaded alarm.board other) (data : resource.Data) :
    IsLoaded (alarm.store resource data).board other := by
  by_cases same : other = resource
  · subst same
    rw [IsLoaded, store, Board.store_update_self]
    rfl
  · rw [IsLoaded, store, Board.store_update_of_ne _ _ same]
    exact loaded

/-- A poller stores a snapshot; its ring is still to come. -/
theorem Attended.store {alarm : Alarm ν} (attended : Attended bell alarm) {resource : Resource}
    (told : resource ∉ alarm.untold) (data : resource.Data) :
    Attended bell (alarm.store resource data) := by
  have stirs : (alarm.store resource data).Stirs := ⟨resource, .inr List.mem_cons_self⟩
  constructor
  · intro other isTold
    have apart : other ≠ resource := List.ne_of_not_mem_cons isTold
    rw [Alarm.store, Board.store_update_of_ne _ _ apart]
    exact attended.told other (List.not_mem_of_not_mem_cons isTold)
  · intro other isUntold
    by_cases same : other = resource
    · subst same
      rw [Alarm.store, Board.store_update_self]
      exact ⟨_, data, attended.told other told, rfl⟩
    · rw [Alarm.store, Board.store_update_of_ne _ _ same]
      exact attended.untold other (List.mem_of_ne_of_mem same isUntold)
  · have holds := attended.waiter
    change (alarm.store resource data).Holds bell alarm.waiter
    cases isWaiter : alarm.waiter with
    | looking left found =>
        rw [isWaiter] at holds
        refine ⟨fun other => ?_, fun _ => .inr stirs⟩
        exact (holds.1 other).imp_right (Or.imp_right fun loaded => isLoaded_store loaded data)
    | drowsy => exact .inr stirs
    | asleep => exact stirs
    | finished =>
        rw [isWaiter] at holds
        exact fun other => isLoaded_store (holds other) data

theorem rung_of_asleep (reliable : bell.IsReliable) (board : WatchBoard)
    (untold : List Resource) (kept : ν) :
    rung bell ⟨board, untold, kept, .asleep⟩ =
      ⟨board, untold, (bell.ring true kept).1, .awake⟩ := by
  simp only [rung, reliable.wakes kept, if_true]

/-- A ring is heard: either the waiter looks again, or a wake-up is kept. -/
theorem holds_rung (reliable : bell.IsReliable) {alarm : Alarm ν}
    (looked : ∀ left found, alarm.waiter = .looking left found →
      ∀ resource, resource ∈ left ∨ resource ∈ found ∨ IsLoaded alarm.board resource)
    (finished : alarm.waiter = .finished → ∀ resource, IsLoaded alarm.board resource) :
    (rung bell alarm).Holds bell (rung bell alarm).waiter := by
  obtain ⟨board, untold, kept, waiter⟩ := alarm
  cases waiter with
  | looking left found => exact ⟨looked left found rfl, fun _ => .inl (reliable.keeps kept)⟩
  | drowsy => exact .inl (reliable.keeps kept)
  | asleep =>
      rw [rung_of_asleep reliable]
      exact holds_awake bell _
  | finished => exact finished rfl

@[simp]
theorem board_rung (bell : Bell ν) (alarm : Alarm ν) : (alarm.rung bell).board = alarm.board := by
  unfold rung
  split <;> rfl

@[simp]
theorem untold_rung (bell : Bell ν) (alarm : Alarm ν) :
    (alarm.rung bell).untold = alarm.untold := by
  unfold rung
  split <;> rfl

/-- Telling rings once. -/
theorem tell_eq {alarm : Alarm ν} {resource : Resource}
    (untold : IsUntold (alarm.board.store resource)) :
    alarm.tell bell resource =
      rung bell { alarm with
        board := alarm.board.update resource tellAll
        untold := alarm.untold.filter (· ≠ resource) } := by
  obtain ⟨value, calls⟩ := callsOf_tellAll untold
  simp only [tell, Board.store_update_self, calls, List.foldl_cons, List.foldl_nil]

theorem isLoaded_update_tellAll {board : WatchBoard} {resource : Resource}
    (untold : IsUntold (board.store resource)) (other : Resource) :
    IsLoaded (board.update resource tellAll) other ↔ IsLoaded board other := by
  by_cases same : other = resource
  · subst same
    rw [IsLoaded, IsLoaded, Board.store_update_self, current_tellAll untold]
  · rw [IsLoaded, IsLoaded, Board.store_update_of_ne _ _ same]

/-- The observer of the watch is told, and rings. -/
theorem Attended.tell (reliable : bell.IsReliable) {alarm : Alarm ν}
    (attended : Attended bell alarm) {resource : Resource} (untold : resource ∈ alarm.untold) :
    Attended bell (alarm.tell bell resource) := by
  have isUntold := attended.untold resource untold
  have holds := attended.waiter
  have same := isLoaded_update_tellAll isUntold
  rw [tell_eq isUntold]
  constructor
  · intro other isTold
    rw [untold_rung, List.mem_filter, decide_eq_true_eq, not_and, not_not] at isTold
    rw [board_rung]
    by_cases isSame : other = resource
    · subst isSame
      rw [Board.store_update_self]
      exact isUntold.tell
    · rw [Board.store_update_of_ne _ _ isSame]
      exact attended.told other fun member => isSame (isTold member)
  · intro other isOther
    rw [untold_rung, List.mem_filter, decide_eq_true_eq] at isOther
    rw [board_rung, Board.store_update_of_ne _ _ isOther.2]
    exact attended.untold other isOther.1
  · apply holds_rung reliable
    · intro left found isWaiter other
      change alarm.waiter = _ at isWaiter
      rw [isWaiter] at holds
      exact (holds.1 other).imp_right (Or.imp_right (same other).mpr)
    · intro isWaiter other
      change alarm.waiter = _ at isWaiter
      rw [isWaiter] at holds
      exact (same other).mpr (holds other)

theorem look_cons_of_isLoaded {board : WatchBoard} {resource : Resource}
    (loaded : IsLoaded board resource) (left found : List Resource) :
    Alarm.look board (resource :: left) found = .looking left found := by
  rw [IsLoaded] at loaded
  rw [Alarm.look, if_pos loaded]

theorem look_cons_of_not_isLoaded {board : WatchBoard} {resource : Resource}
    (missing : ¬ IsLoaded board resource) (left found : List Resource) :
    Alarm.look board (resource :: left) found = .looking left (found ++ [resource]) := by
  rw [IsLoaded] at missing
  rw [Alarm.look, if_neg missing]

/-- The waiter looks at one more store, or is through with them. -/
theorem Attended.look {alarm : Alarm ν} (attended : Attended bell alarm)
    {left found : List Resource} (isLooking : alarm.waiter = .looking left found) :
    Attended bell { alarm with waiter := Alarm.look alarm.board left found } := by
  have holds := attended.waiter
  rw [isLooking] at holds
  obtain ⟨looked, expected⟩ := holds
  refine ⟨attended.told, attended.untold, ?_⟩
  cases left with
  | cons resource left =>
      by_cases loaded : IsLoaded alarm.board resource
      · rw [look_cons_of_isLoaded loaded]
        refine ⟨fun other => ?_, expected⟩
        rcases looked other with isLeft | others
        · rcases List.mem_cons.mp isLeft with rfl | isLeft
          · exact .inr (.inr loaded)
          · exact .inl isLeft
        · exact .inr others
      · rw [look_cons_of_not_isLoaded loaded]
        refine ⟨fun other => ?_, fun _ => .inr ⟨resource, .inl loaded⟩⟩
        rcases looked other with isLeft | isFound | isLoaded
        · rcases List.mem_cons.mp isLeft with rfl | isLeft
          · exact .inr (.inl List.mem_concat_self)
          · exact .inl isLeft
        · exact .inr (.inl (List.mem_append_left _ isFound))
        · exact .inr (.inr isLoaded)
  | nil =>
      cases found with
      | nil =>
          intro other
          rcases looked other with impossible | impossible | loaded
          · exact absurd impossible List.not_mem_nil
          · exact absurd impossible List.not_mem_nil
          · exact loaded
      | cons resource found => exact expected (List.cons_ne_nil _ _)

/-- The waiter takes a wake-up that is kept, or falls asleep while something is still to
come. -/
theorem Attended.lieDown {alarm next : Alarm ν} (attended : Attended bell alarm)
    (stepped : alarm.step? bell .lieDown = some next) : Attended bell next := by
  have holds := attended.waiter
  obtain ⟨board, untold, kept, waiter⟩ := alarm
  cases waiter with
  | drowsy =>
      cases stepped
      refine ⟨attended.told, attended.untold, ?_⟩
      by_cases keeps : bell.Keeps kept
      · rw [Bell.Keeps] at keeps
        simp only [keeps, if_true]
        exact holds_awake bell _
      · have stirs := holds.resolve_left keeps
        rw [Bell.Keeps] at keeps
        simp only [keeps]
        exact stirs
  | _ => cases stepped

/-- The invariant is kept by every step. -/
theorem Attended.step (reliable : bell.IsReliable) {alarm next : Alarm ν}
    (attended : Attended bell alarm) {step : AlarmStep}
    (stepped : alarm.step? bell step = some next) : Attended bell next := by
  cases step with
  | store resource data =>
      simp only [step?] at stepped
      split at stepped
      · cases stepped
      · rename_i told
        cases stepped
        exact attended.store told data
  | tell resource =>
      simp only [step?] at stepped
      split at stepped
      · rename_i untold
        cases stepped
        exact Attended.tell reliable attended untold
      · cases stepped
  | look =>
      simp only [step?] at stepped
      split at stepped
      · rename_i left found isLooking
        cases stepped
        exact attended.look isLooking
      · cases stepped
  | lieDown => exact attended.lieDown stepped

theorem attended_of_reachable (reliable : bell.IsReliable) {alarm : Alarm ν}
    (reachable : Reachable bell alarm) : Attended bell alarm := by
  induction reachable with
  | start => exact attended_start
  | step _ stepped attended => exact Attended.step reliable attended stepped

/-! ## The end of the wait -/

theorem steps?_append (bell : Bell ν) (first second : List AlarmStep) (alarm : Alarm ν) :
    alarm.steps? bell (first ++ second) = (alarm.steps? bell first).bind (steps? bell second) := by
  induction first generalizing alarm with
  | nil => rfl
  | cons step rest ih =>
      simp only [List.cons_append, steps?]
      cases alarm.step? bell step with
      | none => rfl
      | some next => exact ih next

theorem reachable_of_steps? {steps : List AlarmStep} {alarm after : Alarm ν}
    (reachable : Reachable bell alarm) (stepped : alarm.steps? bell steps = some after) :
    Reachable bell after := by
  induction steps generalizing alarm with
  | nil =>
      cases stepped
      exact reachable
  | cons step rest ih =>
      obtain ⟨next, first, others⟩ := Option.bind_eq_some_iff.mp stepped
      exact ih (.step reachable first) others

theorem steps?_look_cons (bell : Bell ν) (rest : List AlarmStep) (board : WatchBoard)
    (untold : List Resource) (kept : ν) (left found : List Resource) :
    steps? bell (.look :: rest) ⟨board, untold, kept, .looking left found⟩ =
      steps? bell rest ⟨board, untold, kept, look board left found⟩ :=
  rfl

/-- The steps of a waiter that looks at the stores that are left. -/
def looks (left : List Resource) : List AlarmStep :=
  List.replicate (left.length + 1) .look

/-- The steps of a waiter that takes a kept wake-up and looks again. -/
def awakening : List AlarmStep :=
  .lieDown :: looks Resource.all

theorem isOwn_of_mem_looks (left : List Resource) : ∀ move ∈ looks left, move.isOwn = true := by
  intro move member
  rw [List.eq_of_mem_replicate member]
  rfl

theorem isOwn_of_mem_awakening : ∀ move ∈ awakening, move.isOwn = true := by
  decide

/-- A waiter that is left alone finds the stores that are missing. -/
theorem steps?_looks (bell : Bell ν) (board : WatchBoard) (untold : List Resource) (kept : ν)
    (left found : List Resource) :
    steps? bell (looks left) ⟨board, untold, kept, .looking left found⟩ =
      some ⟨board, untold, kept,
        look board [] (found ++ left.filter fun resource =>
          !(board.store resource).store.current.isLoaded)⟩ := by
  induction left generalizing found with
  | nil => simp [looks, steps?, step?]
  | cons resource left ih =>
      change steps? bell (.look :: looks left) _ = _
      rw [steps?_look_cons]
      by_cases loaded : IsLoaded board resource
      · rw [look_cons_of_isLoaded loaded, ih, List.filter_cons_of_neg]
        simpa [IsLoaded] using loaded
      · rw [look_cons_of_not_isLoaded loaded, ih, List.filter_cons_of_pos, List.append_assoc,
          List.singleton_append]
        simpa [IsLoaded] using loaded

/-- A waiter that has a wake-up to take when everything has been loaded finishes. -/
theorem steps?_awakening {board : WatchBoard} (complete : missing board = []) {kept : ν}
    (keeps : bell.Keeps kept) (untold : List Resource) :
    steps? bell awakening ⟨board, untold, kept, .drowsy⟩ =
      some ⟨board, untold, (bell.rest kept).1, .finished⟩ := by
  have woken : step? bell .lieDown ⟨board, untold, kept, .drowsy⟩ =
      some ⟨board, untold, (bell.rest kept).1, .awake⟩ := by
    rw [Bell.Keeps] at keeps
    simp only [step?, keeps, if_true]
  have looked := steps?_looks bell board untold (bell.rest kept).1 Resource.all []
  rw [List.nil_append, ← missing, complete] at looked
  rw [awakening, steps?, woken, Option.bind_some]
  exact looked

/-- When everything has been loaded and all have been told, the waiter need not wait for
anybody.  One that still believes that something is missing looks once more. -/
theorem Attended.finishes {alarm : Alarm ν} (attended : Attended bell alarm)
    (complete : missing alarm.board = []) (quiet : alarm.untold = []) :
    alarm.waiter ≠ .asleep ∧
      ∃ moves after, (∀ move ∈ moves, move.isOwn = true) ∧
        alarm.steps? bell moves = some after ∧ after.waiter = .finished := by
  have loaded := missing_eq_nil_iff.mp complete
  have still : ¬ alarm.Stirs := by
    rintro ⟨resource, isMissing | untold⟩
    · exact isMissing (loaded resource)
    · rw [quiet] at untold
      exact absurd untold List.not_mem_nil
  have holds := attended.waiter
  obtain ⟨board, untold, kept, waiter⟩ := alarm
  cases waiter with
  | looking left found =>
      have looked := steps?_looks bell board untold kept left found
      have noneMissing : (left.filter fun resource =>
          !(board.store resource).store.current.isLoaded) = [] := by
        rw [List.filter_eq_nil_iff]
        intro resource _
        simpa [IsLoaded] using loaded resource
      rw [noneMissing, List.append_nil] at looked
      cases found with
      | nil => exact ⟨nofun, looks left, _, isOwn_of_mem_looks left, looked, rfl⟩
      | cons resource found =>
          have keeps := (holds.2 (List.cons_ne_nil _ _)).resolve_right still
          refine ⟨nofun, looks left ++ awakening, ⟨board, untold, (bell.rest kept).1, .finished⟩,
            ?_, ?_, rfl⟩
          · intro move member
            rcases List.mem_append.mp member with isFirst | isLater
            · exact isOwn_of_mem_looks left move isFirst
            · exact isOwn_of_mem_awakening move isLater
          · rw [steps?_append, looked, Option.bind_some]
            exact steps?_awakening complete keeps untold
  | drowsy =>
      have keeps := holds.resolve_right still
      exact ⟨nofun, awakening, _, isOwn_of_mem_awakening, steps?_awakening complete keeps untold,
        rfl⟩
  | asleep => exact absurd holds still
  | finished => exact ⟨nofun, [], _, fun _ member => absurd member List.not_mem_nil, rfl, rfl⟩

/-- However the pollers and the waiter interleave, with a reliable bell: when everything
has been loaded and no poller is between storing and ringing, the waiter is not asleep and
finishes by its own steps alone; and a waiter that has finished has everything loaded. -/
theorem no_lost_wakeUp (reliable : bell.IsReliable) {alarm : Alarm ν}
    (reachable : Reachable bell alarm) :
    (missing alarm.board = [] → alarm.untold = [] →
      alarm.waiter ≠ .asleep ∧
        ∃ moves after, (∀ move ∈ moves, move.isOwn = true) ∧
          alarm.steps? bell moves = some after ∧ after.waiter = .finished) ∧
      (alarm.waiter = .finished → missing alarm.board = []) := by
  have attended := attended_of_reachable reliable reachable
  refine ⟨attended.finishes, fun finished => ?_⟩
  have holds := attended.waiter
  rw [finished] at holds
  exact missing_eq_nil_iff.mpr holds

/-- The job statistics come in while the waiter looks at the other stores, and three rings
fall together. -/
def rush : List AlarmStep :=
  [.store .servers [], .tell .servers, .look, .store .problems [], .tell .problems, .look,
    .store .jobStats ⟨none, 0, 0, 0, 0, 0, 0, 0, 0, 0, 0⟩, .look, .tell .jobStats, .look]

theorem no_lost_wakeUp_in_rush :
    Bell.single.IsReliable ∧ ∃ alarm ended,
      Reachable Bell.single alarm ∧ (start Bell.single).steps? Bell.single rush = some alarm ∧
      missing alarm.board = [] ∧ alarm.untold = [] ∧ alarm.waiter = .drowsy ∧
      (∃ moves, (∀ move ∈ moves, move.isOwn = true) ∧
        alarm.steps? Bell.single moves = some ended) ∧
      Reachable Bell.single ended ∧ ended.waiter = .finished ∧ missing ended.board = [] := by
  have reliable := Bell.isReliable_single
  obtain ⟨alarm, came⟩ : ∃ alarm, (start Bell.single).steps? Bell.single rush = some alarm :=
    ⟨_, rfl⟩
  have reachable := reachable_of_steps? .start came
  have complete : missing alarm.board = [] := by
    cases came
    rfl
  have quiet : alarm.untold = [] := by
    cases came
    rfl
  have drowsy : alarm.waiter = .drowsy := by
    cases came
    rfl
  obtain ⟨-, moves, ended, own, went, finished⟩ :=
    (no_lost_wakeUp reliable reachable).1 complete quiet
  have reachableEnd := reachable_of_steps? reachable went
  exact ⟨reliable, alarm, ended, reachable, came, complete, quiet, drowsy, ⟨moves, own, went⟩,
    reachableEnd, finished, (no_lost_wakeUp reliable reachableEnd).2 finished⟩

end Alarm

end JobConsole.Watch
