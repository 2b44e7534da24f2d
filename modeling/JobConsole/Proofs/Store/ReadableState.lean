import JobConsole.Proofs.Store.Scopes

/-!
# The readable state

What can be read from a store is its snapshot and its observers.  Both follow from
the history alone, whatever waits, is told or was given up: the snapshot is the value
of the last push, unless the store was reset since; the observers are those with a
registration behind which nothing has removed them, in the order in which they joined.

`Agrees` already says so of the observers through the recursion `registered`.  Here
the recursions are unfolded into statements about what stands where in the history.
-/

namespace JobConsole.Store

namespace History

variable {α ο γ : Type}

/-- The snapshot that a history leads to. -/
def latest : List (Event α ο γ) → Snapshot α
  | [] => .notLoaded
  | .pushed value :: _ => .loaded value
  | .reset :: _ => .notLoaded
  | _ :: past => latest past

/-- Whether an event changes the snapshot. -/
def Replaces (event : Event α ο γ) : Prop :=
  event = .reset ∨ ∃ value, event = .pushed value

/-- Whether an event ends the registration of an observer, if it has one. -/
def Removes (event : Event α ο γ) (observer : ο) : Prop :=
  event = .unsubscribed observer ∨ (∃ guard, event = .scopeEnded guard observer) ∨
    event = .reset

/-- An observer joined at a time, which is the number of events before: it was
registered then, nothing has removed it since, and every earlier registration of it
had been followed by a removal. -/
def Joined (events : List (Event α ο γ)) (observer : ο) (time : Nat) : Prop :=
  ∃ later event past, events = later ++ event :: past ∧ past.length = time ∧
    Enrolls event observer ∧ (∀ next ∈ later, ¬ Removes next observer) ∧
    ∀ between earlier before, past = between ++ earlier :: before → Enrolls earlier observer →
      ∃ next ∈ between, Removes next observer

/-- A snapshot is the value of the last push since the last reset, if there is one. -/
structure IsSnapshotOf (snapshot : Snapshot α) (events : List (Event α ο γ)) : Prop where
  loaded_iff : ∀ value, snapshot = .loaded value ↔
    ∃ later past, events = later ++ .pushed value :: past ∧ ∀ event ∈ later, ¬ Replaces event
  notLoaded_iff : snapshot = .notLoaded ↔
    ∀ later value past, events = later ++ .pushed value :: past → .reset ∈ later

/-- Observers are those with a registration that nothing has followed to remove them,
each of them once, in the order in which they joined. -/
structure AreObserversOf (observers : List ο) (events : List (Event α ο γ)) : Prop where
  nodup : observers.Nodup
  mem_iff : ∀ observer, observer ∈ observers ↔
    ∃ later event past, events = later ++ event :: past ∧ Enrolls event observer ∧
      ∀ next ∈ later, ¬ Removes next observer
  joined : ∀ observer ∈ observers, ∃ time, Joined events observer time
  ordered : observers.Pairwise fun first second =>
    ∀ early late, Joined events first early → Joined events second late → early < late

/-! ## The snapshot of a history -/

theorem snapshot_cases (event : Event α ο γ) (past : List (Event α ο γ)) :
    (∃ value, event = .pushed value) ∨ event = .reset ∨
      ¬ Replaces event ∧ latest (event :: past) = latest past := by
  cases event with
  | pushed value => exact .inl ⟨value, rfl⟩
  | reset => exact .inr (.inl rfl)
  | _ => exact .inr (.inr ⟨by simp [Replaces], rfl⟩)

theorem latest_eq_loaded_iff {events : List (Event α ο γ)} {value : α} :
    latest events = .loaded value ↔
      ∃ later past, events = later ++ .pushed value :: past ∧
        ∀ event ∈ later, ¬ Replaces event := by
  induction events with
  | nil => simp [latest]
  | cons event past ih =>
      constructor
      · intro isLoaded
        rcases snapshot_cases event past with ⟨other, rfl⟩ | rfl | ⟨kept, same⟩
        · cases isLoaded
          exact ⟨[], past, rfl, by simp⟩
        · cases isLoaded
        · obtain ⟨later, before, rfl, unchanged⟩ := ih.mp (same ▸ isLoaded)
          refine ⟨event :: later, before, rfl, ?_⟩
          rintro other (_ | ⟨_, member⟩)
          · exact kept
          · exact unchanged other member
      · rintro ⟨later, before, split, unchanged⟩
        cases later with
        | nil =>
            cases split
            rfl
        | cons first later =>
            obtain ⟨rfl, rfl⟩ := List.cons.inj split
            have kept := unchanged event List.mem_cons_self
            rcases snapshot_cases event (later ++ .pushed value :: before) with
              ⟨other, rfl⟩ | rfl | ⟨-, same⟩
            · exact absurd (.inr ⟨other, rfl⟩) kept
            · exact absurd (.inl rfl) kept
            · refine same.trans (ih.mpr ?_)
              exact ⟨later, before, rfl, fun other member =>
                unchanged other (List.mem_cons_of_mem event member)⟩

theorem latest_eq_notLoaded_iff {events : List (Event α ο γ)} :
    latest events = .notLoaded ↔
      ∀ later value past, events = later ++ .pushed value :: past → .reset ∈ later := by
  induction events with
  | nil => simp [latest]
  | cons event past ih =>
      rcases snapshot_cases event past with ⟨value, rfl⟩ | rfl | ⟨kept, same⟩
      · refine ⟨fun impossible => (nomatch impossible), fun all => ?_⟩
        exact absurd (all [] value past rfl) List.not_mem_nil
      · refine ⟨fun _ later value before split => ?_, fun _ => rfl⟩
        cases later with
        | nil => cases split
        | cons first later =>
            rw [← (List.cons.inj split).1]
            exact List.mem_cons_self
      · rw [same, ih]
        constructor
        · intro all later value before split
          cases later with
          | nil => exact absurd (.inr ⟨value, (List.cons.inj split).1⟩) kept
          | cons first later =>
              exact List.mem_cons_of_mem first (all later value before (List.cons.inj split).2)
        · intro all later value before split
          rcases List.mem_cons.mp (all (event :: later) value before (split ▸ rfl)) with
            isReset | member
          · exact absurd (.inl isReset.symm) kept
          · exact member

theorem isSnapshotOf_latest (events : List (Event α ο γ)) :
    IsSnapshotOf (latest events) events :=
  ⟨fun _ => latest_eq_loaded_iff, latest_eq_notLoaded_iff⟩

/-! ## The observers of a history -/

section Registrations

variable [DecidableEq ο]

/-- An observer is registered when the last event registers it, or when it was
registered and is not removed. -/
theorem mem_registered_cons_iff {event : Event α ο γ} {past : List (Event α ο γ)}
    {observer : ο} :
    observer ∈ registered (event :: past) ↔
      Enrolls event observer ∨ observer ∈ registered past ∧ ¬ Removes event observer := by
  constructor
  · intro member
    have earlier : observer ∈ registered ([event] ++ past) := member
    rcases registered_append earlier with present | ⟨_, single, enrolls⟩
    · by_cases removes : Removes event observer
      · rcases removes with rfl | ⟨guard, rfl⟩ | rfl <;> simp [registered] at member
      · exact .inr ⟨present, removes⟩
    · rw [List.mem_singleton.mp single] at enrolls
      exact .inl enrolls
  · rintro (enrolls | ⟨present, kept⟩)
    · exact registered_of_enrolls enrolls
    · rcases registered_or_ends present event with still | isUnsubscribed | isReset | isEnded
      · exact still
      · exact absurd (.inl isUnsubscribed) kept
      · exact absurd (.inr (.inr isReset)) kept
      · exact absurd (.inr (.inl isEnded)) kept

theorem mem_registered_iff {events : List (Event α ο γ)} {observer : ο} :
    observer ∈ registered events ↔
      ∃ later event past, events = later ++ event :: past ∧ Enrolls event observer ∧
        ∀ next ∈ later, ¬ Removes next observer := by
  induction events with
  | nil => simp [registered]
  | cons event past ih =>
      rw [mem_registered_cons_iff, ih]
      constructor
      · rintro (enrolls | ⟨⟨later, first, before, rfl, enrolls, unremoved⟩, kept⟩)
        · exact ⟨[], event, past, rfl, enrolls, by simp⟩
        · refine ⟨event :: later, first, before, rfl, enrolls, ?_⟩
          rintro next (_ | ⟨_, member⟩)
          · exact kept
          · exact unremoved next member
      · rintro ⟨later, first, before, split, enrolls, unremoved⟩
        cases later with
        | nil =>
            obtain ⟨rfl, rfl⟩ := List.cons.inj split
            exact .inl enrolls
        | cons last later =>
            obtain ⟨rfl, rfl⟩ := List.cons.inj split
            exact .inr ⟨⟨later, first, before, rfl, enrolls, fun next member =>
              unremoved next (List.mem_cons_of_mem event member)⟩,
              unremoved event List.mem_cons_self⟩

omit [DecidableEq ο] in
theorem Joined.lt_length {events : List (Event α ο γ)} {observer : ο} {time : Nat}
    (joined : Joined events observer time) : time < events.length := by
  obtain ⟨later, event, past, rfl, rfl, -⟩ := joined
  simp only [List.length_append, List.length_cons]
  omega

omit [DecidableEq ο] in
/-- Who has joined stays joined until it is removed. -/
theorem Joined.cons {past : List (Event α ο γ)} {observer : ο} {time : Nat}
    (joined : Joined past observer time) {event : Event α ο γ}
    (kept : ¬ Removes event observer) : Joined (event :: past) observer time := by
  obtain ⟨later, first, before, rfl, isTime, enrolls, unremoved, earliest⟩ := joined
  refine ⟨event :: later, first, before, rfl, isTime, enrolls, ?_, earliest⟩
  rintro next (_ | ⟨_, member⟩)
  · exact kept
  · exact unremoved next member

/-- Who was registered does not join anew. -/
theorem Joined.of_cons {event : Event α ο γ} {past : List (Event α ο γ)} {observer : ο}
    {time : Nat} (joined : Joined (event :: past) observer time)
    (present : observer ∈ registered past) : Joined past observer time := by
  obtain ⟨later, first, before, split, isTime, enrolls, unremoved, earliest⟩ := joined
  cases later with
  | nil =>
      obtain ⟨rfl, rfl⟩ := List.cons.inj split
      obtain ⟨between, earlier, behind, split, enrolled, kept⟩ := mem_registered_iff.mp present
      obtain ⟨next, member, removes⟩ := earliest between earlier behind split enrolled
      exact absurd removes (kept next member)
  | cons last later =>
      obtain ⟨rfl, rfl⟩ := List.cons.inj split
      exact ⟨later, first, before, rfl, isTime, enrolls, fun next member =>
        unremoved next (List.mem_cons_of_mem event member), earliest⟩

/-- Who was not registered joins with its registration. -/
theorem joined_of_enrolls {event : Event α ο γ} {past : List (Event α ο γ)} {observer : ο}
    (enrolls : Enrolls event observer) (absent : observer ∉ registered past) :
    Joined (event :: past) observer past.length := by
  refine ⟨[], event, past, rfl, rfl, enrolls, by simp, ?_⟩
  intro between earlier before split enrolled
  by_contra kept
  push Not at kept
  exact absent (mem_registered_iff.mpr ⟨between, earlier, before, split, enrolled, kept⟩)

theorem exists_joined {events : List (Event α ο γ)} {observer : ο}
    (present : observer ∈ registered events) : ∃ time, Joined events observer time := by
  induction events with
  | nil => exact absurd present List.not_mem_nil
  | cons event past ih =>
      by_cases before : observer ∈ registered past
      · obtain ⟨time, joined⟩ := ih before
        rcases mem_registered_cons_iff.mp present with enrolls | ⟨-, kept⟩
        · refine ⟨time, joined.cons ?_⟩
          rcases enrolls with rfl | ⟨guard, rfl⟩ <;> simp [Removes]
        · exact ⟨time, joined.cons kept⟩
      · rcases mem_registered_cons_iff.mp present with enrolls | ⟨still, -⟩
        · exact ⟨past.length, joined_of_enrolls enrolls before⟩
        · exact absurd still before

/-- An event puts an observer behind the others that are registered, or only takes
observers away. -/
theorem registered_cons_cases (event : Event α ο γ) (past : List (Event α ο γ)) :
    (∃ observer, observer ∉ registered past ∧
        registered (event :: past) = registered past ++ [observer]) ∨
      (registered (event :: past)).Sublist (registered past) := by
  have enrolled (observer : ο) :
      (∃ other, other ∉ registered past ∧
          enroll observer (registered past) = registered past ++ [other]) ∨
        (enroll observer (registered past)).Sublist (registered past) := by
    unfold enroll
    split
    · exact .inr (List.Sublist.refl _)
    · rename_i absent
      exact .inl ⟨observer, absent, rfl⟩
  cases event with
  | subscribed observer => exact enrolled observer
  | scopeBegun guard observer => exact enrolled observer
  | unsubscribed observer => exact .inr List.filter_sublist
  | scopeEnded guard observer => exact .inr List.filter_sublist
  | reset => exact .inr (List.nil_sublist _)
  | _ => exact .inr (List.Sublist.refl _)

/-- Observers stand in the order in which they joined. -/
theorem pairwise_registered (events : List (Event α ο γ)) :
    (registered events).Pairwise fun first second =>
      ∀ early late, Joined events first early → Joined events second late → early < late := by
  induction events with
  | nil => exact List.Pairwise.nil
  | cons event past ih =>
      have before : (registered past).Pairwise fun first second =>
          ∀ early late, Joined (event :: past) first early →
            Joined (event :: past) second late → early < late := by
        refine ih.imp_of_mem ?_
        intro first second isFirst isSecond order early late joined joinedLate
        exact order early late (joined.of_cons isFirst) (joinedLate.of_cons isSecond)
      rcases registered_cons_cases event past with ⟨observer, absent, more⟩ | less
      · rw [more, List.pairwise_append]
        refine ⟨before, List.pairwise_singleton _ _, ?_⟩
        intro first isFirst last single early late joined joinedLast
        rw [List.mem_singleton.mp single] at joinedLast
        have soon := (joined.of_cons isFirst).lt_length
        obtain ⟨later, enrollment, earlier, split, rfl, enrolls, unremoved, -⟩ := joinedLast
        cases later with
        | nil =>
            rw [(List.cons.inj split).2] at soon
            exact soon
        | cons next later =>
            obtain ⟨rfl, rfl⟩ := List.cons.inj split
            refine absurd (mem_registered_iff.mpr ⟨later, enrollment, earlier, rfl, enrolls, ?_⟩)
              absent
            exact fun next member => unremoved next (List.mem_cons_of_mem event member)
      · exact before.sublist less

theorem areObserversOf_registered (events : List (Event α ο γ)) :
    AreObserversOf (registered events) events :=
  ⟨nodup_registered events, fun _ => mem_registered_iff, fun _ => exists_joined,
    pairwise_registered events⟩

end Registrations

end History

open History

variable {α ο γ : Type} [DecidableEq ο] [DecidableEq γ]

/-! ## What is read from a store -/

omit [DecidableEq γ] in
/-- What was read from the store is what its history said then. -/
structure Truthful (events : List (Event α ο γ)) : Prop where
  current : ∀ later snapshot past, events = later ++ .readCurrent snapshot :: past →
    snapshot = latest past
  count : ∀ later count past, events = later ++ .readCount count :: past →
    count = (registered past).length

omit [DecidableEq γ] in
/-- One more event is truthful if it is no reading of something else. -/
theorem Truthful.cons {past : List (Event α ο γ)} (truthful : Truthful past)
    {event : Event α ο γ}
    (current : ∀ snapshot, event = .readCurrent snapshot → snapshot = latest past)
    (count : ∀ count, event = .readCount count → count = (registered past).length) :
    Truthful (event :: past) where
  current later snapshot before split := by
    cases later with
    | nil =>
        obtain ⟨isEvent, rfl⟩ := List.cons.inj split
        exact current snapshot isEvent
    | cons first later => exact truthful.current later snapshot before (List.cons.inj split).2
  count later number before split := by
    cases later with
    | nil =>
        obtain ⟨isEvent, rfl⟩ := List.cons.inj split
        exact count number isEvent
    | cons first later => exact truthful.count later number before (List.cons.inj split).2

/-- The snapshot of a run is the one its history leads to, and so was all that was
read. -/
structure Reads (run : Run α ο γ) : Prop where
  current : run.store.current = latest run.events
  truthful : Truthful run.events

omit [DecidableEq γ] in
/-- An event that is no push, no reset and no reading changes nothing that can be
read. -/
theorem Reads.extend {run after : Run α ο γ} (reads : Reads run) {event : Event α ο γ}
    (more : after.events = event :: run.events)
    (same : after.store.current = run.store.current)
    (quiet : latest (event :: run.events) = latest run.events)
    (noReading : (∀ snapshot, event ≠ .readCurrent snapshot) ∧ ∀ count, event ≠ .readCount count) :
    Reads after where
  current := by rw [same, more, quiet, reads.current]
  truthful := by
    rw [more]
    exact reads.truthful.cons (fun snapshot isReading => absurd isReading (noReading.1 snapshot))
      (fun count isReading => absurd isReading (noReading.2 count))

theorem Reads.endScope {run : Run α ο γ} (reads : Reads run) (guard : γ) :
    Reads (run.endScope guard) := by
  unfold Run.endScope
  split
  · exact reads
  · exact reads.extend rfl rfl rfl (by simp)

theorem Reads.beginScope {run : Run α ο γ} (reads : Reads run) (guard : γ) (observer : ο) :
    Reads (run.beginScope guard observer) := by
  have begun : Reads
      ((run.update (Store.subscribe observer)).record (.scopeBegun guard observer)) :=
    reads.extend rfl (current_subscribe observer run.store) rfl (by simp)
  have ended := begun.endScope guard
  exact ⟨ended.current, ended.truthful⟩

/-- An action changes the snapshot as it changes the history, and reads what the
history says. -/
theorem Reads.perform {run : Run α ο γ} (reads : Reads run) (agrees : Agrees run)
    (action : Action α ο γ) : Reads (run.perform action) := by
  cases action with
  | subscribe observer =>
      exact reads.extend rfl (current_subscribe observer run.store) rfl (by simp)
  | unsubscribe observer => exact reads.extend rfl rfl rfl (by simp)
  | push value => exact ⟨rfl, reads.truthful.cons (by simp) (by simp)⟩
  | scope guard observer => exact reads.beginScope guard observer
  | dropGuard guard => exact reads.endScope guard
  | reset => exact ⟨rfl, reads.truthful.cons (by simp) (by simp)⟩
  | readCurrent =>
      refine ⟨reads.current, reads.truthful.cons ?_ (by simp)⟩
      rintro _ ⟨⟩
      exact reads.current
  | readCount =>
      refine ⟨reads.current, reads.truthful.cons (by simp) ?_⟩
      rintro _ ⟨⟩
      exact congrArg List.length agrees.observers
  | describe => exact reads.extend rfl rfl rfl (by simp)
  | fail => exact reads

/-- At every moment what can be read is what the history says. -/
theorem reads_of_moment {script : Script α ο γ} {run : Run α ο γ} {stage : Stage α ο γ}
    (moment : Moment script run stage) : Reads run := by
  induction moment with
  | unused => exact ⟨rfl, fun later _ _ split => absurd split.symm (by simp [Run.empty]),
      fun later _ _ split => absurd split.symm (by simp [Run.empty])⟩
  | owner action here ih => exact ih.perform (agrees_of_moment here) action
  | settle here idle ih => exact ⟨ih.current, ih.truthful⟩
  | start here next ih => exact ih.extend rfl rfl rfl (by simp)
  | call here ih => exact ih.extend rfl rfl rfl (by simp)
  | act here going ih => exact ih.perform (agrees_of_moment here) _
  | cut here ih => exact ih.extend rfl rfl rfl (by simp)
  | finish here ih => exact ih.extend rfl rfl rfl (by simp)

/-- At every moment of every run the snapshot and the observers are those of the
history, and every reading has given what the history said then.  Who is registered
keeps its place when it is registered again, and nothing changes when somebody else
is removed. -/
theorem readable_state_of_history {script : Script α ο γ} {run : Run α ο γ}
    {stage : Stage α ο γ} (moment : Moment script run stage) :
    IsSnapshotOf run.store.current run.events ∧
      AreObserversOf run.store.observers run.events ∧
      (∀ later snapshot past, run.events = later ++ .readCurrent snapshot :: past →
        IsSnapshotOf snapshot past) ∧
      (∀ later count past, run.events = later ++ .readCount count :: past →
        ∃ observers, AreObserversOf observers past ∧ count = observers.length) ∧
      (∀ observer ∈ run.store.observers,
        (run.perform (.subscribe observer)).store = run.store) ∧
      ∀ observer ∉ run.store.observers,
        (run.perform (.unsubscribe observer)).store = run.store := by
  have reads := reads_of_moment moment
  refine ⟨?_, ?_, ?_, ?_, ?_, ?_⟩
  · rw [reads.current]
    exact isSnapshotOf_latest run.events
  · rw [(agrees_of_moment moment).observers]
    exact areObserversOf_registered run.events
  · intro later snapshot past split
    rw [reads.truthful.current later snapshot past split]
    exact isSnapshotOf_latest past
  · intro later count past split
    exact ⟨registered past, areObserversOf_registered past,
      reads.truthful.count later count past split⟩
  · intro observer present
    exact if_pos present
  · intro observer absent
    have kept : run.store.observers.filter (· ≠ observer) = run.store.observers := by
      rw [List.filter_eq_self]
      intro other member
      have different : other ≠ observer := by
        rintro rfl
        exact absent member
      simpa using different
    simp only [Run.perform, Run.store_record, Run.store_update, Store.unsubscribe, kept]

/-- Observer `0` pushes `2` when it is told `1`, and lets observer `1` in.  Observer `1`
resets the store when it is told `2`, lets observers `3` to `5` in, takes two of them out
again, one by its guard, pushes `4` and fails. -/
def upheave : Script Nat Nat Nat := fun _ observer value =>
  if observer = 0 ∧ value = 1 then [.push 2, .subscribe 1, .readCurrent]
  else if observer = 1 ∧ value = 2 then
    [.reset, .scope 0 3, .subscribe 4, .scope 1 5, .unsubscribe 4, .dropGuard 1, .push 4,
      .readCount, .fail]
  else []

/-- What the owner does around an upheaval and behind it: observers join, two of them are
taken out, one by its guard, and one of these joins again. -/
def upheaving : List (Action Nat Nat Nat) :=
  [.subscribe 0, .push 1, .subscribe 6, .scope 2 7, .subscribe 8, .subscribe 3, .unsubscribe 6,
    .dropGuard 2, .unsubscribe 9, .subscribe 6]

/-- What comes of an upheaval. -/
def upheaval : Run Nat Nat Nat :=
  (Run.steps upheave 3 upheaving Run.empty).getD Run.empty

theorem moment_upheaval : Moment upheave upheaval .rest := by
  have done : Run.steps upheave 3 upheaving Run.empty = some upheaval := rfl
  exact Moment.unused.steps done

/-- The value that was given up is the snapshot.  The observer of the scope has kept its
registration and its place, those that were taken out are gone, and who has joined again
stands last.  Inside the upheaval one observer was counted. -/
theorem readable_state_of_upheaval :
    Moment upheave upheaval .rest ∧ IsSnapshotOf (.loaded 4) upheaval.events ∧
      AreObserversOf [3, 8, 6] upheaval.events ∧
      .unsubscribed 6 ∈ upheaval.events ∧ .scopeEnded 2 7 ∈ upheaval.events ∧
      ∃ later past observers, upheaval.events = later ++ .readCount 1 :: past ∧
        .unsubscribed 4 ∈ past ∧ .scopeEnded 1 5 ∈ past ∧
        AreObserversOf observers past ∧ observers.length = 1 := by
  obtain ⟨current, observers, -, counted, -⟩ := readable_state_of_history moment_upheaval
  have isCurrent : upheaval.store.current = .loaded 4 := rfl
  have isObservers : upheaval.store.observers = [3, 8, 6] := rfl
  have split : upheaval.events =
      upheaval.events.take 9 ++ .readCount 1 :: upheaval.events.drop 10 := by
    decide
  obtain ⟨inside, areObservers, count⟩ := counted _ _ _ split
  exact ⟨moment_upheaval, isCurrent ▸ current, isObservers ▸ observers, by decide, by decide,
    _, _, inside, split, by decide, by decide, areObservers, count.symm⟩

end JobConsole.Store
