import JobConsole.Proofs.Store.Moment
import Mathlib.Data.List.Nodup

/-!
# Reading a history

The events of a run, the last one first, tell what the run has come to: the
values that were pushed, in the order of the push calls, by which the pushes are
numbered from zero; the pushes that still wait; the observers that are
registered; and the passes, each with the number of the push it belongs to.

Nothing here looks at a store.  That the store of a run is the one its history
speaks of is the subject of `JobConsole.Proofs.Store.Delivery`.
-/

namespace JobConsole.Store.History

variable {α ο γ : Type}

/-- The values that were pushed, in the order of the push calls. -/
def pushed : List (Event α ο γ) → List α
  | [] => []
  | .pushed value :: past => pushed past ++ [value]
  | _ :: past => pushed past

/-- The pushes that wait for their pass, each with its number. -/
def waiting : List (Event α ο γ) → List (Nat × α)
  | [] => []
  | .pushed value :: past => waiting past ++ [((pushed past).length, value)]
  | .passStarted _ _ :: past => (waiting past).tail
  | .passCut :: _ => []
  | .reset :: _ => []
  | _ :: past => waiting past

/-- What a history says of a pass: the number of its push, its value, the
observers that were registered when it started, the calls in their order, and
how it ended. -/
structure Pass (α ο : Type) where
  number : Option Nat
  value : α
  observers : List ο
  calls : List (ο × α)
  ending : Option Run.Ending
deriving DecidableEq

namespace Pass

variable {α ο : Type}

/-- The calls of a pass that tells everyone. -/
def due (pass : Pass α ο) : List (ο × α) :=
  pass.observers.map (·, pass.value)

/-- The pass with one more call. -/
def tell (observer : ο) (value : α) (pass : Pass α ο) : Pass α ο :=
  { pass with calls := pass.calls ++ [(observer, value)] }

/-- The pass when it is over. -/
def close (ending : Run.Ending) (pass : Pass α ο) : Pass α ο :=
  { pass with ending := some ending }

end Pass

section Registrations

variable [DecidableEq ο]

/-- The observers with one more, who stands behind the others unless it is one
of them. -/
def enroll (observer : ο) (observers : List ο) : List ο :=
  if observer ∈ observers then observers else observers ++ [observer]

/-- The observers that are registered, in the order of their registration. -/
def registered : List (Event α ο γ) → List ο
  | [] => []
  | .subscribed observer :: past => enroll observer (registered past)
  | .scopeBegun _ observer :: past => enroll observer (registered past)
  | .unsubscribed observer :: past => (registered past).filter (· ≠ observer)
  | .scopeEnded _ observer :: past => (registered past).filter (· ≠ observer)
  | .reset :: _ => []
  | _ :: past => registered past

/-- The passes of a history, the last one first. -/
def passes : List (Event α ο γ) → List (Pass α ο)
  | [] => []
  | .passStarted value _ :: past =>
      ⟨(waiting past).head?.map Prod.fst, value, registered past, [], none⟩ :: passes past
  | .called observer value :: past => (passes past).modifyHead (Pass.tell observer value)
  | .passEnded :: past => (passes past).modifyHead (Pass.close .finished)
  | .passCut :: past => (passes past).modifyHead (Pass.close .failed)
  | _ :: past => passes past

end Registrations

/-! ## Numbers -/

theorem pushed_append (later past : List (Event α ο γ)) :
    pushed (later ++ past) = pushed past ++ pushed later := by
  induction later with
  | nil => exact (List.append_nil _).symm
  | cons event later ih =>
      cases event with
      | pushed value => rw [List.cons_append, pushed, pushed, ih, List.append_assoc]
      | _ => exact ih

/-- Whether an event makes the store give up the pushes that wait. -/
def GivesUp (event : Event α ο γ) : Prop :=
  event = .reset ∨ event = .passCut

section Numbers

variable [DecidableEq ο]

/-- The numbers of the passes, the last one first. -/
def numbers (events : List (Event α ο γ)) : List (Option Nat) :=
  (passes events).map Pass.number

omit [DecidableEq ο] in
theorem map_number_modifyHead {change : Pass α ο → Pass α ο}
    (same : ∀ pass, (change pass).number = pass.number) (list : List (Pass α ο)) :
    (list.modifyHead change).map Pass.number = list.map Pass.number := by
  cases list with
  | nil => rfl
  | cons pass rest => simp [same]

/-- An event is a push, the start of a pass, or changes neither the pushes nor
the numbers of the passes; then what waits stays as it is or is given up. -/
theorem event_cases (event : Event α ο γ) (past : List (Event α ο γ)) :
    (∃ value, event = .pushed value) ∨ (∃ value observers, event = .passStarted value observers) ∨
      pushed (event :: past) = pushed past ∧ numbers (event :: past) = numbers past ∧
        (waiting (event :: past) = waiting past ∨
          waiting (event :: past) = [] ∧ GivesUp event) := by
  have told (observer : ο) (value : α) :
      ((passes past).modifyHead (Pass.tell observer value)).map Pass.number = numbers past := by
    apply map_number_modifyHead
    exact fun _ => rfl
  have closed (ending : Run.Ending) :
      ((passes past).modifyHead (Pass.close ending)).map Pass.number = numbers past := by
    apply map_number_modifyHead
    exact fun _ => rfl
  cases event with
  | pushed value => exact .inl ⟨value, rfl⟩
  | passStarted value observers => exact .inr (.inl ⟨value, observers, rfl⟩)
  | called observer value => exact .inr (.inr ⟨rfl, told observer value, .inl rfl⟩)
  | passEnded => exact .inr (.inr ⟨rfl, closed .finished, .inl rfl⟩)
  | passCut => exact .inr (.inr ⟨rfl, closed .failed, .inr ⟨rfl, .inr rfl⟩⟩)
  | reset => exact .inr (.inr ⟨rfl, rfl, .inr ⟨rfl, .inl rfl⟩⟩)
  | _ => exact .inr (.inr ⟨rfl, rfl, .inl rfl⟩)

/-- A push that waits has been made, with the value that waits. -/
theorem pushed_of_mem_waiting {events : List (Event α ο γ)} {number : Nat} {value : α}
    (waits : (number, value) ∈ waiting events) : (pushed events)[number]? = some value := by
  induction events with
  | nil => simp [waiting] at waits
  | cons event past ih =>
      rcases event_cases event past with ⟨last, rfl⟩ | ⟨told, observers, rfl⟩ |
        ⟨samePushed, -, sameWaiting | ⟨noneWaits, -⟩⟩
      · simp only [waiting, List.mem_append, List.mem_singleton, Prod.mk.injEq] at waits
        rcases waits with waits | ⟨rfl, rfl⟩
        · have made := ih waits
          obtain ⟨bound, -⟩ := List.getElem?_eq_some_iff.mp made
          rw [pushed, List.getElem?_append_left bound]
          exact made
        · simp [pushed]
      · exact ih (List.mem_of_mem_tail waits)
      · rw [sameWaiting] at waits
        rw [samePushed]
        exact ih waits
      · rw [noneWaits] at waits
        exact absurd waits List.not_mem_nil

/-- Pushes wait in the order of their calls. -/
theorem pairwise_waiting (events : List (Event α ο γ)) :
    (waiting events).Pairwise fun first second => first.1 < second.1 := by
  induction events with
  | nil => exact List.Pairwise.nil
  | cons event past ih =>
      rcases event_cases event past with ⟨last, rfl⟩ | ⟨told, observers, rfl⟩ |
        ⟨-, -, sameWaiting | ⟨noneWaits, -⟩⟩
      · rw [waiting, List.pairwise_append]
        refine ⟨ih, List.pairwise_singleton _ _, ?_⟩
        rintro ⟨number, value⟩ waits _ last
        rw [List.mem_singleton.mp last]
        exact (List.getElem?_eq_some_iff.mp (pushed_of_mem_waiting waits)).1
      · exact ih.tail
      · rw [sameWaiting]
        exact ih
      · rw [noneWaits]
        exact List.Pairwise.nil

/-- The push of a pass has been made, and before all that wait. -/
theorem lt_of_mem_numbers {events : List (Event α ο γ)} {number : Nat}
    (told : some number ∈ numbers events) :
    number < (pushed events).length ∧ ∀ waits ∈ waiting events, number < waits.1 := by
  induction events with
  | nil => simp [numbers, passes] at told
  | cons event past ih =>
      rcases event_cases event past with ⟨last, rfl⟩ | ⟨value, observers, rfl⟩ |
        ⟨samePushed, sameNumbers, sameWaiting | ⟨noneWaits, -⟩⟩
      · obtain ⟨made, earlier⟩ := ih told
        simp only [pushed, waiting, List.length_append, List.length_singleton, List.mem_append,
          List.mem_singleton]
        refine ⟨Nat.lt_succ_of_lt made, ?_⟩
        rintro waits (before | rfl)
        · exact earlier waits before
        · exact made
      · have sorted := pairwise_waiting past
        simp only [numbers, passes, List.map_cons, List.mem_cons] at told
        simp only [pushed, waiting]
        cases queue : waiting past with
        | nil =>
            rw [queue] at told
            rcases told with impossible | told
            · cases impossible
            · exact ⟨(ih told).1, by simp⟩
        | cons first rest =>
            rw [queue, List.pairwise_cons] at sorted
            rw [queue] at told
            have firstMade := pushed_of_mem_waiting (queue ▸ List.mem_cons_self :
              (first.1, first.2) ∈ waiting past)
            rcases told with same | told
            · cases Option.some.inj same
              exact ⟨(List.getElem?_eq_some_iff.mp firstMade).1, sorted.1⟩
            · obtain ⟨made, earlier⟩ := ih told
              refine ⟨made, fun waits member => ?_⟩
              rw [List.tail_cons] at member
              exact earlier waits (queue ▸ List.mem_cons_of_mem first member)
      · rw [sameNumbers] at told
        rw [samePushed, sameWaiting]
        exact ih told
      · rw [sameNumbers] at told
        rw [samePushed, noneWaits]
        exact ⟨(ih told).1, fun waits member => absurd member List.not_mem_nil⟩

/-- Passes start in the order of the push calls, and no push has two. -/
theorem pairwise_numbers (events : List (Event α ο γ)) :
    (numbers events).Pairwise fun later earlier =>
      ∀ first second, earlier = some first → later = some second → first < second := by
  induction events with
  | nil => exact List.Pairwise.nil
  | cons event past ih =>
      rcases event_cases event past with ⟨last, rfl⟩ | ⟨value, observers, rfl⟩ |
        ⟨-, sameNumbers, -⟩
      · exact ih
      · refine List.pairwise_cons.mpr ⟨?_, ih⟩
        intro earlier member first second isFirst isSecond
        subst isFirst
        obtain ⟨waits, isHead, rfl⟩ := Option.map_eq_some_iff.mp isSecond
        exact (lt_of_mem_numbers member).2 waits (List.mem_of_head? isHead)
      · rw [sameNumbers]
        exact ih

omit [DecidableEq ο] in
/-- A push that has been made and does not wait never waits again. -/
theorem not_mem_waiting_append {later past : List (Event α ο γ)} {number : Nat}
    (made : number < (pushed past).length) (gone : number ∉ (waiting past).map Prod.fst) :
    number < (pushed (later ++ past)).length ∧
      number ∉ (waiting (later ++ past)).map Prod.fst := by
  classical
  induction later with
  | nil => exact ⟨made, gone⟩
  | cons event later ih =>
      obtain ⟨made, gone⟩ := ih
      rw [List.cons_append]
      rcases event_cases event (later ++ past) with ⟨last, rfl⟩ | ⟨value, observers, rfl⟩ |
        ⟨samePushed, -, sameWaiting | ⟨noneWaits, -⟩⟩
      · simp only [pushed, waiting, List.length_append, List.length_singleton, List.map_append,
          List.map_cons, List.map_nil, List.mem_append, List.mem_singleton, not_or]
        exact ⟨Nat.lt_succ_of_lt made, gone, Nat.ne_of_lt made⟩
      · refine ⟨made, fun waits => gone ?_⟩
        rw [waiting, List.map_tail] at waits
        exact List.mem_of_mem_tail waits
      · rw [samePushed, sameWaiting]
        exact ⟨made, gone⟩
      · rw [samePushed, noneWaits]
        exact ⟨made, List.not_mem_nil⟩

/-- A push was given up when it waited at an event that gives up all that
waits. -/
def GivenUp (number : Nat) (events : List (Event α ο γ)) : Prop :=
  ∃ later event past, events = later ++ event :: past ∧ GivesUp event ∧
    number ∈ (waiting past).map Prod.fst

omit [DecidableEq ο] in
theorem GivenUp.append {number : Nat} {events : List (Event α ο γ)}
    (given : GivenUp number events) (more : List (Event α ο γ)) :
    GivenUp number (more ++ events) := by
  obtain ⟨later, cause, past, rfl, givesUp, waits⟩ := given
  exact ⟨more ++ later, cause, past, (List.append_assoc more later _).symm, givesUp, waits⟩

/-- A push waits, has a pass, or was given up. -/
theorem waits_or_told_or_givenUp {events : List (Event α ο γ)} {number : Nat}
    (made : number < (pushed events).length) :
    number ∈ (waiting events).map Prod.fst ∨ some number ∈ numbers events ∨
      GivenUp number events := by
  induction events with
  | nil => simp [pushed] at made
  | cons event past ih =>
      rcases event_cases event past with ⟨last, rfl⟩ | ⟨value, observers, rfl⟩ |
        ⟨samePushed, sameNumbers, sameWaiting | ⟨noneWaits, givesUp⟩⟩
      · simp only [pushed, List.length_append, List.length_singleton] at made
        simp only [waiting, List.map_append, List.map_cons, List.map_nil, List.mem_append,
          List.mem_singleton]
        rcases Nat.lt_succ_iff_lt_or_eq.mp made with before | rfl
        · rcases ih before with waits | told | given
          · exact .inl (.inl waits)
          · exact .inr (.inl told)
          · exact .inr (.inr (given.append [_]))
        · exact .inl (.inr rfl)
      · rcases ih made with waits | told | given
        · simp only [numbers, passes, waiting, List.map_cons, List.mem_cons]
          cases queue : waiting past with
          | nil =>
              rw [queue] at waits
              exact absurd waits List.not_mem_nil
          | cons first rest =>
              rw [queue, List.map_cons, List.mem_cons] at waits
              rcases waits with rfl | waits
              · exact .inr (.inl (.inl rfl))
              · exact .inl waits
        · exact .inr (.inl (List.mem_cons_of_mem _ told))
        · exact .inr (.inr (given.append [_]))
      · rw [samePushed] at made
        rw [sameNumbers, sameWaiting]
        rcases ih made with waits | told | given
        · exact .inl waits
        · exact .inr (.inl told)
        · exact .inr (.inr (given.append [_]))
      · rw [samePushed] at made
        rw [sameNumbers]
        rcases ih made with waits | told | given
        · exact .inr (.inr ⟨[], event, past, rfl, givesUp, waits⟩)
        · exact .inr (.inl told)
        · exact .inr (.inr (given.append [_]))

end Numbers

/-! ## Passes -/

section Passes

variable [DecidableEq ο]

/-- No observer is registered twice. -/
theorem nodup_registered (events : List (Event α ο γ)) : (registered events).Nodup := by
  have enrolled {observer : ο} {observers : List ο} (nodup : observers.Nodup) :
      (enroll observer observers).Nodup := by
    unfold enroll
    split
    · exact nodup
    · rename_i fresh
      exact List.nodup_append.mpr ⟨nodup, List.nodup_singleton _, by
        rintro a member b single rfl
        exact fresh (List.mem_singleton.mp single ▸ member)⟩
  induction events with
  | nil => exact List.nodup_nil
  | cons event past ih =>
      cases event with
      | subscribed observer => exact enrolled ih
      | scopeBegun guard observer => exact enrolled ih
      | unsubscribed observer => exact ih.filter _
      | scopeEnded guard observer => exact ih.filter _
      | reset => exact List.nodup_nil
      | _ => exact ih

/-- What two records of one pass have in common. -/
structure Pass.Same (before after : Pass α ο) : Prop where
  number : after.number = before.number
  value : after.value = before.value
  observers : after.observers = before.observers

omit [DecidableEq ο] in
theorem mem_of_mem_modifyHead {change : Pass α ο → Pass α ο} {list : List (Pass α ο)}
    {pass : Pass α ο} (member : pass ∈ list.modifyHead change) :
    (∃ before ∈ list, pass = change before) ∨ pass ∈ list := by
  cases list with
  | nil => exact absurd member List.not_mem_nil
  | cons first rest =>
      rcases List.mem_cons.mp member with rfl | member
      · exact .inl ⟨first, List.mem_cons_self, rfl⟩
      · exact .inr (List.mem_cons_of_mem first member)

/-- A pass starts with the last event, or was there before; then it may have ended
with that event. -/
theorem mem_passes_cons {event : Event α ο γ} {past : List (Event α ο γ)} {pass : Pass α ο}
    (member : pass ∈ passes (event :: past)) :
    (∃ value observers, event = .passStarted value observers ∧
      pass = ⟨(waiting past).head?.map Prod.fst, value, registered past, [], none⟩) ∨
    ∃ before ∈ passes past, before.Same pass ∧
      (pass.ending = before.ending ∨ pass.ending = some .finished ∨
        event = .passCut ∧ pass.ending = some .failed) := by
  cases event with
  | passStarted value observers =>
      rcases List.mem_cons.mp member with rfl | member
      · exact .inl ⟨value, observers, rfl, rfl⟩
      · exact .inr ⟨pass, member, ⟨rfl, rfl, rfl⟩, .inl rfl⟩
  | called observer value =>
      rcases mem_of_mem_modifyHead member with ⟨before, earlier, rfl⟩ | member
      · exact .inr ⟨before, earlier, ⟨rfl, rfl, rfl⟩, .inl rfl⟩
      · exact .inr ⟨pass, member, ⟨rfl, rfl, rfl⟩, .inl rfl⟩
  | passEnded =>
      rcases mem_of_mem_modifyHead member with ⟨before, earlier, rfl⟩ | member
      · exact .inr ⟨before, earlier, ⟨rfl, rfl, rfl⟩, .inr (.inl rfl)⟩
      · exact .inr ⟨pass, member, ⟨rfl, rfl, rfl⟩, .inl rfl⟩
  | passCut =>
      rcases mem_of_mem_modifyHead member with ⟨before, earlier, rfl⟩ | member
      · exact .inr ⟨before, earlier, ⟨rfl, rfl, rfl⟩, .inr (.inr ⟨rfl, rfl⟩)⟩
      · exact .inr ⟨pass, member, ⟨rfl, rfl, rfl⟩, .inl rfl⟩
  | _ => exact .inr ⟨pass, member, ⟨rfl, rfl, rfl⟩, .inl rfl⟩

/-- A pass has a number already, or starts later; then it belongs to the first push
that waits, and to the observers that are registered. -/
theorem started_of_mem_passes_append {later past : List (Event α ο γ)} {pass : Pass α ο}
    (member : pass ∈ passes (later ++ past)) :
    pass.number ∈ numbers past ∨
      ∃ after observers before, later = after ++ .passStarted pass.value observers :: before ∧
        pass.number = (waiting (before ++ past)).head?.map Prod.fst ∧
        pass.observers = registered (before ++ past) := by
  induction later generalizing pass with
  | nil => exact .inl (List.mem_map.mpr ⟨pass, member, rfl⟩)
  | cons event later ih =>
      rw [List.cons_append] at member
      rcases mem_passes_cons member with ⟨value, observers, rfl, rfl⟩ | ⟨before, member, same, -⟩
      · exact .inr ⟨[], observers, later, rfl, rfl, rfl⟩
      · rw [same.number, same.value, same.observers]
        rcases ih member with told | ⟨after, observers, start, rfl, isFirst, areRegistered⟩
        · exact .inl told
        · exact .inr ⟨event :: after, observers, start, rfl, isFirst, areRegistered⟩

theorem started_of_mem_passes {events : List (Event α ο γ)} {pass : Pass α ο}
    (member : pass ∈ passes events) :
    ∃ after observers before, events = after ++ .passStarted pass.value observers :: before ∧
      pass.number = (waiting before).head?.map Prod.fst ∧ pass.observers = registered before := by
  rw [← List.append_nil events] at member
  rcases started_of_mem_passes_append member with impossible |
    ⟨after, observers, before, split, isFirst, areRegistered⟩
  · exact absurd impossible List.not_mem_nil
  · rw [List.append_nil] at isFirst areRegistered
    exact ⟨after, observers, before, split, isFirst, areRegistered⟩

/-- A push that was given up has no pass, and never gets one. -/
theorem not_told_of_givenUp {events : List (Event α ο γ)} {number : Nat}
    (given : GivenUp number events) : some number ∉ numbers events := by
  intro told
  obtain ⟨later, event, past, rfl, givesUp, waits⟩ := given
  obtain ⟨queued, isQueued, isNumber⟩ := List.mem_map.mp waits
  have made := (List.getElem?_eq_some_iff.mp (pushed_of_mem_waiting isQueued)).1
  obtain ⟨pass, member, own⟩ := List.mem_map.mp told
  have unchanged : numbers (event :: past) = numbers past ∧ pushed (event :: past) = pushed past ∧
      waiting (event :: past) = [] := by
    rcases givesUp with rfl | rfl
    · exact ⟨rfl, rfl, rfl⟩
    · obtain ⟨value, impossible⟩ | ⟨value, observers, impossible⟩ |
        ⟨samePushed, sameNumbers, -⟩ := event_cases (.passCut : Event α ο γ) past
      · cases impossible
      · cases impossible
      · exact ⟨sameNumbers, samePushed, rfl⟩
  obtain ⟨sameNumbers, samePushed, noneWaits⟩ := unchanged
  rcases started_of_mem_passes_append member with before | ⟨-, -, before, -, isFirst, -⟩
  · rw [own, sameNumbers, ← isNumber] at before
    exact absurd ((lt_of_mem_numbers before).2 queued isQueued) (Nat.lt_irrefl _)
  · have gone : queued.1 ∉ (waiting (before ++ event :: past)).map Prod.fst := by
      refine (not_mem_waiting_append ?_ ?_).2
      · rw [samePushed]
        exact made
      · rw [noneWaits]
        exact List.not_mem_nil
    rw [own, ← isNumber] at isFirst
    obtain ⟨head, isHead, isOwn⟩ := Option.map_eq_some_iff.mp isFirst.symm
    exact gone (isOwn ▸ List.mem_map_of_mem (List.mem_of_head? isHead))

theorem passCut_mem_of_failed {events : List (Event α ο γ)} {pass : Pass α ο}
    (member : pass ∈ passes events) (failed : pass.ending = some .failed) :
    .passCut ∈ events := by
  induction events generalizing pass with
  | nil => exact absurd member List.not_mem_nil
  | cons event past ih =>
      rcases mem_passes_cons member with ⟨value, observers, rfl, rfl⟩ |
        ⟨before, member, -, sameEnding | finished | ⟨rfl, -⟩⟩
      · cases failed
      · exact List.mem_cons_of_mem event (ih member (sameEnding.symm.trans failed))
      · cases finished.symm.trans failed
      · exact List.mem_cons_self

end Passes

end JobConsole.Store.History
