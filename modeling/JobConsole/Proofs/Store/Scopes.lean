import JobConsole.Proofs.Store.Recipients

/-!
# Scopes

A scope registers its observer when it begins and ends the registration when its
guard is dropped.  As an observer is registered at most once, overlapping scopes of
one observer share one registration, and the first of them to end takes it from the
others.  So a scope keeps its observer registered exactly as long as no other scope
of the same observer ends, or somebody registers the observer again behind that.

Scopes are numbered in the order in which they begin, since guards can be used
again.
-/

namespace JobConsole.Store

namespace History

variable {α ο γ : Type}

/-- A scope: its number, its guard and its observer. -/
structure Scope (ο γ : Type) where
  number : Nat
  guard : γ
  observer : ο
deriving DecidableEq

/-- The number of scopes that have begun. -/
def begun : List (Event α ο γ) → Nat
  | [] => 0
  | .scopeBegun _ _ :: past => begun past + 1
  | _ :: past => begun past

section Guards

variable [DecidableEq γ]

/-- The scopes that have not ended, the oldest one first.  Of two scopes with one
guard the older one ends. -/
def live : List (Event α ο γ) → List (Scope ο γ)
  | [] => []
  | .scopeBegun guard observer :: past => live past ++ [⟨begun past, guard, observer⟩]
  | .scopeEnded guard _ :: past => (live past).eraseP (·.guard = guard)
  | _ :: past => live past

/-- Scopes as a run holds them, the youngest one first. -/
def entries (scopes : List (Scope ο γ)) : List (γ × ο) :=
  (scopes.map fun scope => (scope.guard, scope.observer)).reverse

omit [DecidableEq γ] in
theorem entries_concat (scopes : List (Scope ο γ)) (scope : Scope ο γ) :
    entries (scopes ++ [scope]) = (scope.guard, scope.observer) :: entries scopes := by
  rw [entries, List.map_append, List.reverse_append]
  rfl

/-- The scope that ends when a guard is dropped. -/
def ending (guard : γ) (past : List (Event α ο γ)) : Option (Scope ο γ) :=
  (live past).find? (·.guard = guard)

/-- An event begins a scope, ends one, or has no part in the scopes. -/
theorem scope_cases (event : Event α ο γ) (past : List (Event α ο γ)) :
    (∃ guard observer, event = .scopeBegun guard observer) ∨
      begun (event :: past) = begun past ∧
        ((∃ guard observer, event = .scopeEnded guard observer) ∨
          live (event :: past) = live past) := by
  cases event with
  | scopeBegun guard observer => exact .inl ⟨guard, observer, rfl⟩
  | scopeEnded guard observer => exact .inr ⟨rfl, .inl ⟨guard, observer, rfl⟩⟩
  | _ => exact .inr ⟨rfl, .inr rfl⟩

omit [DecidableEq γ] in
theorem begun_le_begun_append (later past : List (Event α ο γ)) :
    begun past ≤ begun (later ++ past) := by
  classical
  induction later with
  | nil => exact Nat.le_refl _
  | cons event later ih =>
      rw [List.cons_append]
      rcases scope_cases event (later ++ past) with ⟨guard, observer, rfl⟩ | ⟨sameBegun, -⟩
      · exact Nat.le_succ_of_le ih
      · rw [sameBegun]
        exact ih

theorem lt_begun_of_mem_live {events : List (Event α ο γ)} {scope : Scope ο γ}
    (member : scope ∈ live events) : scope.number < begun events := by
  induction events with
  | nil => exact absurd member List.not_mem_nil
  | cons event past ih =>
      rcases scope_cases event past with ⟨guard, observer, rfl⟩ |
        ⟨sameBegun, ⟨guard, observer, rfl⟩ | sameLive⟩
      · rcases List.mem_append.mp member with member | single
        · exact Nat.lt_succ_of_lt (ih member)
        · rw [List.mem_singleton.mp single]
          exact Nat.lt_succ_self _
      · rw [sameBegun]
        exact ih (List.mem_of_mem_eraseP member)
      · rw [sameBegun]
        exact ih (sameLive ▸ member)

/-- No two scopes have one number. -/
theorem nodup_numbers_live (events : List (Event α ο γ)) :
    ((live events).map Scope.number).Nodup := by
  induction events with
  | nil => exact List.nodup_nil
  | cons event past ih =>
      rcases scope_cases event past with ⟨guard, observer, rfl⟩ |
        ⟨-, ⟨guard, observer, rfl⟩ | sameLive⟩
      · rw [live, List.map_append, List.map_singleton]
        refine ih.append (List.nodup_singleton _) ?_
        intro number earlier single
        obtain ⟨scope, member, rfl⟩ := List.mem_map.mp earlier
        have early := lt_begun_of_mem_live member
        rw [List.mem_singleton.mp single] at early
        exact absurd early (Nat.lt_irrefl _)
      · exact ih.sublist (List.Sublist.map _ List.eraseP_sublist)
      · rw [sameLive]
        exact ih

theorem mem_live_of_append (later : List (Event α ο γ)) {past : List (Event α ο γ)}
    {scope : Scope ο γ} (member : scope ∈ live (later ++ past))
    (early : scope.number < begun past) : scope ∈ live past := by
  induction later with
  | nil => exact member
  | cons event later ih =>
      rw [List.cons_append] at member
      rcases scope_cases event (later ++ past) with ⟨guard, observer, rfl⟩ |
        ⟨-, ⟨guard, observer, rfl⟩ | sameLive⟩
      · rcases List.mem_append.mp member with member | single
        · exact ih member
        · rw [List.mem_singleton.mp single] at early
          exact absurd (begun_le_begun_append later past) (Nat.not_le_of_gt early)
      · exact ih (List.mem_of_mem_eraseP member)
      · exact ih (sameLive ▸ member)

/-- The scope that ends is taken out of those that have not ended. -/
theorem exists_split_of_ending {guard : γ} {past : List (Event α ο γ)} {scope : Scope ο γ}
    (ends : ending guard past = some scope) (observer : ο) :
    ∃ older younger, live past = older ++ scope :: younger ∧
      live (.scopeEnded guard observer :: past) = older ++ younger := by
  obtain ⟨isGuard, older, younger, split, others⟩ := List.find?_eq_some_iff_append.mp ends
  have taken : (scope :: younger).eraseP (·.guard = guard) = younger :=
    List.eraseP_cons_of_pos isGuard
  refine ⟨older, younger, split, ?_⟩
  rw [live, split, List.eraseP_append_right _ (by simpa using others), taken]

theorem not_mem_live_of_ending {guard : γ} {past : List (Event α ο γ)} {scope : Scope ο γ}
    (ends : ending guard past = some scope) (observer : ο) :
    scope ∉ live (.scopeEnded guard observer :: past) := by
  obtain ⟨older, younger, split, left⟩ := exists_split_of_ending ends observer
  have numbers := nodup_numbers_live past
  rw [split, List.map_append, List.map_cons, List.nodup_middle, List.nodup_cons,
    ← List.map_append] at numbers
  rw [left]
  exact fun member => numbers.1 (List.mem_map_of_mem member)

/-- Scopes with different guards have at most one to be taken away for a guard. -/
theorem eraseP_eq_filter {scopes : List (Scope ο γ)} (guard : γ)
    (guards : (scopes.map Scope.guard).Nodup) :
    scopes.eraseP (·.guard = guard) = scopes.filter (·.guard ≠ guard) := by
  induction scopes with
  | nil => rfl
  | cons scope rest ih =>
      rw [List.map_cons, List.nodup_cons] at guards
      by_cases same : scope.guard = guard
      · rw [List.eraseP_cons_of_pos (by simpa using same),
          List.filter_cons_of_neg (by simpa using same)]
        symm
        rw [List.filter_eq_self]
        intro other member
        have different : other.guard ≠ guard := by
          rintro rfl
          exact guards.1 (same ▸ List.mem_map_of_mem member)
        simpa using different
      · rw [List.eraseP_cons_of_neg (by simpa using same),
          List.filter_cons_of_pos (by simpa using same), ih guards.2]

/-- What a guard is looked up to is the observer of the scope that has it. -/
theorem lookup_entries {scopes : List (Scope ο γ)} (guard : γ)
    (guards : (scopes.map Scope.guard).Nodup) :
    (entries scopes).lookup guard = (scopes.find? (·.guard = guard)).map Scope.observer := by
  induction scopes with
  | nil => rfl
  | cons scope rest ih =>
      rw [List.map_cons, List.nodup_cons] at guards
      have youngest := ih guards.2
      have older : entries (scope :: rest) = entries rest ++ [(scope.guard, scope.observer)] := by
        rw [entries, List.map_cons, List.reverse_cons, entries]
      rw [older, List.lookup_append, youngest]
      by_cases same : scope.guard = guard
      · have none : rest.find? (·.guard = guard) = none := by
          rw [List.find?_eq_none]
          intro other member isGuard
          rw [decide_eq_true_eq] at isGuard
          exact guards.1 (same.trans isGuard.symm ▸ List.mem_map_of_mem member)
        rw [none, List.find?_cons_of_pos (by simpa using same)]
        simp [same]
      · have apart : (guard == scope.guard) = false := by
          rw [beq_eq_false_iff_ne]
          exact fun equal => same equal.symm
        rw [List.find?_cons_of_neg (by simpa using same)]
        simp [List.lookup_cons, apart]

theorem filter_entries {scopes : List (Scope ο γ)} (guard : γ)
    (guards : (scopes.map Scope.guard).Nodup) :
    (entries scopes).filter (·.1 ≠ guard) = entries (scopes.eraseP (·.guard = guard)) := by
  rw [eraseP_eq_filter guard guards, entries, List.filter_reverse, List.filter_map]
  rfl

/-- A new scope behind those that do not have its guard. -/
def enter (scope : Scope ο γ) (scopes : List (Scope ο γ)) : List (Scope ο γ) :=
  scopes.eraseP (·.guard = scope.guard) ++ [scope]

theorem entries_enter {scopes : List (Scope ο γ)} (scope : Scope ο γ)
    (guards : (scopes.map Scope.guard).Nodup) :
    entries (enter scope scopes) =
      (scope.guard, scope.observer) :: (entries scopes).filter (·.1 ≠ scope.guard) := by
  rw [filter_entries scope.guard guards, enter, entries_concat]

theorem nodup_guards_enter {scopes : List (Scope ο γ)} (scope : Scope ο γ)
    (guards : (scopes.map Scope.guard).Nodup) : ((enter scope scopes).map Scope.guard).Nodup := by
  rw [enter, List.map_append, List.map_singleton, eraseP_eq_filter scope.guard guards]
  refine List.Nodup.append ?_ (List.nodup_singleton _) ?_
  · exact guards.sublist (List.Sublist.map _ List.filter_sublist)
  · intro guard earlier single
    obtain ⟨other, member, rfl⟩ := List.mem_map.mp earlier
    have apart := (List.mem_filter.mp member).2
    rw [List.mem_singleton.mp single] at apart
    simp at apart

/-- Where no scope has the guard, a new scope stands behind all. -/
theorem live_scopeBegun {guard : γ} {past : List (Event α ο γ)} (free : ending guard past = none)
    (observer : ο) :
    live (.scopeBegun guard observer :: past) =
      enter ⟨begun past, guard, observer⟩ (live past) := by
  have unchanged : (live past).eraseP (·.guard = guard) = live past :=
    List.eraseP_of_forall_not (List.find?_eq_none.mp free)
  rw [enter, unchanged]
  rfl

/-- Where a scope has the guard, it ends behind the beginning of the new one. -/
theorem live_scopeEnded {guard : γ} {past : List (Event α ο γ)} {scope : Scope ο γ}
    (held : ending guard past = some scope) (former observer : ο) :
    live (.scopeEnded guard former :: .scopeBegun guard observer :: past) =
      enter ⟨begun past, guard, observer⟩ (live past) := by
  have isGuard := (List.find?_eq_some_iff_append.mp held).1
  have among : scope ∈ live past := List.mem_of_find?_eq_some held
  rw [live, live, enter, List.eraseP_append_left (p := (·.guard = guard)) isGuard _ among]

end Guards

/-- An observer is lost by a scope when another scope of the observer has ended since
the given one began, and nobody has registered the observer behind that. -/
def LostBy [DecidableEq γ] (scope : Scope ο γ) (later past : List (Event α ο γ)) : Prop :=
  ∃ after guard before other, later = after ++ .scopeEnded guard scope.observer :: before ∧
    ending guard (before ++ past) = some other ∧ other.number ≠ scope.number ∧
    other.observer = scope.observer ∧ ∀ event ∈ after, ¬ Enrolls event scope.observer

end History

open History

variable {α ο γ : Type} [DecidableEq ο] [DecidableEq γ]

/-! ## Scopes of a run -/

/-- The scopes that a run holds are those that have not ended, each with a guard of
its own, and what ends is the scope of the observer whose registration ends. -/
structure Guarded (run : Run α ο γ) : Prop where
  scopes : run.scopes = entries (live run.events)
  guards : ((live run.events).map Scope.guard).Nodup
  ended : ∀ after guard observer before,
    run.events = after ++ .scopeEnded guard observer :: before →
      ∃ scope, ending guard before = some scope ∧ scope.observer = observer

omit [DecidableEq ο] in
/-- An event that has no part in the scopes leaves them alone. -/
theorem Guarded.extend {run after : Run α ο γ} (guarded : Guarded run) {event : Event α ο γ}
    (more : after.events = event :: run.events) (same : after.scopes = run.scopes)
    (apart : live (event :: run.events) = live run.events)
    (noEnd : ∀ guard observer, event ≠ .scopeEnded guard observer) : Guarded after := by
  refine ⟨?_, ?_, ?_⟩
  · rw [same, more, apart]
    exact guarded.scopes
  · rw [more, apart]
    exact guarded.guards
  · intro later guard observer before split
    rw [more] at split
    cases later with
    | nil => exact absurd (List.cons.inj split).1 (noEnd guard observer)
    | cons last later => exact guarded.ended later guard observer before (List.cons.inj split).2

/-- Dropping a guard ends its scope, if there is one. -/
theorem Guarded.endScope {run : Run α ο γ} (guarded : Guarded run) (guard : γ) :
    Guarded (run.endScope guard) := by
  have found := lookup_entries guard guarded.guards
  rw [← guarded.scopes] at found
  unfold Run.endScope
  split
  · exact guarded
  · rename_i observer held
    rw [held] at found
    obtain ⟨scope, ends, isObserver⟩ := Option.map_eq_some_iff.mp found.symm
    refine ⟨?_, ?_, ?_⟩
    · exact (congrArg _ guarded.scopes).trans (filter_entries guard guarded.guards)
    · exact guarded.guards.sublist (List.Sublist.map _ List.eraseP_sublist)
    · intro later other observer before split
      cases later with
      | nil =>
          cases split
          exact ⟨scope, ends, isObserver⟩
      | cons last later => exact guarded.ended later other observer before (List.cons.inj split).2

/-- A new scope stands behind the others, of which one with the same guard ends. -/
theorem Guarded.beginScope {run : Run α ο γ} (guarded : Guarded run) (guard : γ) (observer : ο) :
    Guarded (run.beginScope guard observer) := by
  have found := lookup_entries guard guarded.guards
  have held := entries_enter ⟨begun run.events, guard, observer⟩ guarded.guards
  have nodup := nodup_guards_enter ⟨begun run.events, guard, observer⟩ guarded.guards
  rw [← guarded.scopes] at found held
  unfold Run.beginScope Run.endScope
  simp only [Run.update, Run.record]
  split
  · rename_i unheld
    rw [unheld] at found
    have now := live_scopeBegun (Option.map_eq_none_iff.mp found.symm) observer
    refine ⟨?_, ?_, ?_⟩
    · exact (congrArg _ guarded.scopes).trans
        (entries_concat (live run.events) ⟨begun run.events, guard, observer⟩).symm
    · exact now ▸ nodup
    · intro later other former before split
      rcases later with _ | ⟨event, later⟩
      · cases split
      · exact guarded.ended later other former before (List.cons.inj split).2
  · rename_i former isHeld
    rw [isHeld] at found
    obtain ⟨scope, ends, isObserver⟩ := Option.map_eq_some_iff.mp found.symm
    have now := live_scopeEnded ends former observer
    refine ⟨?_, ?_, ?_⟩
    · exact held.symm.trans (congrArg entries now.symm)
    · exact now ▸ nodup
    · intro later other last before split
      rcases later with _ | ⟨event, _ | ⟨begin, later⟩⟩
      · cases split
        refine ⟨scope, ?_, isObserver⟩
        rw [ending, live, List.find?_append]
        exact congrArg (Option.or · _) ends
      · cases (List.cons.inj split).2
      · exact guarded.ended later other last before (List.cons.inj (List.cons.inj split).2).2

theorem Guarded.perform {run : Run α ο γ} (guarded : Guarded run) (action : Action α ο γ) :
    Guarded (run.perform action) := by
  cases action with
  | scope guard observer => exact guarded.beginScope guard observer
  | dropGuard guard => exact guarded.endScope guard
  | fail => exact guarded
  | _ => exact guarded.extend rfl rfl rfl (fun _ _ same => nomatch same)

/-- At every moment the scopes are in order. -/
theorem guarded_of_moment {script : Script α ο γ} {run : Run α ο γ} {stage : Stage α ο γ}
    (moment : Moment script run stage) : Guarded run := by
  induction moment with
  | unused =>
      refine ⟨rfl, List.nodup_nil, fun later guard observer before split => ?_⟩
      exact absurd split.symm (by simp [Run.empty])
  | owner action here ih => exact ih.perform action
  | settle here idle ih => exact ⟨ih.scopes, ih.guards, ih.ended⟩
  | start here next ih => exact ih.extend rfl rfl rfl (by simp)
  | call here ih => exact ih.extend rfl rfl rfl (by simp)
  | act here going ih => exact ih.perform _
  | cut here ih => exact ih.extend rfl rfl rfl (by simp)
  | finish here ih => exact ih.extend rfl rfl rfl (by simp)

/-! ## Registrations of scopes -/
omit [DecidableEq γ] in
theorem mem_enroll_iff {observer other : ο} {observers : List ο} :
    observer ∈ enroll other observers ↔ observer = other ∨ observer ∈ observers := by
  unfold enroll
  split
  · rename_i present
    constructor
    · exact .inr
    · rintro (rfl | member)
      · exact present
      · exact member
  · rw [List.mem_append, List.mem_singleton, or_comm]

omit [DecidableEq γ] in
theorem registered_of_enrolls {event : Event α ο γ} {past : List (Event α ο γ)} {observer : ο}
    (enrolls : Enrolls event observer) : observer ∈ registered (event :: past) := by
  rcases enrolls with rfl | ⟨guard, rfl⟩
  · exact mem_enroll_iff.mpr (.inl rfl)
  · exact mem_enroll_iff.mpr (.inl rfl)

omit [DecidableEq γ] in
/-- A registered observer stays registered, unless its registration or a scope of it
ends, or all is dropped. -/
theorem registered_or_ends {past : List (Event α ο γ)} {observer : ο}
    (member : observer ∈ registered past) (event : Event α ο γ) :
    observer ∈ registered (event :: past) ∨ event = .unsubscribed observer ∨ event = .reset ∨
      ∃ guard, event = .scopeEnded guard observer := by
  have spared {other : ο} (apart : observer ≠ other) :
      observer ∈ (registered past).filter (· ≠ other) :=
    List.mem_filter.mpr ⟨member, by simpa using apart⟩
  cases event with
  | subscribed other => exact .inl (mem_enroll_iff.mpr (.inr member))
  | scopeBegun guard other => exact .inl (mem_enroll_iff.mpr (.inr member))
  | unsubscribed other =>
      by_cases same : observer = other
      · exact .inr (.inl (same ▸ rfl))
      · exact .inl (spared same)
  | scopeEnded guard other =>
      by_cases same : observer = other
      · exact .inr (.inr (.inr ⟨guard, same ▸ rfl⟩))
      · exact .inl (spared same)
  | reset => exact .inr (.inr (.inl rfl))
  | _ => exact .inl member

omit [DecidableEq γ] in
/-- While its registration is not ended explicitly, an observer is registered or a
scope of it has ended without its being registered again. -/
theorem registered_or_scopeEnded {later past : List (Event α ο γ)} {observer : ο}
    (member : observer ∈ registered past) (kept : .unsubscribed observer ∉ later)
    (unreset : .reset ∉ later) :
    observer ∈ registered (later ++ past) ∨
      ∃ after guard before, later = after ++ .scopeEnded guard observer :: before ∧
        ∀ event ∈ after, ¬ Enrolls event observer := by
  induction later with
  | nil => exact .inl member
  | cons event later ih =>
      simp only [List.mem_cons, not_or] at kept unreset
      rcases ih kept.2 unreset.2 with present | ⟨after, guard, before, rfl, noneEnrolls⟩
      · rcases registered_or_ends present event with present | rfl | rfl | ⟨guard, rfl⟩
        · exact .inl present
        · exact absurd rfl kept.1
        · exact absurd rfl unreset.1
        · exact .inr ⟨[], guard, later, rfl, fun other none => absurd none List.not_mem_nil⟩
      · by_cases enrolls : Enrolls event observer
        · exact .inl (registered_of_enrolls enrolls)
        · refine .inr ⟨event :: after, guard, before, rfl, fun other among => ?_⟩
          rcases List.mem_cons.mp among with rfl | among
          · exact enrolls
          · exact noneEnrolls other among

/-- The observer of a scope that has not ended is registered, unless the end of
another scope has taken the registration. -/
theorem Guarded.registered_iff {run : Run α ο γ} (guarded : Guarded run)
    (after : List (Event α ο γ)) {later past : List (Event α ο γ)} {guard : γ} {observer : ο}
    (split : run.events = after ++ (later ++ .scopeBegun guard observer :: past))
    (alive : (⟨begun past, guard, observer⟩ : Scope ο γ) ∈ live run.events)
    (kept : .unsubscribed observer ∉ later) (unreset : .reset ∉ later) :
    observer ∈ registered (later ++ .scopeBegun guard observer :: past) ↔
      ¬ LostBy ⟨begun past, guard, observer⟩ later (.scopeBegun guard observer :: past) := by
  constructor
  · rintro present ⟨behind, other, before, scope, rfl, -, -, -, noneEnrolls⟩
    rw [List.append_assoc] at present
    rcases registered_append present with still | ⟨event, among, enrolls⟩
    · simp [registered] at still
    · exact noneEnrolls event among enrolls
  · intro unlost
    have first : observer ∈ registered (.scopeBegun guard observer :: past) :=
      registered_of_enrolls (.inr ⟨guard, rfl⟩)
    rcases registered_or_scopeEnded first kept unreset with present |
      ⟨behind, other, before, rfl, noneEnrolls⟩
    · exact present
    · rw [List.append_assoc, ← List.append_assoc] at split
      obtain ⟨scope, ends, isObserver⟩ := guarded.ended _ other observer _ split
      refine absurd ⟨behind, other, before, scope, rfl, ends, ?_, isObserver, noneEnrolls⟩ unlost
      intro sameNumber
      have early : begun past < begun (before ++ .scopeBegun guard observer :: past) :=
        begun_le_begun_append before (.scopeBegun guard observer :: past)
      rw [split] at alive
      have behindEnd := mem_live_of_append (after ++ behind) alive early
      have beforeEnd := mem_live_of_append [_] behindEnd early
      have same : scope = ⟨begun past, guard, observer⟩ :=
        List.inj_on_of_nodup_map (nodup_numbers_live _) (List.mem_of_find?_eq_some ends) beforeEnd
          sameNumber
      exact not_mem_live_of_ending ends observer (same ▸ behindEnd)

omit [DecidableEq γ] in
/-- A pass that is there is still there behind one more event. -/
theorem exists_same_of_mem_passes {past : List (Event α ο γ)} {pass : Pass α ο}
    (member : pass ∈ passes past) (event : Event α ο γ) :
    ∃ now ∈ passes (event :: past), pass.Same now := by
  have changed (change : Pass α ο → Pass α ο) (same : ∀ pass : Pass α ο, pass.Same (change pass)) :
      ∃ now ∈ (passes past).modifyHead change, pass.Same now := by
    cases list : passes past with
    | nil =>
        rw [list] at member
        exact absurd member List.not_mem_nil
    | cons first rest =>
        rw [list] at member
        rcases List.mem_cons.mp member with rfl | member
        · exact ⟨change pass, List.mem_cons_self, same pass⟩
        · exact ⟨pass, List.mem_cons_of_mem _ member, rfl, rfl, rfl⟩
  cases event with
  | passStarted value observers => exact ⟨pass, List.mem_cons_of_mem _ member, rfl, rfl, rfl⟩
  | called observer value => exact changed _ fun _ => ⟨rfl, rfl, rfl⟩
  | passEnded => exact changed _ fun _ => ⟨rfl, rfl, rfl⟩
  | passCut => exact changed _ fun _ => ⟨rfl, rfl, rfl⟩
  | _ => exact ⟨pass, member, rfl, rfl, rfl⟩

omit [DecidableEq γ] in
/-- A pass that has started is among the passes, with the number of the first push that
waited and the observers that were registered. -/
theorem exists_pass_of_started (after : List (Event α ο γ)) (value : α) (told : List ο)
    (before : List (Event α ο γ)) :
    ∃ pass ∈ passes (after ++ .passStarted value told :: before),
      pass.number = (waiting before).head?.map Prod.fst ∧ pass.value = value ∧
        pass.observers = registered before := by
  induction after with
  | nil => exact ⟨_, List.mem_cons_self, rfl, rfl, rfl⟩
  | cons event after ih =>
      obtain ⟨pass, member, number, isValue, observers⟩ := ih
      obtain ⟨now, still, same⟩ := exists_same_of_mem_passes member event
      exact ⟨now, still, same.number.trans number, same.value.trans isValue,
        same.observers.trans observers⟩

/-- The observer of a scope that has not ended is registered exactly if it is not lost
by the scope, and so it was whenever a pass started since the scope began; a pass that
is not cut calls it exactly if it was registered then. -/
theorem scoped_observer_registered_iff {script : Script α ο γ} {run : Run α ο γ}
    {stage : Stage α ο γ} (moment : Moment script run stage) {later past : List (Event α ο γ)}
    {guard : γ} {observer : ο} (split : run.events = later ++ .scopeBegun guard observer :: past)
    (alive : (⟨begun past, guard, observer⟩ : Scope ο γ) ∈ live run.events)
    (kept : .unsubscribed observer ∉ later) (unreset : .reset ∉ later) :
    (observer ∈ run.store.observers ↔
        ¬ LostBy ⟨begun past, guard, observer⟩ later (.scopeBegun guard observer :: past)) ∧
      ∀ after value told before, later = after ++ .passStarted value told :: before →
        ∃ pass ∈ passes run.events,
          pass.number =
              (waiting (before ++ .scopeBegun guard observer :: past)).head?.map Prod.fst ∧
            pass.value = value ∧
            (observer ∈ pass.observers ↔
              ¬ LostBy ⟨begun past, guard, observer⟩ before
                (.scopeBegun guard observer :: past)) ∧
            ((observer, value) ∈ pass.calls → observer ∈ pass.observers) ∧
            (pass.ending = some .finished →
              ((observer, value) ∈ pass.calls ↔ observer ∈ pass.observers)) := by
  have guarded := guarded_of_moment moment
  have toldOnce := (orderly_of_moment moment).toldOnce
  constructor
  · rw [(agrees_of_moment moment).observers, split]
    exact guarded.registered_iff [] split alive kept unreset
  · rintro after value told before rfl
    rw [List.append_assoc, List.cons_append] at split
    obtain ⟨pass, member, number, isValue, observers⟩ :=
      exists_pass_of_started after value told (before ++ .scopeBegun guard observer :: past)
    rw [← split] at member
    have due (observer : ο) : (observer, value) ∈ pass.due ↔ observer ∈ pass.observers := by
      simp [Pass.due, isValue]
    refine ⟨pass, member, number, isValue, ?_, ?_, ?_⟩
    · rw [List.append_cons] at split
      rw [observers]
      apply guarded.registered_iff _ split alive
      · exact fun among => kept (List.mem_append_right _ (List.mem_cons_of_mem _ among))
      · exact fun among => unreset (List.mem_append_right _ (List.mem_cons_of_mem _ among))
    · exact fun called => (due observer).mp ((toldOnce.started pass member).subset called)
    · intro finished
      rw [toldOnce.finished pass member finished]
      exact due observer

/-- What comes of two scopes of observer `7` when the second one ends first. -/
def overlapping : Run Nat Nat Nat :=
  (Run.steps Run.passive 2 [.scope 0 7, .push 4, .scope 1 7, .dropGuard 1, .push 5]
    Run.empty).getD Run.empty

/-- What happened since the first scope began. -/
def sinceFirstScope : List (Event Nat Nat Nat) :=
  [.passEnded, .passStarted 5 [], .pushed 5, .scopeEnded 1 7, .scopeBegun 1 7, .passEnded,
    .called 7 4, .passStarted 4 [7], .pushed 4]

theorem moment_overlapping : Moment Run.passive overlapping .rest := by
  have done : Run.steps Run.passive 2 [.scope 0 7, .push 4, .scope 1 7, .dropGuard 1, .push 5]
      Run.empty = some overlapping := rfl
  exact Moment.unused.steps done

theorem scoped_observer_lost :
    Moment Run.passive overlapping .rest ∧
      (⟨0, 0, 7⟩ : Scope Nat Nat) ∈ live overlapping.events ∧
      .unsubscribed 7 ∉ sinceFirstScope ∧ .reset ∉ sinceFirstScope ∧
      7 ∉ overlapping.store.observers ∧
      LostBy ⟨0, 0, 7⟩ sinceFirstScope [.scopeBegun 0 7] := by
  have split : overlapping.events = sinceFirstScope ++ .scopeBegun 0 7 :: [] := by decide
  have alive : (⟨begun ([] : List (Event Nat Nat Nat)), 0, 7⟩ : Scope Nat Nat) ∈
      live overlapping.events := by decide
  have kept : .unsubscribed 7 ∉ sinceFirstScope := by decide
  have unreset : .reset ∉ sinceFirstScope := by decide
  have gone : 7 ∉ overlapping.store.observers := by decide
  obtain ⟨registered, -⟩ :=
    scoped_observer_registered_iff moment_overlapping split alive kept unreset
  exact ⟨moment_overlapping, alive, kept, unreset, gone,
    not_not.mp fun unlost => gone (registered.mpr unlost)⟩

/-- A scope that has not ended need not keep its observer registered. -/
theorem scope_without_registration :
    ¬ ∀ (script : Script Nat Nat Nat) (run : Run Nat Nat Nat) (stage : Stage Nat Nat Nat),
      Moment script run stage →
        ∀ later guard observer past, run.events = later ++ .scopeBegun guard observer :: past →
          (⟨begun past, guard, observer⟩ : Scope Nat Nat) ∈ live run.events →
            .unsubscribed observer ∉ later → .reset ∉ later →
              observer ∈ run.store.observers ∧
                ∀ value told, .passStarted value told ∈ later → observer ∈ told := by
  intro all
  have held := all Run.passive overlapping .rest moment_overlapping sinceFirstScope 0 7 []
    (by decide) (by decide) (by decide) (by decide)
  exact absurd held.1 (by decide)

end JobConsole.Store
