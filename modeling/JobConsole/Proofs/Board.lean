import JobConsole.Board
import JobConsole.Proofs.Polling

/-!
# Boards as lone stores

A desk has many boards and a board has three stores, and what is done there comes in
through handles, several of which may reach the same board.  Seen from one store, only a
part of it counts: what is addressed to its resource through a handle of its board, the
resets of the board, and the end of its own subscriptions.  `actionsOn` picks that part out.

A store is, its record of events included, what a lone store becomes by these actions
(`stores_of_board`).  So nothing that is done to one store or board is seen in another one,
and all handles of a board show the same.
-/

namespace JobConsole

open JobConsole.Json
open JobConsole.Store
open JobConsole.Poller (AtRest)

namespace Store.Run

variable {α ο γ : Type} [DecidableEq ο] [DecidableEq γ]

/-! ## Stores at rest -/

theorem steps_append (script : Script α ο γ) (passes : Nat) (first second : List (Action α ο γ))
    (run : Run α ο γ) :
    steps script passes (first ++ second) run =
      (steps script passes first run).bind (steps script passes second) := by
  induction first generalizing run with
  | nil => rfl
  | cons action rest ih =>
      simp only [List.cons_append, steps, Option.bind_eq_bind]
      cases run.step script passes action with
      | none => rfl
      | some result => exact ih result.1

/-- Two passes are enough for a push to observers that only take note. -/
theorem step_push_of_atRest {run : Run α ο γ} (atRest : AtRest run) {passes : Nat}
    (enough : 2 ≤ passes) (value : α) :
    run.step passive passes (.push value) = some (run.announce value, .finished) := by
  have quickly : run.step passive 2 (.push value) = some (run.announce value, .finished) := by
    obtain ⟨⟨current, observers, pending, dispatching⟩, scopes, events⟩ := run
    obtain ⟨noneWaits, still⟩ := atRest
    cases noneWaits
    cases still
    simp only [announce, step, perform, update, record, enqueue, List.nil_append,
      Bool.false_eq_true, if_false, drain, pass, startPass, Poller.callAll_passive, settle]
  simp only [step, atRest.2, Bool.false_eq_true, if_false] at quickly ⊢
  exact drain_mono quickly enough

theorem scopes_endScope (guard : γ) (run : Run α ο γ) :
    (run.endScope guard).scopes = run.scopes.filter (·.1 ≠ guard) := by
  unfold endScope
  cases found : run.scopes.lookup guard with
  | some observer => rfl
  | none =>
      symm
      apply List.filter_eq_self.mpr
      intro scope member
      have apart : scope.1 ≠ guard := by
        rintro rfl
        simpa using List.lookup_eq_none_iff.mp found scope member
      simpa using apart

theorem atRest_endScope {run : Run α ο γ} (atRest : AtRest run) (guard : γ) :
    AtRest (run.endScope guard) := by
  unfold endScope
  split
  · exact atRest
  · exact atRest

/-- The scopes of some guards end one after the other. -/
def endScopes (guards : List γ) (run : Run α ο γ) : Run α ο γ :=
  guards.foldl (fun run guard => run.endScope guard) run

theorem scopes_endScopes (guards : List γ) (run : Run α ο γ) :
    (run.endScopes guards).scopes = run.scopes.filter (·.1 ∉ guards) := by
  induction guards generalizing run with
  | nil => simp [endScopes]
  | cons guard rest ih =>
      rw [endScopes, List.foldl_cons]
      refine (ih (run.endScope guard)).trans ?_
      rw [scopes_endScope, List.filter_filter]
      apply List.filter_congr
      intro scope _
      simp [Bool.and_comm]

theorem atRest_endScopes {run : Run α ο γ} (atRest : AtRest run) (guards : List γ) :
    AtRest (run.endScopes guards) := by
  induction guards generalizing run with
  | nil => exact atRest
  | cons guard rest ih => exact ih (atRest_endScope atRest guard)

theorem steps_dropGuards (script : Script α ο γ) (passes : Nat) (guards : List γ)
    (run : Run α ο γ) :
    steps script passes (guards.map .dropGuard) run = some (run.endScopes guards) := by
  induction guards generalizing run with
  | nil => rfl
  | cons guard rest ih => exact ih (run.endScope guard)

/-- A scope with a new guard ends no other one. -/
theorem scopes_beginScope {guard : γ} {run : Run α ο γ}
    (isNew : guard ∉ run.scopes.map Prod.fst) (observer : ο) :
    (run.beginScope guard observer).scopes = (guard, observer) :: run.scopes := by
  simp only [beginScope, scopes_endScope]
  congr 1
  apply List.filter_eq_self.mpr
  intro scope member
  have apart : scope.1 ≠ guard := by
    rintro rfl
    exact isNew (List.mem_map_of_mem member)
  simpa using apart

theorem atRest_beginScope {run : Run α ο γ} (atRest : AtRest run) (guard : γ) (observer : ο) :
    AtRest (run.beginScope guard observer) := by
  have begun : AtRest (run.update (Store.subscribe observer) |>.record
      (.scopeBegun guard observer)) := by
    constructor
    · exact (pending_subscribe observer run.store).trans atRest.1
    · refine Eq.trans ?_ atRest.2
      change (run.store.subscribe observer).dispatching = _
      unfold Store.subscribe
      split <;> rfl
  exact atRest_endScope begun guard

end Store.Run

namespace Desk

variable {κ : Type} [DecidableEq κ]

/-! ## The part of one store -/

/-- What the owner of one store knows of the subscriptions: how many have been made at the
desk, and the guards of those to the store that have not been ended, the last one first. -/
structure Ledger where
  made : Nat
  guards : List Nat
deriving DecidableEq

/-- Nothing has been subscribed to. -/
def Ledger.blank : Ledger :=
  ⟨0, []⟩

section Part

variable (handles : List Nat) (number : Nat) (resource : Resource)

/-- The actions that a step comes to at the store of a resource on the board with a
number. -/
def actionsOf (ledger : Ledger) :
    DeskStep κ → List (Action resource.Data (Nat × κ) Nat)
  | .push handle other text =>
      if handles[handle]? = some number ∧ other = resource then
        (decode? resource.decode? text).toList.map .push
      else []
  | .subscribe handle other tag =>
      if handles[handle]? = some number ∧ other = resource then
        [.scope ledger.made (ledger.made, tag)]
      else []
  | .endSubscriptions => ledger.guards.map .dropGuard
  | .reset handle => if handles[handle]? = some number then [.reset] else []

/-- The ledger of a store after a step. -/
def Ledger.after (ledger : Ledger) : DeskStep κ → Ledger
  | .subscribe handle other _ =>
      ⟨ledger.made + 1,
        if handles[handle]? = some number ∧ other = resource then ledger.made :: ledger.guards
        else ledger.guards⟩
  | .endSubscriptions => ⟨ledger.made, []⟩
  | _ => ledger

/-- The actions that a sequence of steps comes to at a store. -/
def actionsOn : Ledger → List (DeskStep κ) → List (Action resource.Data (Nat × κ) Nat)
  | _, [] => []
  | ledger, step :: rest =>
      actionsOf handles number resource ledger step ++
        actionsOn (ledger.after handles number resource step) rest

end Part

theorem step_push_of_not_decoded {resource : Resource} {text : String}
    (undecodable : decode? resource.decode? text = none) (desk : Desk κ) (handle : Nat) :
    desk.step (.push handle resource text) = desk := by
  rw [step, step?, undecodable, Option.map_none, Option.getD_none]

theorem step_push_of_decoded {resource : Resource} {text : String} {data : resource.Data}
    (decoded : decode? resource.decode? text = some data) (desk : Desk κ) (handle : Nat) :
    desk.step (.push handle resource text) =
      desk.update handle fun board => board.push resource data := by
  rw [step, step?, decoded, Option.map_some, Option.getD_some]

/-- The store of a resource on the board with a number. -/
def store? (desk : Desk κ) (number : Nat) (resource : Resource) :
    Option (Run resource.Data (Nat × κ) Nat) :=
  desk.boards[number]?.map fun board => board.store resource

section Update

variable {desk : Desk κ} {handle number : Nat} {resource : Resource}
  {change : Board (Nat × κ) Nat → Board (Nat × κ) Nat}

omit [DecidableEq κ] in
@[simp]
theorem handles_update : (desk.update handle change).handles = desk.handles := by
  unfold update
  split <;> rfl

omit [DecidableEq κ] in
@[simp]
theorem subscriptions_update :
    (desk.update handle change).subscriptions = desk.subscriptions := by
  unfold update
  split <;> rfl

omit [DecidableEq κ] in
/-- A change through a handle of the board is seen in its stores. -/
theorem store?_update_of_addressed
    {effect : Run resource.Data (Nat × κ) Nat → Run resource.Data (Nat × κ) Nat}
    (reaches : desk.handles[handle]? = some number)
    (alike : ∀ board, (change board).store resource = effect (board.store resource)) :
    (desk.update handle change).store? number resource =
      (desk.store? number resource).map effect := by
  simp only [update, number?, reaches, store?, List.getElem?_modify_eq]
  cases desk.boards[number]? with
  | none => rfl
  | some board => exact congrArg some (alike board)

omit [DecidableEq κ] in
/-- A change is not seen in a store, if it comes through a handle of another board or
spares the store. -/
theorem store?_update_of_spared
    (spares : desk.handles[handle]? = some number →
      ∀ board, (change board).store resource = board.store resource) :
    (desk.update handle change).store? number resource = desk.store? number resource := by
  cases reached : desk.handles[handle]? with
  | none => simp only [update, number?, reached]
  | some other =>
      by_cases same : other = number
      · subst same
        have seen : (desk.update handle change).store? other resource =
            (desk.store? other resource).map id :=
          store?_update_of_addressed reached (spares reached)
        rwa [Option.map_id, id] at seen
      · simp only [update, number?, reached, store?, List.getElem?_modify_ne change _ same]

end Update

/-! ## Following a store -/

/-- A run follows a store of a desk, whose subscriptions are in a ledger. -/
structure Follows (handles : List Nat) (number : Nat) (resource : Resource) (ledger : Ledger)
    (desk : Desk κ) (run : Run resource.Data (Nat × κ) Nat) : Prop where
  handles : desk.handles = handles
  made : desk.subscriptions = ledger.made
  store : desk.store? number resource = some run
  atRest : AtRest run
  guards : run.scopes.map Prod.fst = ledger.guards
  isOld : ∀ guard ∈ ledger.guards, guard < ledger.made

namespace Follows

variable {handles : List Nat} {number : Nat} {resource : Resource} {ledger : Ledger}
  {desk : Desk κ} {run : Run resource.Data (Nat × κ) Nat}

omit [DecidableEq κ] in
/-- A run follows a store through a change that spares it. -/
theorem spare (follows : Follows handles number resource ledger desk run) {handle : Nat}
    {change : Board (Nat × κ) Nat → Board (Nat × κ) Nat}
    (spares : handles[handle]? = some number →
      ∀ board, (change board).store resource = board.store resource) :
    Follows handles number resource ledger (desk.update handle change) run := by
  constructor
  · exact handles_update.trans follows.handles
  · exact subscriptions_update.trans follows.made
  · rw [store?_update_of_spared (follows.handles ▸ spares), follows.store]
  · exact follows.atRest
  · exact follows.guards
  · exact follows.isOld

omit [DecidableEq κ] in
/-- A run follows a store through a change that leaves the scopes as they are. -/
theorem update (follows : Follows handles number resource ledger desk run) {handle : Nat}
    {change : Board (Nat × κ) Nat → Board (Nat × κ) Nat}
    {effect : Run resource.Data (Nat × κ) Nat → Run resource.Data (Nat × κ) Nat}
    (reaches : handles[handle]? = some number)
    (alike : ∀ board, (change board).store resource = effect (board.store resource))
    (atRest : AtRest (effect run)) (scopes : (effect run).scopes = run.scopes) :
    Follows handles number resource ledger (desk.update handle change) (effect run) := by
  constructor
  · exact handles_update.trans follows.handles
  · exact subscriptions_update.trans follows.made
  · rw [store?_update_of_addressed (follows.handles ▸ reaches) alike, follows.store,
      Option.map_some]
  · exact atRest
  · rw [scopes]
    exact follows.guards
  · exact follows.isOld

/-- A push comes to one action, or to none if it goes elsewhere or does not decode. -/
theorem push (follows : Follows handles number resource ledger desk run) {passes : Nat}
    (enough : 2 ≤ passes) (handle : Nat) (other : Resource) (text : String) :
    ∃ after, Run.steps Run.passive passes
        (actionsOf handles number resource ledger (.push handle other text : DeskStep κ)) run =
          some after ∧
      Follows handles number resource ledger (desk.step (.push handle other text)) after := by
  by_cases addressed : handles[handle]? = some number ∧ other = resource
  · obtain ⟨reaches, rfl⟩ := addressed
    rw [actionsOf, if_pos ⟨reaches, rfl⟩]
    cases decoded : decode? other.decode? text with
    | none =>
        rw [step_push_of_not_decoded decoded]
        exact ⟨run, rfl, follows⟩
    | some data =>
        refine ⟨run.announce data, ?_, ?_⟩
        · have stepped := Run.step_push_of_atRest follows.atRest enough data
          simp only [Option.toList_some, List.map_cons, List.map_nil, Run.steps, stepped,
            Option.bind_eq_bind, Option.bind_some]
        · rw [step_push_of_decoded decoded]
          have announced := Poller.announce_of_atRest follows.atRest data
          apply follows.update reaches
          · exact fun board => Board.store_update_self board other _
          · rw [announced]
            exact ⟨rfl, rfl⟩
          · rw [announced]
  · rw [actionsOf, if_neg addressed]
    refine ⟨run, rfl, ?_⟩
    cases decoded : decode? other.decode? text with
    | none =>
        rw [step_push_of_not_decoded decoded]
        exact follows
    | some data =>
        rw [step_push_of_decoded decoded]
        apply follows.spare
        intro reaches board
        exact Board.store_update_of_ne board _ fun same => addressed ⟨reaches, same.symm⟩

/-- A subscription comes to one scope with a guard of its own, or only counts if it goes
elsewhere. -/
theorem subscribe (follows : Follows handles number resource ledger desk run) (passes : Nat)
    (handle : Nat) (other : Resource) (tag : κ) :
    ∃ after, Run.steps Run.passive passes
        (actionsOf handles number resource ledger (.subscribe handle other tag)) run =
          some after ∧
      Follows handles number resource
        (ledger.after handles number resource (.subscribe handle other tag))
        (desk.step (.subscribe handle other tag)) after := by
  by_cases addressed : handles[handle]? = some number ∧ other = resource
  · obtain ⟨reaches, rfl⟩ := addressed
    have isNew : ledger.made ∉ run.scopes.map Prod.fst := by
      rw [follows.guards]
      exact fun member => Nat.lt_irrefl _ (follows.isOld _ member)
    have scopes := Run.scopes_beginScope isNew (ledger.made, tag)
    rw [actionsOf, if_pos ⟨reaches, rfl⟩]
    refine ⟨run.beginScope ledger.made (ledger.made, tag), rfl, ?_⟩
    constructor
    · exact handles_update.trans follows.handles
    · exact congrArg (· + 1) follows.made
    · have seen := store?_update_of_addressed (follows.handles ▸ reaches)
        fun board => Board.store_update_self board other
          (Run.perform (.scope ledger.made (ledger.made, tag)))
      rw [follows.store] at seen
      simp only [step, step?, follows.made, Option.getD_some]
      exact seen
    · exact Run.atRest_beginScope follows.atRest _ _
    · rw [scopes, List.map_cons, follows.guards]
      exact (if_pos ⟨reaches, rfl⟩).symm
    · intro guard member
      rw [Ledger.after, if_pos ⟨reaches, rfl⟩] at member
      rcases List.mem_cons.mp member with rfl | member
      · exact Nat.lt_succ_self _
      · exact Nat.lt_succ_of_lt (follows.isOld guard member)
  · rw [actionsOf, if_neg addressed]
    have spared : Follows handles number resource ledger
        (desk.update handle fun board =>
          board.scope other desk.subscriptions (desk.subscriptions, tag)) run := by
      apply follows.spare
      intro reaches board
      exact Board.store_update_of_ne board _ fun same => addressed ⟨reaches, same.symm⟩
    refine ⟨run, rfl, ?_⟩
    constructor
    · exact spared.handles
    · exact congrArg (· + 1) follows.made
    · exact spared.store
    · exact spared.atRest
    · rw [spared.guards]
      exact (if_neg addressed).symm
    · intro guard member
      rw [Ledger.after, if_neg addressed] at member
      exact Nat.lt_succ_of_lt (follows.isOld guard member)

/-- Ending all subscriptions drops the guards of each store. -/
theorem endSubscriptions (follows : Follows handles number resource ledger desk run)
    (passes : Nat) :
    ∃ after, Run.steps Run.passive passes
        (actionsOf handles number resource ledger (.endSubscriptions : DeskStep κ)) run =
          some after ∧
      Follows handles number resource
        (ledger.after handles number resource (.endSubscriptions : DeskStep κ))
        (desk.step .endSubscriptions) after := by
  refine ⟨run.endScopes ledger.guards, Run.steps_dropGuards _ _ _ _, ?_⟩
  constructor
  · exact follows.handles
  · exact follows.made
  · obtain ⟨board, isBoard, isRun⟩ := Option.map_eq_some_iff.mp follows.store
    simp only [step, step?, Option.getD_some, store?, List.getElem?_map, isBoard, Option.map_some,
      Board.endScopes, Board.store_updateAll, isRun, ← follows.guards, Run.endScopes,
      List.foldl_map]
  · exact Run.atRest_endScopes follows.atRest _
  · rw [Run.scopes_endScopes, ← follows.guards, Ledger.after, List.map_eq_nil_iff,
      List.filter_eq_nil_iff]
    intro scope member
    have gone : scope.1 ∈ run.scopes.map Prod.fst := List.mem_map_of_mem member
    simpa only [decide_not, Bool.not_eq_true', decide_eq_false_iff_not, not_not] using gone
  · exact fun guard member => absurd member List.not_mem_nil

/-- A reset of a board resets each of its stores. -/
theorem reset (follows : Follows handles number resource ledger desk run) (passes : Nat)
    (handle : Nat) :
    ∃ after, Run.steps Run.passive passes
        (actionsOf handles number resource ledger (.reset handle : DeskStep κ)) run =
          some after ∧
      Follows handles number resource ledger (desk.step (.reset handle)) after := by
  by_cases reaches : handles[handle]? = some number
  · rw [actionsOf, if_pos reaches]
    refine ⟨run.perform .reset, rfl, ?_⟩
    apply follows.update reaches
    · exact fun board => Board.store_updateAll board resource (Run.perform .reset)
    · exact ⟨rfl, follows.atRest.2⟩
    · rfl
  · rw [actionsOf, if_neg reaches]
    exact ⟨run, rfl, follows.spare fun reached => absurd reached reaches⟩

theorem step (follows : Follows handles number resource ledger desk run) {passes : Nat}
    (enough : 2 ≤ passes) (step : DeskStep κ) :
    ∃ after, Run.steps Run.passive passes (actionsOf handles number resource ledger step) run =
        some after ∧
      Follows handles number resource (ledger.after handles number resource step)
        (desk.step step) after := by
  cases step with
  | push handle other text => exact follows.push enough handle other text
  | subscribe handle other tag => exact follows.subscribe passes handle other tag
  | endSubscriptions => exact follows.endSubscriptions passes
  | reset handle => exact follows.reset passes handle

theorem steps (follows : Follows handles number resource ledger desk run) {passes : Nat}
    (enough : 2 ≤ passes) (steps : List (DeskStep κ)) :
    ∃ after, Run.steps Run.passive passes (actionsOn handles number resource ledger steps) run =
        some after ∧
      Follows handles number resource
        (steps.foldl (Ledger.after handles number resource) ledger) (steps.foldl Desk.step desk)
        after := by
  induction steps generalizing ledger desk run with
  | nil => exact ⟨run, rfl, follows⟩
  | cons step rest ih =>
      obtain ⟨between, came, stillFollows⟩ := follows.step enough step
      obtain ⟨after, went, further⟩ := ih stillFollows
      refine ⟨after, ?_, further⟩
      rw [actionsOn, Run.steps_append, came, Option.bind_some, went]

end Follows

/-! ## All stores -/

theorem le_foldl_max {number bound : Nat} {numbers : List Nat}
    (among : number ≤ bound ∨ number ∈ numbers) : number ≤ numbers.foldl max bound := by
  induction numbers generalizing bound with
  | nil => simpa using among
  | cons first rest ih =>
      apply ih
      rcases among with low | member
      · exact .inl (Nat.le_trans low (Nat.le_max_left bound first))
      · rcases List.mem_cons.mp member with rfl | member
        · exact .inl (Nat.le_max_right bound number)
        · exact .inr member

omit [DecidableEq κ] in
/-- A desk has a board for each of its handles. -/
theorem follows_ofHandles {handles : List Nat} {number : Nat} (used : number ∈ handles)
    (resource : Resource) :
    Follows handles number resource .blank (ofHandles handles : Desk κ) Run.empty := by
  constructor
  · rfl
  · rfl
  · have within : number < handles.foldl max 0 + 1 := Nat.lt_succ_of_le (le_foldl_max (.inr used))
    simp only [store?, ofHandles, List.getElem?_replicate, within, if_true, Option.map_some]
    cases resource <;> rfl
  · exact ⟨rfl, rfl⟩
  · rfl
  · exact fun guard member => absurd member List.not_mem_nil

/-- The desk after a sequence of steps. -/
def after (handles : List Nat) (steps : List (DeskStep κ)) : Desk κ :=
  steps.foldl step (ofHandles handles)

/-- The ledger of a store after a sequence of steps. -/
def ledgerOf (handles : List Nat) (number : Nat) (resource : Resource)
    (steps : List (DeskStep κ)) : Ledger :=
  steps.foldl (Ledger.after handles number resource) .blank

omit [DecidableEq κ] in
theorem actionsOn_concat (handles : List Nat) (number : Nat) (resource : Resource)
    (ledger : Ledger) (steps : List (DeskStep κ)) (last : DeskStep κ) :
    actionsOn handles number resource ledger (steps ++ [last]) =
      actionsOn handles number resource ledger steps ++
        actionsOf handles number resource
          (steps.foldl (Ledger.after handles number resource) ledger) last := by
  induction steps generalizing ledger with
  | nil => exact List.append_nil _
  | cons step rest ih =>
      rw [List.cons_append, actionsOn, actionsOn, ih, List.append_assoc]
      rfl

/-- A board is found through each of its handles, and its stores are lone stores. -/
theorem exists_board {handles : List Nat} {number : Nat} (used : number ∈ handles)
    {passes : Nat} (enough : 2 ≤ passes) (steps : List (DeskStep κ)) :
    ∃ board,
      (∀ handle, handles[handle]? = some number →
        (after handles steps).board? handle = some board) ∧
      ∀ resource,
        Run.steps Run.passive passes (actionsOn handles number resource .blank steps) Run.empty =
          some (board.store resource) := by
  have each (resource : Resource) := (follows_ofHandles used resource).steps enough steps
  obtain ⟨_, -, stats⟩ := each .jobStats
  obtain ⟨board, isBoard, -⟩ := Option.map_eq_some_iff.mp stats.store
  refine ⟨board, fun handle reaches => ?_, fun resource => ?_⟩
  · rw [board?, number?, after, stats.handles, reaches, Option.bind_some, isBoard]
  · obtain ⟨run, came, follows⟩ := each resource
    have isRun := follows.store
    rw [store?, isBoard, Option.map_some] at isRun
    rw [came, isRun]

/-- Each store of a board is what a lone store becomes by the actions that the steps come
to there; all handles of the board show it; a further step does to it what its actions do
to the lone store, and nothing if it comes to none; and a text that does not decode changes
nothing at all. -/
theorem stores_of_board {handles : List Nat} {number : Nat} (used : number ∈ handles)
    {passes : Nat} (enough : 2 ≤ passes) (steps : List (DeskStep κ)) :
    ∃ board,
      (∀ handle, handles[handle]? = some number →
        (after handles steps).board? handle = some board) ∧
      (∀ resource,
        Run.steps Run.passive passes (actionsOn handles number resource .blank steps) Run.empty =
          some (board.store resource)) ∧
      (∀ step, ∃ next,
        (∀ handle, handles[handle]? = some number →
          ((after handles steps).step step).board? handle = some next) ∧
        ∀ resource,
          Run.steps Run.passive passes
              (actionsOf handles number resource (ledgerOf handles number resource steps) step)
              (board.store resource) =
            some (next.store resource) ∧
          (actionsOf handles number resource (ledgerOf handles number resource steps) step = [] →
            next.store resource = board.store resource)) ∧
      ∀ handle resource text, decode? resource.decode? text = none →
        (after handles steps).step (.push handle resource text) = after handles steps := by
  obtain ⟨board, isBoard, alone⟩ := exists_board used enough steps
  refine ⟨board, isBoard, alone, fun step => ?_, fun handle resource text undecodable =>
    step_push_of_not_decoded undecodable (after handles steps) handle⟩
  obtain ⟨next, isNext, aloneNext⟩ := exists_board used enough (steps ++ [step])
  rw [after, List.foldl_append] at isNext
  refine ⟨next, isNext, fun resource => ?_⟩
  have went := aloneNext resource
  rw [actionsOn_concat, Run.steps_append, alone resource, Option.bind_some] at went
  refine ⟨went, fun nothing => ?_⟩
  rw [← ledgerOf, nothing] at went
  exact (Option.some.inj went).symm

/-- Board `0` has two handles.  Its servers are subscribed to through one of them and
pushed through the other one. -/
def sharedBoard : List (DeskStep Nat) :=
  [.subscribe 0 .servers 5, .subscribe 1 .servers 6, .push 2 .servers "[]", .push 1 .servers "[]",
    .push 0 .servers "[", .push 0 .problems "[]", .reset 2, .endSubscriptions]

theorem stores_of_sharedBoard :
    0 ∈ [0, 1, 0] ∧ 2 ≤ 2 ∧ ∃ board,
      (after [0, 1, 0] sharedBoard).board? 2 = some board ∧
        Run.steps Run.passive 2 [.scope 0 (0, 5), .push [], .reset, .dropGuard 0] Run.empty =
          some (board.store .servers) := by
  have used : 0 ∈ [0, 1, 0] := List.mem_cons_self
  obtain ⟨board, isBoard, alone, -⟩ := stores_of_board used (Nat.le_refl 2) sharedBoard
  have part : actionsOn [0, 1, 0] 0 .servers .blank sharedBoard =
      [.scope 0 (0, 5), .push [], .reset, .dropGuard 0] := by
    rfl
  have servers := alone .servers
  rw [part] at servers
  exact ⟨used, Nat.le_refl 2, board, isBoard 2 rfl, servers⟩

end Desk

end JobConsole
