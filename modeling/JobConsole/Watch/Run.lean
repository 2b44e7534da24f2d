import JobConsole.Api
import JobConsole.Watch.Display

/-!
# Watching the dashboard

Each resource has a poller.  A poller fetches at once and then at regular times;
when a fetch takes longer than the time between two of them, the next one begins
as soon as it is over.  Time is a number of milliseconds since the watch began,
and the API says how each request settles and how long that takes.  What happens
next is whatever is due first.

A watch ends when it is interrupted, or, if all it is for is to load everything
once, when everything has been loaded or the time for that is over.
-/

namespace JobConsole.Watch

open JobConsole.Http

/-- What the poller of a resource is doing: it waits for the next fetch, or for
the end of one, behind which the next one is due at a known time. -/
inductive Phase where
  | waiting (due : Nat)
  | fetching (due next : Nat) (settlement : Settlement)
deriving DecidableEq

/-- When something happens next. -/
def Phase.due : Phase → Nat
  | .waiting due => due
  | .fetching due _ _ => due

/-- What a watch depends on: the base address of the API, the time between two
fetches, the form of what is printed, and the API. -/
structure Setup (σ : Type) where
  base : String
  interval : Nat
  json : Bool
  answer : Request → σ → (Nat × Settlement) × σ

/-- A watch that is under way. -/
structure State (σ : Type) where
  api : σ
  phases : List (Resource × Phase)
  board : WatchBoard
  requests : List Request
  lines : List String

/-- What ends a watch: everything has been loaded, unless a time comes first; or
a number of lines have been printed and a number of requests sent. -/
inductive Goal where
  | loaded (deadline : Nat)
  | interrupted (lines requests : Nat)
deriving DecidableEq

/-- How a watch has ended. -/
inductive WatchEnd where
  | reached
  | expired
deriving DecidableEq

instance : Inhabited WatchEnd := ⟨.expired⟩

variable {σ : Type}

/-- A watch that has just begun. -/
def State.start (api : σ) : State σ :=
  ⟨api, Resource.all.map fun resource => (resource, .waiting 0), freshBoard, [], []⟩

/-- The number of lines of text that have been printed. -/
def State.lineCount (state : State σ) : Nat :=
  state.lines.foldl (fun count line => count + line.toList.count '\n' + 1) 0

/-- Whether what ends a watch has come about. -/
def Goal.isReached (goal : Goal) (state : State σ) : Bool :=
  match goal with
  | .loaded _ => (missing state.board).isEmpty
  | .interrupted lines requests =>
      lines ≤ state.lineCount && requests ≤ state.requests.length

/-- Whether the time for a watch is over before something that is due. -/
def Goal.isOver (goal : Goal) (due : Nat) : Bool :=
  match goal with
  | .loaded deadline => deadline ≤ due
  | .interrupted _ _ => false

/-- What is due first; of several things, the first one in the list. -/
def firstDue? : List (Resource × Phase) → Option (Resource × Phase)
  | [] => none
  | first :: rest =>
      match firstDue? rest with
      | none => some first
      | some other => if other.2.due < first.2.due then some other else some first

/-- The phases with that of one resource changed. -/
def setPhase (resource : Resource) (phase : Phase) (phases : List (Resource × Phase)) :
    List (Resource × Phase) :=
  phases.map fun entry => if entry.1 = resource then (resource, phase) else entry

/-- The watch after a fetch has ended with a result. -/
def finish (setup : Setup σ) (resource : Resource) (result : Except Api.FetchError resource.Data)
    (next : Nat) (state : State σ) : State σ :=
  let board :=
    match result with
    | .ok data => state.board.push resource data
    | .error _ => state.board
  { state with
    phases := setPhase resource (.waiting next) state.phases
    board := board
    lines := state.lines ++ linesSince setup.json state.board board resource }

/-- The watch after a fetch has begun. -/
def begin (setup : Setup σ) (resource : Resource) (now : Nat) (state : State σ) : State σ :=
  let call := Api.polled setup.base resource
  let next := now + setup.interval
  match call.request with
  | .error error => finish setup resource (call.read (.error error)) next state
  | .ok request =>
      let ((delay, settlement), api) := setup.answer request state.api
      { state with
        api := api
        phases := setPhase resource (.fetching (now + delay) next settlement) state.phases
        requests := state.requests ++ [request] }

/-- The watch after what is due for a resource has happened. -/
def advance (setup : Setup σ) (resource : Resource) (phase : Phase) (state : State σ) : State σ :=
  match phase with
  | .waiting due => begin setup resource due state
  | .fetching due next settlement =>
      let call := Api.polled setup.base resource
      finish setup resource (call.settle fun _ => settlement) (max next due) state

/-- The watch at its end, if no more than the given number of things happen
before. -/
def run (setup : Setup σ) (goal : Goal) : Nat → State σ → Option (State σ × WatchEnd)
  | 0, _ => none
  | steps + 1, state =>
      if goal.isReached state then some (state, .reached)
      else
        match firstDue? state.phases with
        | none => none
        | some (resource, phase) =>
            if goal.isOver phase.due then some (state, .expired)
            else run setup goal steps (advance setup resource phase state)

/-- A watch that ends by reaching its goal has reached it. -/
theorem isReached_of_run {setup : Setup σ} {goal : Goal} {steps : Nat} {start after : State σ}
    (ran : run setup goal steps start = some (after, .reached)) :
    goal.isReached after = true := by
  induction steps generalizing start with
  | zero => simp [run] at ran
  | succ steps ih =>
      unfold run at ran
      split at ran
      · rename_i reached
        cases ran
        exact reached
      · split at ran
        · contradiction
        · split at ran
          · simp at ran
          · exact ih ran

end JobConsole.Watch
