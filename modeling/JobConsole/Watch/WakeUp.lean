import JobConsole.Watch.Display

/-!
# Waking up the waiter

Whoever waits for all resources to be loaded looks at the stores one after the
other, goes to sleep if one of them had no snapshot, and looks again after each
wake-up.

A poller pushes in two steps.  It stores a snapshot, and then the observer of the
watch is told, which rings.  Ringing wakes the waiter if it sleeps; otherwise a
wake-up is kept, which the waiter takes instead of going to sleep.  The steps of
the pollers and the waiter interleave in any order.

The bell itself is not part of the program.  Here it is whatever can be rung and
waited for, and `Bell.IsReliable` says what is relied on.
-/

namespace JobConsole.Watch

open JobConsole.Store (Run)

/-- A bell: what it keeps before it has been rung; what it keeps after it has been
rung while somebody sleeps there or not, and whether it wakes a sleeper; and what
it keeps after somebody has come to sleep, and whether that one is awake again at
once. -/
structure Bell (ν : Type) where
  silent : ν
  ring (asleep : Bool) (kept : ν) : ν × Bool
  rest (kept : ν) : ν × Bool

namespace Bell

variable {ν : Type}

/-- A wake-up is kept: who comes to sleep is awake again at once. -/
def Keeps (bell : Bell ν) (kept : ν) : Prop :=
  (bell.rest kept).2 = true

/-- A ring wakes whoever sleeps; if nobody does, a wake-up is kept. -/
structure IsReliable (bell : Bell ν) : Prop where
  wakes : ∀ kept, (bell.ring true kept).2 = true
  keeps : ∀ kept, bell.Keeps (bell.ring false kept).1

/-- The bell that keeps one wake-up, however often it is rung. -/
def single : Bell Bool where
  silent := false
  ring asleep kept := if asleep then (kept, true) else (true, false)
  rest kept := (false, kept)

theorem isReliable_single : single.IsReliable :=
  ⟨fun _ => rfl, fun _ => rfl⟩

end Bell

/-- The run after observers that only take note have been told of all that
waits. -/
def tellAll {α : Type} (run : Run α Unit Unit) : Run α Unit Unit :=
  match run.drain Run.passive (run.store.pending.length + 1) with
  | some (run, _) => run
  | none => run

/-- What the waiter is doing: it is looking at the stores, some of which are left
while others had no snapshot; it is about to sleep; it sleeps; or it has found no
store without a snapshot. -/
inductive Waiter where
  | looking (left found : List Resource)
  | drowsy
  | asleep
  | finished
deriving DecidableEq

/-- A waiter that is about to look. -/
def Waiter.awake : Waiter :=
  .looking Resource.all []

/-- The stores, the resources that have been stored and not told, what the bell
keeps, and what the waiter is doing. -/
structure Alarm (ν : Type) where
  board : WatchBoard
  untold : List Resource
  kept : ν
  waiter : Waiter

/-- A step of a poller or of the waiter. -/
inductive AlarmStep where
  | store (resource : Resource) (data : resource.Data)
  | tell (resource : Resource)
  | look
  | lieDown

/-- Whether a step is one of the waiter. -/
def AlarmStep.isOwn : AlarmStep → Bool
  | .look => true
  | .lieDown => true
  | _ => false

namespace Alarm

variable {ν : Type}

/-- What the waiter does after it has looked at one more store, or at all of
them. -/
def look (board : WatchBoard) : List Resource → List Resource → Waiter
  | resource :: left, found =>
      .looking left
        (if (board.store resource).store.current.isLoaded then found else found ++ [resource])
  | [], [] => .finished
  | [], _ :: _ => .drowsy

/-- The alarm after a snapshot has been stored. -/
def store (alarm : Alarm ν) (resource : Resource) (data : resource.Data) : Alarm ν :=
  { alarm with
    board := alarm.board.update resource (Run.perform (.push data))
    untold := resource :: alarm.untold }

variable (bell : Bell ν)

/-- Nothing has been loaded, and the waiter is about to look. -/
def start : Alarm ν :=
  ⟨freshBoard, [], bell.silent, .awake⟩

/-- The alarm after the bell has been rung. -/
def rung (alarm : Alarm ν) : Alarm ν :=
  match alarm.waiter with
  | .asleep =>
      let (kept, wakes) := bell.ring true alarm.kept
      { alarm with kept := kept, waiter := if wakes then .awake else .asleep }
  | _ => { alarm with kept := (bell.ring false alarm.kept).1 }

/-- The alarm after the observer of a resource has been told of what was stored;
each call of the observer rings. -/
def tell (alarm : Alarm ν) (resource : Resource) : Alarm ν :=
  let board := alarm.board.update resource tellAll
  let calls := Run.callsOf (Run.eventsSince (alarm.board.store resource) (board.store resource))
  calls.foldl (fun alarm _ => alarm.rung bell)
    { alarm with board := board, untold := alarm.untold.filter (· ≠ resource) }

/-- The alarm after a step, if the step is possible.  A poller tells of what it
has stored before it stores again. -/
def step? (step : AlarmStep) (alarm : Alarm ν) : Option (Alarm ν) :=
  match step with
  | .store resource data =>
      if resource ∈ alarm.untold then none else some (alarm.store resource data)
  | .tell resource =>
      if resource ∈ alarm.untold then some (alarm.tell bell resource) else none
  | .look =>
      match alarm.waiter with
      | .looking left found => some { alarm with waiter := look alarm.board left found }
      | _ => none
  | .lieDown =>
      match alarm.waiter with
      | .drowsy =>
          let (kept, atOnce) := bell.rest alarm.kept
          some { alarm with kept := kept, waiter := if atOnce then .awake else .asleep }
      | _ => none

/-- The alarm after a sequence of steps, if all of them are possible. -/
def steps? : List AlarmStep → Alarm ν → Option (Alarm ν)
  | [], alarm => some alarm
  | step :: rest, alarm => (alarm.step? bell step).bind (steps? rest)

/-- What can come about by steps. -/
inductive Reachable : Alarm ν → Prop
  | start : Reachable (start bell)
  | step {alarm next : Alarm ν} {step : AlarmStep} (reachable : Reachable alarm)
      (stepped : alarm.step? bell step = some next) : Reachable next

end Alarm

end JobConsole.Watch
