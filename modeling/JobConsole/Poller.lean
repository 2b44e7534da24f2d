import JobConsole.LogEvent
import JobConsole.Store.Dispatch

/-!
# Pollers

A poller fetches a resource again and again and pushes what it gets into a
store.  A failed fetch leaves the store as it is.  Consecutive failures form a
row; its first failure is a warning, and so is a later one when the last warning
of the row is far enough back.  The clock is read at every fetch, and a reading
is a number of milliseconds.
-/

namespace JobConsole

/-- What a poller is set up with: the names of its source and its store, and the
least time between two warnings of a row. -/
structure PollerSetup where
  source : String
  store : String
  throttle : Nat

/-- One fetch: the reading of the clock when it is over, and its result, which
is an error's message when the fetch has failed. -/
structure Fetch (α : Type) where
  reading : Nat
  result : Except String α

/-- What a poller remembers: the failures of the current row and the reading at
the last warning of the row. -/
structure Poller where
  failures : Nat
  lastWarning : Option Nat
deriving DecidableEq

namespace Poller

variable {α ο γ : Type} [DecidableEq ο] [DecidableEq γ]

/-- The greatest number of failures that is counted. -/
def failureBound : Nat := UInt32.size - 1

/-- A poller that has not fetched yet, or whose last fetch was a success. -/
def fresh : Poller :=
  ⟨0, none⟩

/-- One more failure. -/
def countFailure (failures : Nat) : Nat :=
  min (failures + 1) failureBound

/-- Whether a failure at a reading is due a warning. -/
def isWarningDue (setup : PollerSetup) (poller : Poller) (reading : Nat) : Bool :=
  match poller.lastWarning with
  | none => true
  | some last => setup.throttle ≤ reading - last

/-- The data by which events name a poller. -/
def subject (setup : PollerSetup) : List (String × LogDatum) :=
  [("source", .text setup.source), ("store", .text setup.store)]

/-- The event of a success. -/
def successEvent (setup : PollerSetup) (poller : Poller) : LogEvent :=
  if 0 < poller.failures then
    ⟨.polling, .info, "snapshot source recovered",
      subject setup ++ [("consecutive_failures", .number poller.failures)]⟩
  else
    ⟨.polling, .debug, "snapshot refreshed", subject setup⟩

/-- The event of a failure, the last of a row of the given length. -/
def failureEvent (setup : PollerSetup) (due : Bool) (failures : Nat) (message : String) :
    LogEvent :=
  let data :=
    subject setup ++ [("consecutive_failures", .number failures), ("error", .text message)]
  if due then ⟨.polling, .warn, "snapshot fetch failed", data⟩
  else ⟨.polling, .debug, "snapshot fetch failed (throttled)", data⟩

/-- The poller after a fetch, and the event of the fetch. -/
def observe (setup : PollerSetup) (fetch : Fetch α) (poller : Poller) : Poller × LogEvent :=
  match fetch.result with
  | .ok _ => (fresh, successEvent setup poller)
  | .error message =>
      let due := poller.isWarningDue setup fetch.reading
      let failures := countFailure poller.failures
      (⟨failures, if due then some fetch.reading else poller.lastWarning⟩,
        failureEvent setup due failures message)

/-- The events of a list of fetches. -/
def eventsOf (setup : PollerSetup) : List (Fetch α) → Poller → List LogEvent
  | [], _ => []
  | fetch :: rest, poller =>
      let (poller, event) := poller.observe setup fetch
      event :: eventsOf setup rest poller

/-- The value that a fetch has got. -/
def fetched? (fetch : Fetch α) : Option α :=
  match fetch.result with
  | .ok value => some value
  | .error _ => none

/-- The store after a fetch. -/
def deliver (fetch : Fetch α) (run : Store.Run α ο γ) : Store.Run α ο γ :=
  match fetch.result with
  | .ok value => run.announce value
  | .error _ => run

/-- The store after a list of fetches. -/
def deliverAll (fetches : List (Fetch α)) (run : Store.Run α ο γ) : Store.Run α ο γ :=
  fetches.foldl (fun run fetch => deliver fetch run) run

/-- A failure leaves the store as it is. -/
@[simp]
theorem deliver_error (reading : Nat) (message : String) (run : Store.Run α ο γ) :
    deliver ⟨reading, .error message⟩ run = run :=
  rfl

omit [DecidableEq ο] [DecidableEq γ] in
/-- Every fetch has one event. -/
@[simp]
theorem length_eventsOf (setup : PollerSetup) (fetches : List (Fetch α)) (poller : Poller) :
    (eventsOf setup fetches poller).length = fetches.length := by
  induction fetches generalizing poller with
  | nil => rfl
  | cons fetch rest ih => simp [eventsOf, ih]

end Poller

end JobConsole
