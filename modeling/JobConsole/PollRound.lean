import JobConsole.Board
import JobConsole.Poller
import JobConsole.Session

/-!
# A round of polling

In a round every polled resource is fetched once, and what has been fetched is
pushed into the board.
-/

namespace JobConsole

variable {ο γ : Type} [DecidableEq ο] [DecidableEq γ]

/-- The least time between two warnings of a row of failures, in milliseconds. -/
def warningThrottle : Nat := 30000

/-- What the poller of a resource is set up with. -/
def pollerSetup (resource : Resource) : PollerSetup :=
  ⟨resource.name, resource.name, warningThrottle⟩

/-- A result as a fetch at a reading of the clock. -/
def fetchOf {α : Type} (reading : Nat) (result : Except Api.FetchError α) : Fetch α :=
  ⟨reading, result.mapError Api.FetchError.message⟩

/-- Fetches a resource for the first time and pushes what has been fetched. -/
def pollFirst (base : String) (resource : Resource) (board : Board ο γ) :
    Session (Board ο γ) := do
  let fetch := fetchOf 0 (← Session.call (Api.polled base resource))
  Session.reportAll (Poller.eventsOf (pollerSetup resource) [fetch] Poller.fresh)
  pure (board.update resource (Poller.deliver fetch))

/-- Fetches every resource of a list for the first time. -/
def pollRound (base : String) : List Resource → Board ο γ → Session (Board ο γ)
  | [], board => pure board
  | resource :: rest, board => do pollRound base rest (← pollFirst base resource board)

end JobConsole
