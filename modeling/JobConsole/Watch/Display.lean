import JobConsole.Board

/-!
# What a watch shows

While the dashboard is watched, an observer of each store prints every snapshot
that is pushed, either as a text for people or as one line of JSON.
-/

namespace JobConsole.Watch

open JobConsole.Json

/-- The board of a watch: each store has one observer. -/
abbrev WatchBoard : Type :=
  Board Unit Unit

/-- A board that is being watched and has not been loaded. -/
def freshBoard : WatchBoard :=
  Resource.all.foldl (fun board resource => board.scope resource () ()) Board.empty

/-- The line that shows data of a resource. -/
def line (json : Bool) (resource : Resource) (data : resource.Data) : String :=
  if json then
    (Value.object
      [("store", .string resource.name), ("value", resource.encode data)]).sorted.compact
  else
    resource.summary data

/-- The lines that are printed from one state of a board to a later one. -/
def linesSince (json : Bool) (earlier board : WatchBoard) (resource : Resource) : List String :=
  (Store.Run.callsOf (Store.Run.eventsSince (earlier.store resource) (board.store resource))).map
    fun (_, data) => line json resource data

/-- The resources that have not been loaded. -/
def missing (board : WatchBoard) : List Resource :=
  Resource.all.filter fun resource => !(board.store resource).store.current.isLoaded

end JobConsole.Watch
