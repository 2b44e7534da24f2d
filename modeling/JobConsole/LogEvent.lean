/-!
# Log events

What the console reports beside its output: the area that an event belongs to, a
level, a message and named data.  Events are values that an operation returns;
nothing is written here.
-/

namespace JobConsole

/-- What an event is about. -/
inductive LogArea where
  | polling
  | batch
  | notice
  | problems
  | command
deriving DecidableEq

/-- How much an event matters. -/
inductive LogLevel where
  | debug
  | info
  | warn
deriving DecidableEq

namespace LogLevel

/-- The name of a level. -/
def name : LogLevel → String
  | .debug => "DEBUG"
  | .info => "INFO"
  | .warn => "WARN"

end LogLevel

/-- A datum of an event. -/
inductive LogDatum where
  | number (value : Int)
  | flag (value : Bool)
  | text (value : String)
deriving DecidableEq

/-- An event. -/
structure LogEvent where
  area : LogArea
  level : LogLevel
  message : String
  fields : List (String × LogDatum)
deriving DecidableEq

namespace LogEvent

/-- A number as a datum. -/
def natural (n : Nat) : LogDatum :=
  .number n

/-- The events of an area. -/
def ofArea (area : LogArea) (events : List LogEvent) : List LogEvent :=
  events.filter fun event => event.area = area

/-- Whether an event is a warning. -/
def isWarning (event : LogEvent) : Bool :=
  event.level = .warn

end LogEvent

end JobConsole
