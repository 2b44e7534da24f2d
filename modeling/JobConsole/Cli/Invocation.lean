import JobConsole.Cli.Arguments

/-!
# Invocations

An invocation is what a command line means: options and a command.  An option
that is given at several levels counts where it is given deepest.  The command
line goes before the environment, and the environment before the standard
values.
-/

namespace JobConsole.Cli

open JobConsole.Batch

/-- The options that every command has; times are in seconds. -/
structure Options where
  apiBaseUrl : String
  pollInterval : Nat
  requestTimeout : Nat
  json : Bool
deriving DecidableEq

namespace Options

/-- The standard values. -/
def standard : Options :=
  ⟨"http://127.0.0.1:8000", 5, 10, false⟩

end Options

/-- Which recurring jobs an action is for. -/
inductive Targets where
  | all
  | ids (ids : List String)
deriving DecidableEq

/-- A command. -/
inductive Command where
  | watch (once : Bool)
  | list
  | act (kind : Kind) (targets : Targets)
  | notice (id : Uuid)
  | dismissSevere
  | copyIssue (clipboardCommand : Option String)
deriving DecidableEq

namespace Command

/-- The name of a command, with that of its group. -/
def name : Command → String
  | .watch _ => "watch"
  | .list => "recurring-jobs list"
  | .act kind _ => "recurring-jobs " ++ kind.name
  | .notice _ => "jobs notice"
  | .dismissSevere => "problems dismiss-severe"
  | .copyIssue _ => "problems copy-issue"

end Command

/-- What a command line means. -/
structure Invocation where
  options : Options
  command : Command
deriving DecidableEq

namespace Entry

/-- The text that an entry gives to a parameter. -/
def textFor? (parameter : Parameter) : Entry → Option String
  | .text other value => if other = parameter then some value else none
  | _ => none

/-- The number that an entry gives to a parameter. -/
def secondsFor? (parameter : Parameter) : Entry → Option Nat
  | .seconds other count => if other = parameter then some count else none
  | _ => none

/-- The identifier in an entry. -/
def id? : Entry → Option String
  | .id word => some word
  | _ => none

/-- The identifier of a job in an entry. -/
def jobId? : Entry → Option Uuid
  | .jobId uuid => some uuid
  | _ => none

end Entry

namespace Invocation

/-- The entries of levels in the order of their weight: the command line before
the environment, deeper levels before those above. -/
def weighed (levels : List CompleteLevel) : List Entry :=
  levels.flatMap CompleteLevel.entries ++ levels.flatMap CompleteLevel.fallbacks

/-- The options in entries. -/
def optionsOf (entries : List Entry) : Options where
  apiBaseUrl := (entries.findSome? (Entry.textFor? .apiBaseUrl)).getD Options.standard.apiBaseUrl
  pollInterval :=
    (entries.findSome? (Entry.secondsFor? .pollInterval)).getD Options.standard.pollInterval
  requestTimeout :=
    (entries.findSome? (Entry.secondsFor? .requestTimeout)).getD Options.standard.requestTimeout
  json := entries.contains (.switch .json)

/-- The command of a node with the entries of its level, if the node is a
command. -/
def command? (node : Node) (entries : List Entry) : Option Command :=
  match node with
  | .watch => some (.watch (entries.contains (.switch .once)))
  | .list => some .list
  | .act kind =>
      if entries.contains (.switch .all) then some (.act kind .all)
      else some (.act kind (.ids (entries.filterMap Entry.id?)))
  | .notice => (entries.findSome? Entry.jobId?).map .notice
  | .dismissSevere => some .dismissSevere
  | .copyIssue => some (.copyIssue (entries.findSome? (Entry.textFor? .clipboardCommand)))
  | _ => none

/-- The meaning of completed levels, the deepest one first. -/
def ofLevels : List CompleteLevel → Except UsageError Invocation
  | [] => .error .nothingGiven
  | deepest :: above =>
      match command? deepest.node (weighed [deepest]) with
      | some command => .ok ⟨optionsOf (weighed (deepest :: above)), command⟩
      | none => .error (.missingCommand deepest.node)

/-- The meaning of a command line. -/
def read (environment : Environment) (arguments : List String) :
    Except UsageError Invocation := do
  ofLevels (← readLevels environment arguments)

end Invocation

end JobConsole.Cli
