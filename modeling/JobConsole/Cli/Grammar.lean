import JobConsole.Batch.Kind
import JobConsole.Uuid

/-!
# The grammar of command lines

Commands form a tree: the root has four commands, three of which are groups.
Each node of the tree takes switches, parameters with a value, and perhaps
words.  The parameters for the connection and the switch for JSON are taken at
every node.
-/

namespace JobConsole.Cli

open JobConsole.Batch

/-- A node of the tree of commands. -/
inductive Node where
  | root
  | watch
  | recurringJobs
  | list
  | act (kind : Kind)
  | jobs
  | notice
  | problems
  | dismissSevere
  | copyIssue
deriving DecidableEq

/-- An option without a value. -/
inductive Switch where
  | json
  | once
  | all
  | help
  | version
deriving DecidableEq

/-- An option with a value. -/
inductive Parameter where
  | apiBaseUrl
  | pollInterval
  | requestTimeout
  | clipboardCommand
deriving DecidableEq

/-- What the words of a command are. -/
inductive Words where
  | ids
  | jobId
deriving DecidableEq

namespace Switch

/-- The name of a switch, without its dashes. -/
def name : Switch → String
  | .json => "json"
  | .once => "once"
  | .all => "all"
  | .help => "help"
  | .version => "version"

/-- The letter of a switch, if it has one. -/
def letter? : Switch → Option Char
  | .help => some 'h'
  | .version => some 'V'
  | _ => none

/-- A switch as it is shown to people. -/
def shown (switch : Switch) : String :=
  "--" ++ switch.name

end Switch

namespace Parameter

/-- The name of a parameter, without its dashes. -/
def name : Parameter → String
  | .apiBaseUrl => "api-base-url"
  | .pollInterval => "poll-interval-secs"
  | .requestTimeout => "request-timeout-secs"
  | .clipboardCommand => "clipboard-command"

/-- What stands for the value of a parameter. -/
def valueName : Parameter → String
  | .apiBaseUrl => "URL"
  | .pollInterval => "SECS"
  | .requestTimeout => "SECS"
  | .clipboardCommand => "CMD"

/-- A parameter as it is shown to people. -/
def shown (parameter : Parameter) : String :=
  "--" ++ parameter.name ++ " <" ++ parameter.valueName ++ ">"

/-- The variable of the environment that gives a parameter when the command line
does not. -/
def variableName : Parameter → String
  | .apiBaseUrl => "JOBDASH_API_BASE_URL"
  | .pollInterval => "JOBDASH_POLL_INTERVAL_SECS"
  | .requestTimeout => "JOBDASH_REQUEST_TIMEOUT_SECS"
  | .clipboardCommand => "JOBDASH_CLIPBOARD_COMMAND"

/-- The greatest number that a parameter takes, if it takes numbers. -/
def greatest? : Parameter → Option Nat
  | .pollInterval => some 300
  | .requestTimeout => some 120
  | _ => none

/-- The parameters that are taken at every node, in the order in which they are
listed. -/
def common : List Parameter :=
  [.apiBaseUrl, .pollInterval, .requestTimeout]

end Parameter

namespace Words

/-- Words as they are shown when they are required. -/
def required : Words → String
  | .ids => "<ID>..."
  | .jobId => "<JOB_ID>"

/-- Words as they are shown elsewhere. -/
def shown : Words → String
  | .ids => "[ID]..."
  | .jobId => "<JOB_ID>"

end Words

namespace Node

/-- The nodes right below a node, under their names. -/
def children : Node → List (String × Node)
  | .root => [
      ("watch", .watch), ("recurring-jobs", .recurringJobs), ("jobs", .jobs),
      ("problems", .problems)]
  | .recurringJobs => ("list", .list) :: Kind.all.map fun kind => (kind.name, .act kind)
  | .jobs => [("notice", .notice)]
  | .problems => [("dismiss-severe", .dismissSevere), ("copy-issue", .copyIssue)]
  | _ => []

/-- The name of a node, with those of the nodes above it. -/
def path : Node → String
  | .root => "jobdash"
  | .watch => "jobdash watch"
  | .recurringJobs => "jobdash recurring-jobs"
  | .list => "jobdash recurring-jobs list"
  | .act kind => "jobdash recurring-jobs " ++ kind.name
  | .jobs => "jobdash jobs"
  | .notice => "jobdash jobs notice"
  | .problems => "jobdash problems"
  | .dismissSevere => "jobdash problems dismiss-severe"
  | .copyIssue => "jobdash problems copy-issue"

/-- Whether a node only leads to others. -/
def isGroup (node : Node) : Bool :=
  !node.children.isEmpty

/-- The switches that a node takes. -/
def switches : Node → List Switch
  | .root => [.json, .help, .version]
  | .watch => [.once, .json, .help]
  | .act _ => [.all, .json, .help]
  | _ => [.json, .help]

/-- The parameters that a node takes, in the order in which they are listed. -/
def parameters : Node → List Parameter
  | .copyIssue => .clipboardCommand :: Parameter.common
  | _ => Parameter.common

/-- The words that a node takes, if it takes any. -/
def words? : Node → Option Words
  | .act _ => some .ids
  | .notice => some .jobId
  | _ => none

/-- The node with a name right below a node. -/
def child? (node : Node) (name : String) : Option Node :=
  node.children.lookup name

/-- The switch with a name at a node. -/
def switch? (node : Node) (name : String) : Option Switch :=
  node.switches.find? fun switch => switch.name == name

/-- The switch with a letter at a node. -/
def switchOfLetter? (node : Node) (letter : Char) : Option Switch :=
  node.switches.find? fun switch => switch.letter? == some letter

/-- The parameter with a name at a node. -/
def parameter? (node : Node) (name : String) : Option Parameter :=
  node.parameters.find? fun parameter => parameter.name == name

end Node

end JobConsole.Cli
