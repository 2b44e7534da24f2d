import JobConsole.Cli.Grammar

/-!
# Help

The help text of a node shows how it is used, the commands below it, and the
options it takes.
-/

namespace JobConsole.Cli

namespace Switch

/-- A switch in a help text. -/
def helpLine (switch : Switch) : String :=
  match switch.letter? with
  | some letter => "  " ++ String.ofList ['-', letter] ++ ", " ++ switch.shown
  | none => "      " ++ switch.shown

end Switch

namespace Parameter

/-- A parameter in a help text. -/
def helpLine (parameter : Parameter) : String :=
  "      " ++ parameter.shown ++ " [env: " ++ parameter.variableName ++ "]"

end Parameter

namespace Node

/-- How a node is used. -/
def usageLine (node : Node) : String :=
  "Usage: " ++ node.path ++ " [OPTIONS]" ++
    (if node.isGroup then " <COMMAND>" else "") ++
    match node.words? with
    | some words => " " ++ words.shown
    | none => ""

/-- The lines of the help text of a node. -/
def helpLines (node : Node) : List String :=
  let commands :=
    if node.isGroup then "" :: "Commands:" :: node.children.map fun child => "  " ++ child.1
    else []
  node.usageLine :: commands ++ ["", "Options:"] ++ node.parameters.map Parameter.helpLine ++
    node.switches.map Switch.helpLine

end Node

end JobConsole.Cli
