import JobConsole.Clipboard.Tool

/-!
# Well-known tools

The behaviour of a few programs that read a text, as pure functions: `cat` takes
every text, `true` and `false` only end, `grep` ends according to whether a line
holds its pattern, and `sh` runs a short script.  A small tree of well-known
directories and files tells why other programs cannot be started.  With all this,
runs of commands that use a clipboard tool can be played without starting a
program.
-/

namespace JobConsole.Clipboard

open JobConsole.Text

/-- Whether a list begins with another one. -/
def startsWith (pattern text : List Char) : Bool :=
  pattern.isPrefixOf text

/-- Whether a list holds another one as a run of neighbours. -/
def holds (pattern : List Char) : List Char → Bool
  | [] => pattern.isEmpty
  | c :: rest => startsWith pattern (c :: rest) || holds pattern rest

/-- The lines of a text, the last one only if it is not empty. -/
def lines (text : List Char) : List (List Char) :=
  match text.splitOn '\n' with
  | [] => []
  | first :: rest =>
      let all := first :: rest
      if all.getLast? = some [] then all.dropLast else all

/-- The part of a directory in the names of the known tools. -/
def directories : List String :=
  ["", "/bin/", "/usr/bin/"]

/-- Whether a program is the one with a name. -/
def isNamed (name program : String) : Bool :=
  directories.any fun directory => directory ++ name == program

/-- Well-known directories, each as the names on its path, the last one first. -/
def directoryPaths : List (List String) := [
  [], ["bin"], ["dev"], ["etc"], ["home"], ["lib"], ["opt"], ["proc"], ["root"], ["run"],
  ["sbin"], ["sys"], ["tmp"], ["usr"], ["var"], ["bin", "usr"], ["lib", "usr"], ["local", "usr"],
  ["sbin", "usr"], ["share", "usr"], ["bin", "local", "usr"], ["log", "var"], ["tmp", "var"]]

/-- Well-known files that can be read and are no programs. -/
def filePaths : List (List String) := [
  ["null", "dev"], ["passwd", "etc"], ["group", "etc"], ["hosts", "etc"], ["hostname", "etc"]]

/-- What a path leads to. -/
inductive Place where
  | directory
  | file
  | missing
  | belowFile
  | nameTooLong
deriving DecidableEq

namespace Place

/-- The greatest number of bytes in a name. -/
def nameLimit : Nat := 255

/-- The greatest number of bytes in a path. -/
def pathLimit : Nat := 4095

/-- What names lead to from a path. -/
def follow (path : List String) : List String → Place
  | [] =>
      if path ∈ directoryPaths then .directory
      else if path ∈ filePaths then .file
      else .missing
  | name :: rest =>
      if path ∈ filePaths then .belowFile
      else if path ∉ directoryPaths then .missing
      else if name = "" ∨ name = "." then follow path rest
      else if name = ".." then follow path.tail rest
      else if name.utf8ByteSize > nameLimit then .nameTooLong
      else follow (name :: path) rest

/-- What a text leads to.  One that does not begin with a slash is followed from a
directory in which nothing is. -/
def ofText (text : String) : Place :=
  let names := text.splitOn "/"
  if text.utf8ByteSize > pathLimit then .nameTooLong
  else if names.head? = some "" then follow [] names
  else follow ["tmp"] names

/-- Why what stands at a place is no program that can be started. -/
def startFault : Place → StartFault
  | .directory => .denied
  | .file => .denied
  | .missing => .notFound
  | .belowFile => .notADirectory
  | .nameTooLong => .nameTooLong

end Place

/-- Why a program cannot be started.  A name without a slash is looked for in the
directories of programs. -/
def startFault (program : String) : StartFault :=
  if program.toList.contains '/' then (Place.ofText program).startFault
  else if program = "." ∨ program = ".." then .denied
  else if program.utf8ByteSize > Place.nameLimit then .nameTooLong
  else .notFound

/-- Whether a word of a command line is an option; a single hyphen stands for the
standard input. -/
def isOption (word : String) : Bool :=
  word.toList.head? = some '-' && word != "-"

/-- Whether a word is an option of `cat`: letters that say how the text is shown. -/
def isCatOption (word : String) : Bool :=
  isOption word && word.toList.tail.all fun c => "AbeEnstTuv".toList.contains c

/-- The status of `cat` with arguments: each must be an option, the standard input
or a file. -/
def catStatus (arguments : List String) : Nat :=
  if arguments.all (fun word => word = "-" || isCatOption word || Place.ofText word = .file) then 0
  else 1

/-- The status of `grep` with arguments on a text.  Of the options, `v` asks for
a line without the pattern; the others do not matter. -/
def grepStatus (arguments : List String) (text : List Char) : Nat :=
  match arguments.filter (fun word => !isOption word) with
  | [] => 2
  | pattern :: files =>
      let inverted := (arguments.filter isOption).any fun word => word.toList.contains 'v'
      if files.any (· != "-") then 2
      else if (lines text).any (fun line => holds pattern.toList line != inverted) then 0
      else 1

/-- A text with a blank in each place where the variable for separators stands. -/
def expandBlanks : List Char → List Char
  | [] => []
  | '$' :: '\x7b' :: 'I' :: 'F' :: 'S' :: '\x7d' :: rest => ' ' :: expandBlanks rest
  | c :: rest => c :: expandBlanks rest

/-- The words of a command of a script.  A redirection of the output is left
out. -/
def scriptWords (command : List Char) : List String :=
  (words ((expandBlanks command).takeWhile (· ≠ '>'))).map String.ofList

/-- What one command of a script leads to: a status with which the script goes on,
or the end of the whole script. -/
inductive ScriptStep where
  | continues (status : Nat)
  | ends (toolEnd : ToolEnd)
deriving DecidableEq

/-- The signal that an option of a kill command names. -/
def signalOf? (option : String) : Option Nat :=
  match option.toList with
  | '-' :: name =>
      if name.all isDigit && !name.isEmpty then some (readDigits name)
      else (signalNames.find? fun entry =>
        entry.2.toList == name || entry.2.toList == ['S', 'I', 'G'] ++ name).map Prod.fst
  | _ => none

/-- The greatest number of a signal. -/
def greatestSignal : Nat := 64

/-- The signals that do not end a program that has made no provision for them. -/
def harmlessSignals : List Nat :=
  [0, 17, 18, 19, 20, 21, 22, 23, 28]

/-- What a signal that a script sends itself leads to. -/
def signalStep (signal : Nat) : ScriptStep :=
  if signal > greatestSignal then .continues 1
  else if signal ∈ harmlessSignals then .continues 0
  else .ends (.killed signal)

/-- How one command of a script ends on a text. -/
def scriptStep (status : Nat) (text : List Char) : List String → ScriptStep
  | [] => .continues status
  | ["kill", target] => if target = "$$" then .ends (.killed 15) else .continues 1
  | ["kill", option, target] =>
      match signalOf? option with
      | some signal => if target = "$$" then signalStep signal else .continues 1
      | none => .continues 1
  | ["exit"] => .ends (.exited status)
  | ["exit", code] =>
      if code.toList.all isDigit then .ends (.exited (readDigits code.toList % 256))
      else .ends (.exited 2)
  | program :: arguments =>
      if isNamed "true" program || program = ":" then .continues 0
      else if isNamed "cat" program then .continues (catStatus arguments)
      else if isNamed "false" program then .continues 1
      else if isNamed "grep" program then .continues (grepStatus arguments text)
      else if startFault program = .denied then .continues 126
      else .continues 127

/-- How the commands of a script end on a text. -/
def scriptEnd (text : List Char) (status : Nat) : List (List String) → ToolEnd
  | [] => .exited status
  | command :: rest =>
      match scriptStep status text command with
      | .continues status => scriptEnd text status rest
      | .ends toolEnd => toolEnd

/-- Whether a quotation mark of a script has no partner. -/
def hasOpenQuote (script : List Char) : Bool :=
  script.count '\"' % 2 = 1 || script.count '\'' % 2 = 1

/-- How a known tool ends on a text; every other tool is not found. -/
def benchEnd (tool : Tool) (text : String) : ToolEnd :=
  if (tool.program :: tool.arguments).any fun word => word.toList.contains '\x00' then
    .notStarted .unusableName
  else if isNamed "true" tool.program then .exited 0
  else if isNamed "cat" tool.program then .exited (catStatus tool.arguments)
  else if isNamed "false" tool.program then .exited 1
  else if isNamed "grep" tool.program then .exited (grepStatus tool.arguments text.toList)
  else if isNamed "sh" tool.program then
    match tool.arguments with
    | "-c" :: script :: _ =>
        if hasOpenQuote script.toList then .exited 2
        else scriptEnd text.toList 0 ((script.toList.splitOn ';').map scriptWords)
    | [] => .exited 0
    | _ => .exited 2
  else .notStarted (startFault tool.program)

end JobConsole.Clipboard
