import JobConsole.Cli.UsageError

/-!
# Reading arguments

Arguments are read from left to right.  The name of a command leads one level
down the tree; every level has options and words of its own.  An option that has
been read is taken up only when the next argument comes that is not its value,
so that the faults of a line are found in the order of taking up.  When all
arguments have been read, the levels are completed from the deepest one up:
parameters that are not given take the values of their variables, and what is
required must be there.
-/

namespace JobConsole.Cli

/-- Something given at a level. -/
inductive Entry where
  | switch (switch : Switch)
  | text (parameter : Parameter) (value : String)
  | seconds (parameter : Parameter) (count : Nat)
  | id (id : String)
  | jobId (id : Uuid)
deriving DecidableEq

namespace Entry

/-- Whether an entry gives a parameter. -/
def gives (parameter : Parameter) : Entry → Bool
  | .text other _ => other = parameter
  | .seconds other _ => other = parameter
  | _ => false

/-- Whether an entry belongs to the words of a command. -/
def isWord : Entry → Bool
  | .id _ => true
  | .jobId _ => true
  | _ => false

end Entry

/-- What has been read and not been taken up: a parameter without its value, a
parameter with its value, or words. -/
inductive Pending where
  | nothing
  | awaiting (parameter : Parameter)
  | given (parameter : Parameter) (value : String)
  | words (words : List String)
deriving DecidableEq

/-- What has been read at a node.  Once two dashes have stood alone, only words
can follow. -/
structure Level where
  node : Node
  entries : List Entry
  pending : Pending
  wordsOnly : Bool
deriving DecidableEq

namespace Level

/-- A level at which nothing has been read. -/
def start (node : Node) : Level :=
  ⟨node, [], .nothing, false⟩

/-- The entry of a parameter with a value. -/
def parameterEntry (parameter : Parameter) (value : String) : Except UsageError Entry :=
  match parameter.greatest? with
  | none => .ok (.text parameter value)
  | some greatest =>
      match readSeconds greatest value with
      | .ok count => .ok (.seconds parameter count)
      | .error fault => .error (.badSeconds value parameter fault)

/-- The entry of the identifier of a job. -/
def jobIdEntry (word : String) : Except UsageError Entry :=
  match Uuid.ofText? word with
  | some id => .ok (.jobId id)
  | none => .error (.badJobId word (Uuid.Fault.of word.toList))

/-- The level with a parameter taken up. -/
def give (parameter : Parameter) (value : String) (level : Level) : Except UsageError Level :=
  if level.entries.any (Entry.gives parameter) then .error (.repeated parameter.shown)
  else do
    let entry ← parameterEntry parameter value
    .ok { level with entries := level.entries ++ [entry] }

/-- The level with words taken up. -/
def giveWords (words : List String) (level : Level) : Except UsageError Level :=
  match level.node.words? with
  | some .jobId => do
      let entries ← words.mapM jobIdEntry
      .ok { level with entries := level.entries ++ entries }
  | _ => .ok { level with entries := level.entries ++ words.map Entry.id }

/-- The level with everything taken up. -/
def takeUp (level : Level) : Except UsageError Level :=
  let cleared := { level with pending := .nothing }
  match level.pending with
  | .nothing => .ok cleared
  | .awaiting parameter => .error (.missingValue parameter)
  | .given parameter value => cleared.give parameter value
  | .words words => cleared.giveWords words

/-- The level with a switch turned on, unless the switch ends everything. -/
def turnOn (switch : Switch) (level : Level) : Except UsageError Level :=
  match switch with
  | .help => .error .helpWanted
  | .version => .error .versionWanted
  | switch =>
      if level.entries.contains (.switch switch) then .error (.repeated switch.shown)
      else .ok { level with entries := level.entries ++ [.switch switch] }

/-- An argument for which a level has no place. -/
def stray (argument : String) (level : Level) : UsageError :=
  if level.node.isGroup && !(level.wordsOnly && (level.node.child? argument).isSome) then
    .unknownCommand argument
  else
    .unexpectedArgument argument

/-- Whether the identifier of a job has been read. -/
def hasJobId (level : Level) : Bool :=
  level.entries.any Entry.isWord ||
    match level.pending with
    | .words _ => true
    | _ => false

/-- The level after an argument that is a word. -/
def readWord (argument : String) (level : Level) : Except UsageError Level :=
  match level.node.words?, level.pending with
  | none, _ => .error (level.stray argument)
  | some .ids, .words words => .ok { level with pending := .words (words ++ [argument]) }
  | some words, _ =>
      if words = .jobId && level.hasJobId then .error (level.stray argument)
      else do
        let level ← level.takeUp
        .ok { level with pending := .words [argument] }

/-- The level after an argument that begins with two dashes: a name, and perhaps
a value behind an equals sign. -/
def readLong (name : String) (value : Option String) (level : Level) :
    Except UsageError Level :=
  match level.node.switch? name, level.node.parameter? name, value with
  | some switch, _, none => do (← level.takeUp).turnOn switch
  | some switch, _, some value => .error (.unwantedValue value switch)
  | none, some parameter, some value => do (← level.takeUp).give parameter value
  | none, some parameter, none => do
      let level ← level.takeUp
      .ok { level with pending := .awaiting parameter }
  | none, none, _ => .error (.unexpectedArgument ("--" ++ name))

/-- The level after an argument that is a dash and letters. -/
def readLetters (level : Level) : List Char → Except UsageError Level
  | [] => .ok level
  | letter :: rest =>
      match level.node.switchOfLetter? letter with
      | none => .error (.unexpectedArgument (String.ofList ['-', letter]))
      | some switch => do (← (← level.takeUp).turnOn switch).readLetters rest

/-- The level after an argument that is a value or a word. -/
def readPlain (argument : String) (level : Level) : Except UsageError Level :=
  match level.pending with
  | .awaiting parameter => .ok { level with pending := .given parameter argument }
  | _ => level.readWord argument

/-- The level after an argument that is no name of a command. -/
def read (argument : String) (level : Level) : Except UsageError Level :=
  if level.wordsOnly then level.readWord argument
  else
    match argument.toList with
    | ['-', '-'] => .ok { level with wordsOnly := true }
    | '-' :: '-' :: option =>
        let name := String.ofList (option.takeWhile (· ≠ '='))
        match option.dropWhile (· ≠ '=') with
        | [] => level.readLong name none
        | _ :: value => level.readLong name (some (String.ofList value))
    | '-' :: letter :: rest => level.readLetters (letter :: rest)
    | _ => level.readPlain argument

/-- The node that an argument leads to, if it is the name of a command in a
place for one. -/
def descent? (argument : String) (level : Level) : Option Node :=
  match level.wordsOnly, level.pending with
  | true, _ => none
  | _, .awaiting _ => none
  | _, .words _ => none
  | _, _ => level.node.child? argument

end Level

/-- The variables of an environment, with their values. -/
abbrev Environment : Type :=
  List (String × String)

/-- A level that has been completed: what is given at it, and what the
environment adds. -/
structure CompleteLevel where
  node : Node
  entries : List Entry
  fallbacks : List Entry
deriving DecidableEq

namespace Level

/-- The entries that the environment adds to a level. -/
def fallbacks (environment : Environment) (level : Level) : List Parameter →
    Except UsageError (List Entry)
  | [] => .ok []
  | parameter :: rest =>
      match level.entries.any (Entry.gives parameter),
        environment.lookup parameter.variableName with
      | false, some value => do
          let entry ← parameterEntry parameter value
          .ok (entry :: (← level.fallbacks environment rest))
      | _, _ => level.fallbacks environment rest

/-- What is missing at a level, or too much, given whether a command was named
below it. -/
def fault? (descended : Bool) (level : CompleteLevel) : Option UsageError :=
  let hasAll := level.entries.contains (.switch .all)
  let hasWords := level.entries.any Entry.isWord
  if level.node.isGroup && !descended then
    if level.entries.isEmpty && level.fallbacks.isEmpty then some .nothingGiven
    else some (.missingCommand level.node)
  else
    match level.node.words? with
    | none => none
    | some words =>
        if hasAll && hasWords then
          let allFirst := level.entries.find? (fun entry => entry.isWord || entry = .switch .all) =
            some (.switch .all)
          if allFirst then some (.conflict Switch.all.shown words.shown)
          else some (.conflict words.shown Switch.all.shown)
        else if !hasAll && !hasWords then some (.missingWords words)
        else none

/-- The level with everything taken up and completed from the environment. -/
def complete (environment : Environment) (descended : Bool) (level : Level) :
    Except UsageError CompleteLevel := do
  let level ← level.takeUp
  let fallbacks ← level.fallbacks environment level.node.parameters
  let complete : CompleteLevel := ⟨level.node, level.entries, fallbacks⟩
  match fault? descended complete with
  | some error => .error error
  | none => .ok complete

end Level

/-- The levels that have been reached: the deepest one and those above it, the
root last. -/
structure Scan where
  level : Level
  above : List Level
deriving DecidableEq

namespace Scan

/-- The root, before anything has been read. -/
def start : Scan :=
  ⟨Level.start .root, []⟩

/-- The levels after an argument. -/
def step (scan : Scan) (argument : String) : Except UsageError Scan :=
  match scan.level.descent? argument with
  | some node => .ok ⟨Level.start node, scan.level :: scan.above⟩
  | none => do .ok { scan with level := ← scan.level.read argument }

/-- The completed levels, the deepest one first. -/
def complete (environment : Environment) (scan : Scan) :
    Except UsageError (List CompleteLevel) := do
  let deepest ← scan.level.complete environment false
  let above ← scan.above.mapM (Level.complete environment true)
  .ok (deepest :: above)

end Scan

/-- The completed levels of a command line, the deepest one first. -/
def readLevels (environment : Environment) (arguments : List String) :
    Except UsageError (List CompleteLevel) := do
  (← arguments.foldlM Scan.step Scan.start).complete environment

end JobConsole.Cli
