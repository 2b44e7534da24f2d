import JobConsole.Cli.Grammar
import JobConsole.Text.Terminal

/-!
# Usage errors

Why a command line is not carried out: it asks for help or the version, or it
is no command line of the grammar.
-/

namespace JobConsole.Cli

open JobConsole.Text

/-- Why a text is no number of seconds. -/
inductive SecondsFault where
  | empty
  | notADigit
  | tooLarge
  | outOfRange (count greatest : Nat)
deriving DecidableEq

namespace SecondsFault

/-- What a fault is called. -/
def message : SecondsFault → String
  | .empty => "cannot parse integer from empty string"
  | .notADigit => "invalid digit found in string"
  | .tooLarge => "number too large to fit in target type"
  | .outOfRange count greatest => natText count ++ " is not in 1..=" ++ natText greatest

end SecondsFault

/-- Why a command line is not carried out. -/
inductive UsageError where
  | helpWanted
  | versionWanted
  | nothingGiven
  | unexpectedArgument (shown : String)
  | unknownCommand (word : String)
  | conflict (first second : String)
  | repeated (shown : String)
  | missingValue (parameter : Parameter)
  | unwantedValue (value : String) (switch : Switch)
  | missingWords (words : Words)
  | badSeconds (value : String) (parameter : Parameter) (fault : SecondsFault)
  | badJobId (value : String) (fault : Uuid.Fault)
  | missingCommand (node : Node)
deriving DecidableEq

namespace UsageError

/-- The name and the version of the program. -/
def versionText : String := "jobdash 0.1.0"

/-- What is said of a value that does not fit. -/
def badValueMessage (value shown reason : String) : String :=
  "error: invalid value '" ++ emphasised value ++ "' for '" ++ shown ++ "': " ++ reason

/-- What is written of a command line, in which words of it stand out.  Nothing is
written when a help text is shown instead. -/
def written? : UsageError → Option String
  | .helpWanted => none
  | .nothingGiven => none
  | .versionWanted => some versionText
  | .unexpectedArgument shown =>
      some ("error: unexpected argument '" ++ emphasised shown ++ "' found")
  | .unknownCommand word => some ("error: unrecognized subcommand '" ++ emphasised word ++ "'")
  | .conflict first second =>
      some ("error: the argument '" ++ first ++ "' cannot be used with '" ++ second ++ "'")
  | .repeated shown =>
      some ("error: the argument '" ++ shown ++ "' cannot be used multiple times")
  | .missingValue parameter =>
      some ("error: a value is required for '" ++ parameter.shown ++ "' but none was supplied")
  | .unwantedValue value switch =>
      some ("error: unexpected value '" ++ emphasised value ++ "' for '" ++ switch.shown ++
        "' found; no more were expected")
  | .missingWords words =>
      some ("error: the following required arguments were not provided:\n  " ++ words.required)
  | .badSeconds value parameter fault =>
      some (badValueMessage value parameter.shown fault.message)
  | .badJobId value fault => some (badValueMessage value Words.jobId.shown fault.message)
  | .missingCommand node =>
      some ("error: '" ++ node.path ++ "' requires a subcommand but one was not provided\n" ++
        "  [subcommands: " ++ String.intercalate ", " (node.children.map Prod.fst) ++ "]")

/-- What is seen of it. -/
def message? (error : UsageError) : Option String :=
  error.written?.map visible

end UsageError

/-- The number that digits stand for, read from the left onto a start; it must
fit in 64 bits. -/
def readCount (start : Nat) : List Char → Except SecondsFault Nat
  | [] => .ok start
  | c :: rest =>
      if !isDigit c then .error .notADigit
      else if start * 10 + digitValue c < UInt64.size then
        readCount (start * 10 + digitValue c) rest
      else .error .tooLarge

/-- The digits of a number that may have a plus sign. -/
def unsignedDigits : List Char → Except SecondsFault (List Char)
  | [] => .error .empty
  | ['+'] => .error .notADigit
  | '+' :: digits => .ok digits
  | digits => .ok digits

/-- The number of seconds that a text stands for: at least one, and at most the
given number. -/
def readSeconds (greatest : Nat) (text : String) : Except SecondsFault Nat := do
  let count ← readCount 0 (← unsignedDigits text.toList)
  if 1 ≤ count ∧ count ≤ greatest then .ok count else .error (.outOfRange count greatest)

/-- A number of seconds that was read lies in its range. -/
theorem range_of_readSeconds {greatest count : Nat} {text : String}
    (read : readSeconds greatest text = .ok count) : 1 ≤ count ∧ count ≤ greatest := by
  simp only [readSeconds] at read
  cases digitsRead : unsignedDigits text.toList with
  | error fault => simp [digitsRead, Bind.bind, Except.bind] at read
  | ok digits =>
      cases counted : readCount 0 digits with
      | error fault => simp [digitsRead, counted, Bind.bind, Except.bind] at read
      | ok found =>
          simp only [digitsRead, counted, Bind.bind, Except.bind] at read
          split at read
          · rename_i inRange
            cases read
            exact inRange
          · contradiction

end JobConsole.Cli
