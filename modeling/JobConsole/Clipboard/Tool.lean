import JobConsole.Text.Blank
import JobConsole.Text.Decimal

/-!
# Clipboard tools

A clipboard tool is a program that reads a text from its standard input.  A
command line is split at blanks: its first word is the program, the others are
its arguments.  A run of a tool that does not end with status zero is a failure,
and so is a tool that cannot be started.
-/

namespace JobConsole.Clipboard

open JobConsole.Text

/-- A program with arguments. -/
structure Tool where
  program : String
  arguments : List String
deriving DecidableEq

namespace Tool

/-- The tool of a command line, unless the line is blank. -/
def ofCommandLine? (line : String) : Option Tool :=
  match (words line.toList).map String.ofList with
  | [] => none
  | program :: arguments => some ⟨program, arguments⟩

end Tool

/-- The names of signals. -/
def signalNames : List (Nat × String) := [
  (1, "SIGHUP"), (2, "SIGINT"), (3, "SIGQUIT"), (4, "SIGILL"), (5, "SIGTRAP"), (6, "SIGABRT"),
  (7, "SIGBUS"), (8, "SIGFPE"), (9, "SIGKILL"), (10, "SIGUSR1"), (11, "SIGSEGV"),
  (12, "SIGUSR2"), (13, "SIGPIPE"), (14, "SIGALRM"), (15, "SIGTERM"), (16, "SIGSTKFLT"),
  (17, "SIGCHLD"), (18, "SIGCONT"), (19, "SIGSTOP"), (20, "SIGTSTP"), (21, "SIGTTIN"),
  (22, "SIGTTOU"), (23, "SIGURG"), (24, "SIGXCPU"), (25, "SIGXFSZ"), (26, "SIGVTALRM"),
  (27, "SIGPROF"), (28, "SIGWINCH"), (29, "SIGIO"), (30, "SIGPWR"), (31, "SIGSYS")]

/-- Why a program cannot be started. -/
inductive StartFault where
  | notFound
  | denied
  | notADirectory
  | nameTooLong
  | unusableName
deriving DecidableEq

namespace StartFault

/-- What a fault is called. -/
def message : StartFault → String
  | .notFound => "No such file or directory (os error 2)"
  | .denied => "Permission denied (os error 13)"
  | .notADirectory => "Not a directory (os error 20)"
  | .nameTooLong => "File name too long (os error 36)"
  | .unusableName => "nul byte found in provided data"

end StartFault

/-- How a run of a tool ends. -/
inductive ToolEnd where
  | exited (status : Nat)
  | killed (signal : Nat)
  | notStarted (fault : StartFault)
deriving DecidableEq

namespace ToolEnd

/-- What has gone wrong in a run of a program, if it has failed. -/
def fault? (program : String) : ToolEnd → Option String
  | .exited 0 => none
  | .exited status => some (program ++ " exited with exit status: " ++ natText status)
  | .killed signal =>
      some (program ++ " exited with signal: " ++ natText signal ++
        match signalNames.lookup signal with
        | some name => " (" ++ name ++ ")"
        | none => "")
  | .notStarted fault => some ("spawn " ++ program ++ ": " ++ fault.message)

/-- A run has no fault exactly when it ends with status zero. -/
theorem fault?_eq_none_iff {program : String} {toolEnd : ToolEnd} :
    toolEnd.fault? program = none ↔ toolEnd = .exited 0 := by
  cases toolEnd with
  | exited status => cases status <;> simp [fault?]
  | killed signal => simp [fault?]
  | notStarted fault => simp [fault?]

end ToolEnd

end JobConsole.Clipboard
