import JobConsole.Cli.Commands
import JobConsole.Watch.Run

/-!
# The program

The program reads its command line and carries out the command.  A watch is
played against the clock, every other command is a session.  What can be seen of
a run is its status, its output, the error it ends with, its requests and its
events.
-/

namespace JobConsole.Cli

open JobConsole.Http
open JobConsole.Time

/-- What a run of the program depends on: the environment, the API, which settles
requests within an allowed time, the date, the tools, and what a watch is
interrupted by. -/
structure Situation (σ : Type) where
  environment : Environment
  answer : Nat → Request → σ → (Nat × Settlement) × σ
  now : Instant
  runTool : Clipboard.Tool → String → Clipboard.ToolEnd
  interrupt : Option (Nat × Nat)

/-- What can be seen of a run. -/
structure Run where
  status : Nat
  lines : List String
  complaint : String
  requests : List Request
  events : List LogEvent
deriving DecidableEq

namespace Run

/-- The run of a command line that is not carried out.  Help and the version are
no errors. -/
def ofUsageError (error : UsageError) : Run :=
  match error with
  | .helpWanted => ⟨0, [], "", [], []⟩
  | .versionWanted => ⟨0, [UsageError.versionText], "", [], []⟩
  | error => ⟨usageStatus, [], error.message?.getD "", [], []⟩

/-- The text that is printed. -/
def output (run : Run) : String :=
  String.join (run.lines.map (· ++ "\n"))

end Run

/-- What is said of the end of a command. -/
def complaintOf : CommandEnd → String
  | .ok _ => ""
  | .error error => error.message

variable {σ : Type}

/-- The time that a request may take. -/
def allowedTime (options : Options) : Nat :=
  1000 * options.requestTimeout

/-- The surroundings of a session with options. -/
def Situation.surroundings (situation : Situation σ) (options : Options) :
    Session.Surroundings σ where
  answer := answerTogether (situation.answer (allowedTime options))
  now := situation.now
  runTool := situation.runTool

/-- A run of a command that is a session. -/
def runSession (situation : Situation σ) (options : Options) (session : Session CommandEnd)
    (state : σ) : Run :=
  let (commandEnd, transcript, _) := session.play (situation.surroundings options) state
  ⟨CommandEnd.status commandEnd, transcript.lines, complaintOf commandEnd, transcript.requests,
    transcript.events⟩

/-- The event that a watch begins with. -/
def watchEvent (options : Options) : LogEvent :=
  ⟨.command, .info, "watching dashboard",
    [("api_base_url", .text options.apiBaseUrl),
      ("poll_interval_secs", .number options.pollInterval)]⟩

/-- The time, in seconds, within which everything must be loaded: one round of
fetches, with room for a slow request. -/
def loadingTime (options : Options) : Nat :=
  options.pollInterval + options.requestTimeout

/-- What ends a watch. -/
def watchGoal (situation : Situation σ) (options : Options) (once : Bool) : Watch.Goal :=
  if once then .loaded (1000 * loadingTime options)
  else
    match situation.interrupt with
    | some (lines, requests) => .interrupted lines requests
    | none => .interrupted 0 0

/-- How a watch ends. -/
def watchEnd (options : Options) (board : Watch.WatchBoard) : Watch.WatchEnd → CommandEnd
  | .reached => .ok ()
  | .expired => .error (.notLoaded (loadingTime options) (Watch.missing board))

/-- A run of a watch, if no more than the given number of things happen in
it. -/
def runWatch (situation : Situation σ) (steps : Nat) (options : Options) (once : Bool)
    (state : σ) : Option Run :=
  let setup : Watch.Setup σ := {
    base := options.apiBaseUrl
    interval := 1000 * options.pollInterval
    json := options.json
    answer := situation.answer (allowedTime options)
  }
  (Watch.run setup (watchGoal situation options once) steps (Watch.State.start state)).map
    fun (after, reason) =>
      let commandEnd := watchEnd options after.board reason
      ⟨CommandEnd.status commandEnd, after.lines, complaintOf commandEnd, after.requests,
        [watchEvent options]⟩

/-- The session of a command, unless it is a watch. -/
def sessionOf? (options : Options) : Command → Option (Session CommandEnd)
  | .watch _ => none
  | .list => some (listCommand options)
  | .act kind targets => some (actCommand options kind targets)
  | .notice id => some (noticeCommand options id)
  | .dismissSevere => some (dismissSevereCommand options)
  | .copyIssue clipboardCommand => some (copyIssueCommand options clipboardCommand)

/-- A run of an invocation. -/
def runInvocation (situation : Situation σ) (steps : Nat) (invocation : Invocation) (state : σ) :
    Option Run :=
  match invocation.command with
  | .watch once => runWatch situation steps invocation.options once state
  | command =>
      (sessionOf? invocation.options command).map fun session =>
        runSession situation invocation.options session state

/-- A run of the program with the given arguments. -/
def runProgram (situation : Situation σ) (steps : Nat) (arguments : List String) (state : σ) :
    Option Run :=
  match Invocation.read situation.environment arguments with
  | .error error => some (Run.ofUsageError error)
  | .ok invocation => runInvocation situation steps invocation state

end JobConsole.Cli
