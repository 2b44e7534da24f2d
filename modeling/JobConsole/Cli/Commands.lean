import JobConsole.BulkAction
import JobConsole.Cli.CommandError
import JobConsole.Cli.Invocation
import JobConsole.Clipboard.Copy
import JobConsole.Dismissal
import JobConsole.Notice.Basic
import JobConsole.Session

/-!
# Commands

Each command but the watch is a session: what it asks of the API, what it
prints, and how it ends.  With the switch for JSON a command prints values,
otherwise lines for people; the way it ends does not depend on that.
-/

namespace JobConsole.Cli

open JobConsole.Batch
open JobConsole.Json

/-- Prints a value. -/
def printValue (value : Value) : Session Unit :=
  Session.say value.pretty

/-- Prints lines. -/
def printLines : List String → Session Unit
  | [] => .done ()
  | line :: rest => .print line (printLines rest)

/-- The lines that list recurring jobs. -/
def recurringJobLines (jobs : List RecurringJob) : List String :=
  if jobs.isEmpty then ["no recurring jobs"] else jobs.map RecurringJob.summary

/-- Lists the recurring jobs. -/
def listCommand (options : Options) : Session CommandEnd := do
  match ← Session.call (Api.recurringJobs options.apiBaseUrl) with
  | .error error => pure (.error (.listRecurringJobs error))
  | .ok jobs =>
      if options.json then printValue (RecurringJob.encodeAll jobs)
      else printLines (recurringJobLines jobs)
      pure (.ok ())

/-- The identifiers of the recurring jobs that an action is for. -/
def targetIds (options : Options) : Targets → Session (Except CommandError (List String))
  | .ids ids => pure (.ok ids)
  | .all => do
      let fetched ← Session.call (Api.recurringJobs options.apiBaseUrl)
      pure (match fetched with
        | .ok jobs => .ok (jobs.map RecurringJob.id)
        | .error error => .error (.listRecurringJobs error))

/-- The recurring jobs after an action, if they have changed and can be
fetched. -/
def refreshedJobs (options : Options) (report : Report) : Session (Option (List RecurringJob)) :=
  if report.refresh then do
    match ← Session.call (Api.recurringJobs options.apiBaseUrl) with
    | .ok jobs => pure (some jobs)
    | .error error =>
        Session.reportAll [⟨.command, .warn, "failed to refresh recurring jobs",
          [("error", .text error.message)]⟩]
        pure none
  else
    pure none

/-- The report of an action, and the recurring jobs after it, as a value. -/
def actionValue (report : Report) (jobs : Option (List RecurringJob)) : Value :=
  .object (("report", report.encode) ::
    match jobs with
    | some jobs => [("recurring_jobs", RecurringJob.encodeAll jobs)]
    | none => [])

/-- The lines that show the report of an action, and the recurring jobs after
it. -/
def actionLines (report : Report) (jobs : Option (List RecurringJob)) : List String :=
  report.notification.display ::
    match jobs with
    | some jobs => recurringJobLines jobs
    | none => []

/-- How an action with a report ends. -/
def actionEnd (report : Report) : CommandEnd :=
  if report.notification.isError then .error (.actionsFailed report.kind report.counts)
  else .ok ()

/-- Takes an action on a selection of recurring jobs. -/
def actOn (options : Options) (kind : Kind) (selection : Selection) : Session CommandEnd := do
  let report ← bulkAction options.apiBaseUrl kind selection
  let jobs ← refreshedJobs options report
  if options.json then printValue (actionValue report jobs)
  else printLines (actionLines report jobs)
  pure (actionEnd report)

/-- Takes an action on the recurring jobs with identifiers, if there are any. -/
def actOnIds (options : Options) (kind : Kind) (ids : List String) : Session CommandEnd :=
  match Selection.of? ids with
  | none => do
      Session.say "no recurring jobs selected"
      pure (.ok ())
  | some selection => actOn options kind selection

/-- Takes an action on recurring jobs. -/
def actCommand (options : Options) (kind : Kind) (targets : Targets) : Session CommandEnd := do
  match ← targetIds options targets with
  | .error error => pure (.error error)
  | .ok ids => actOnIds options kind ids

/-- The servers that have been fetched, with the report of a failure. -/
def fetchedServers : Except Api.FetchError (List Server) → Snapshot (List Server) × List LogEvent
  | .ok servers => (.loaded servers, [])
  | .error error =>
      (.notLoaded, [⟨.command, .warn, "failed to fetch servers; retention notice unavailable",
        [("error", .text error.message)]⟩])

/-- The lines that show the notice of a job. -/
def noticeLines (job : Job) : Option JobNotice → List String
  | some notice => notice.headline :: notice.autoTransition.toList
  | none =>
      match job.lastTransition? with
      | some last => ["This job is " ++ last.state.title ++ "."]
      | none => ["This job has no state history."]

/-- Shows the notice of a job. -/
def noticeCommand (options : Options) (id : Uuid) : Session CommandEnd := do
  let (job, servers) ←
    Session.callBoth (Api.job options.apiBaseUrl id) (Api.servers options.apiBaseUrl)
  match job with
  | .error error => pure (.error (.fetchJob error))
  | .ok job =>
      let (servers, failures) := fetchedServers servers
      Session.reportAll failures
      let now ← Session.readClock Session.done
      let (notice, events) := JobNotice.derive job servers now
      Session.reportAll events
      if options.json then printValue (.ofOption JobNotice.encode notice)
      else printLines (noticeLines job notice)
      pure (.ok ())

/-- The lines that show a dismissal, with the problems after it. -/
def dismissalLines (outcome : DismissOutcome) (problems : Snapshot (List Problem)) :
    List String :=
  match outcome with
  | .dismissed =>
      "Dismissed severe exception report" :: (problems.value?.map Problem.summary).toList
  | _ => []

/-- How a dismissal ends. -/
def dismissalEnd : DismissOutcome → CommandEnd
  | .dismissed => .ok ()
  | .unacknowledged status => .error (.dismissalUnacknowledged status)
  | .unreachable => .error .dashboardUnreachable

/-- Dismisses the report of a severe exception. -/
def dismissSevereCommand (options : Options) : Session CommandEnd := do
  let (outcome, problems) ←
    dismissSevere options.apiBaseUrl (Store.Run.empty : Store.Run (List Problem) Unit Unit)
  if options.json then printValue outcome.encode
  else printLines (dismissalLines outcome problems.store.current)
  pure (dismissalEnd outcome)

/-- Copies a text with a tool, if there is one. -/
def copyWith (tool? : Option Clipboard.Tool) (body : String) : Session Clipboard.CopyOutcome :=
  match tool? with
  | none => pure (.dialog body)
  | some tool => do
      let toolEnd ← Session.useTool tool body Session.done
      let (outcome, events) := Clipboard.ofFault body (toolEnd.fault? tool.program)
      Session.reportAll events
      pure outcome

/-- Shows what has become of a text that was to be copied. -/
def showCopy (options : Options) : Clipboard.CopyOutcome → Session Unit
  | .copied notification =>
      if options.json then printValue notification.encode
      else Session.say notification.display
  | .dialog body =>
      if options.json then printValue (Clipboard.encodeDialog body).sorted
      else printLines [Clipboard.dialogTitle, Clipboard.dialogHint, "", body]

/-- Copies the issue text of the report of a severe exception. -/
def copyIssueCommand (options : Options) (clipboardCommand : Option String) :
    Session CommandEnd := do
  match ← Session.call (Api.problems options.apiBaseUrl) with
  | .error error => pure (.error (.listProblems error))
  | .ok problems =>
      match problems.find? Problem.isSevereException with
      | none =>
          Session.say "no severe exception reported"
          pure (.ok ())
      | some problem =>
          let tool? := clipboardCommand.bind Clipboard.Tool.ofCommandLine?
          let outcome ← copyWith tool? (problem.githubIssueBody.getD "")
          showCopy options outcome
          pure (.ok ())

end JobConsole.Cli
