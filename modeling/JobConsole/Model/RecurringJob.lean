import JobConsole.Time.Json

/-!
# Recurring jobs

A recurring job has a name, a schedule in a time zone, and flags for whether it
runs and whether it may be deleted from here.  Older servers answer with a list
of jobs, newer ones with a page that holds the list; the answer is read strictly
as a whole, ignored members included.
-/

namespace JobConsole

open JobConsole.Json
open JobConsole.Time

/-- A job that runs on a schedule. -/
structure RecurringJob where
  id : String
  jobName : String
  cronExpression : String
  zoneId : String
  nextRun : Option Instant
  enabled : Bool
  deletableFromDashboard : Bool
deriving DecidableEq

namespace RecurringJob

/-- The fields in their order. -/
def fieldNames : List String :=
  ["id", "jobName", "cronExpression", "zoneId", "nextRun", "enabled", "deletableFromDashboard"]

/-- Decodes a recurring job. -/
def decode? (raw : Raw) : Option RecurringJob := do
  let fields ← raw.fields? fieldNames
  some {
    id := ← fields.required? "id" Raw.text?
    jobName := ← fields.given? "jobName" "" Raw.text?
    cronExpression := ← fields.required? "cronExpression" Raw.text?
    zoneId := ← fields.given? "zoneId" "" Raw.text?
    nextRun := ← fields.optional? "nextRun" Instant.decode?
    enabled := ← fields.given? "enabled" true Raw.bool?
    deletableFromDashboard := ← fields.given? "deletableFromDashboard" true Raw.bool?
  }

/-- A recurring job as a value. -/
def encode (job : RecurringJob) : Value :=
  .object [
    ("id", .string job.id),
    ("jobName", .string job.jobName),
    ("cronExpression", .string job.cronExpression),
    ("zoneId", .string job.zoneId),
    ("nextRun", .ofOption Instant.encode job.nextRun),
    ("enabled", .bool job.enabled),
    ("deletableFromDashboard", .bool job.deletableFromDashboard)]

/-- A list of recurring jobs as a value. -/
def encodeAll (jobs : List RecurringJob) : Value :=
  .array (jobs.map encode)

/-- Decodes a page: an object with one field. -/
def decodePage? : Raw → Option (List RecurringJob)
  | .object members => do
      let fields ← Raw.knownMembers? ["items"] members
      fields.required? "items" (Raw.list? decode?)
  | _ => none

/-- Decodes an answer: a list if it is one, a page otherwise. -/
def decodeAnswer? (raw : Raw) : Option (List RecurringJob) :=
  if raw.isStrict then
    (Raw.list? decode? raw).or (decodePage? raw)
  else
    none

/-- One line that shows a recurring job. -/
def summary (job : RecurringJob) : String :=
  let nextRun := (job.nextRun.map Instant.offsetText).getD "-"
  String.intercalate "\t" [
    job.id,
    job.jobName,
    job.cronExpression ++ " (" ++ job.zoneId ++ ")",
    "next=" ++ nextRun,
    if job.enabled then "enabled" else "disabled"]

end RecurringJob

end JobConsole
