import JobConsole.Time.Json

/-!
# Job statistics

The number of jobs in each state, with the instant at which they were counted.
Every field may be left out: a missing count is zero.
-/

namespace JobConsole

open JobConsole.Json
open JobConsole.Time

/-- The numbers of jobs by state. -/
structure JobStats where
  timestamp : Option Instant
  total : Int
  scheduled : Int
  enqueued : Int
  processing : Int
  failed : Int
  succeeded : Int
  allTimeSucceeded : Int
  deleted : Int
  recurringJobs : Int
  backgroundJobServers : Int
deriving DecidableEq

namespace JobStats

/-- The fields in their order. -/
def fieldNames : List String :=
  ["timestamp", "total", "scheduled", "enqueued", "processing", "failed", "succeeded",
    "allTimeSucceeded", "deleted", "recurringJobs", "backgroundJobServers"]

/-- A count, which is zero when it is not given. -/
def count? (fields : Fields) (name : String) : Option Int :=
  fields.given? name 0 Raw.signed?

/-- Decodes statistics. -/
def decode? (raw : Raw) : Option JobStats := do
  let fields ← raw.fields? fieldNames
  some {
    timestamp := ← fields.optional? "timestamp" Instant.decode?
    total := ← count? fields "total"
    scheduled := ← count? fields "scheduled"
    enqueued := ← count? fields "enqueued"
    processing := ← count? fields "processing"
    failed := ← count? fields "failed"
    succeeded := ← count? fields "succeeded"
    allTimeSucceeded := ← count? fields "allTimeSucceeded"
    deleted := ← count? fields "deleted"
    recurringJobs := ← count? fields "recurringJobs"
    backgroundJobServers := ← count? fields "backgroundJobServers"
  }

/-- Statistics as a value. -/
def encode (stats : JobStats) : Value :=
  .object [
    ("timestamp", .ofOption Instant.encode stats.timestamp),
    ("total", .whole stats.total),
    ("scheduled", .whole stats.scheduled),
    ("enqueued", .whole stats.enqueued),
    ("processing", .whole stats.processing),
    ("failed", .whole stats.failed),
    ("succeeded", .whole stats.succeeded),
    ("allTimeSucceeded", .whole stats.allTimeSucceeded),
    ("deleted", .whole stats.deleted),
    ("recurringJobs", .whole stats.recurringJobs),
    ("backgroundJobServers", .whole stats.backgroundJobServers)]

/-- One line that shows the statistics. -/
def summary (stats : JobStats) : String :=
  let shown (name : String) (count : Int) := name ++ "=" ++ Text.intText count
  "job_stats: " ++ String.intercalate " " [
    shown "enqueued" stats.enqueued,
    shown "processing" stats.processing,
    shown "scheduled" stats.scheduled,
    shown "succeeded" stats.succeeded,
    shown "failed" stats.failed,
    shown "deleted" stats.deleted,
    shown "recurring_jobs" stats.recurringJobs,
    shown "servers" stats.backgroundJobServers]

end JobStats

end JobConsole
