import JobConsole.Retention.Policy
import JobConsole.Time.Json
import JobConsole.Uuid

/-!
# Background job servers

A server reports its size, how long it keeps finished jobs, and its load.  The
retention of failed jobs is missing on servers that keep them for good.
-/

namespace JobConsole

open JobConsole.Json
open JobConsole.Number
open JobConsole.Retention
open JobConsole.Time

/-- The status of a background job server. -/
structure Server where
  id : Uuid
  workerPoolSize : Nat
  pollIntervalInSeconds : Nat
  deleteSucceededJobsAfter : Setting
  deleteFailedJobsAfter : Option Setting
  permanentlyDeleteDeletedJobsAfter : Setting
  firstHeartbeat : Option Instant
  lastHeartbeat : Option Instant
  running : Bool
  systemTotalMemory : Option Nat
  systemFreeMemory : Option Nat
  systemCpuLoad : Option Binary64
  processMaxMemory : Option Nat
  processFreeMemory : Option Nat
  processAllocatedMemory : Option Nat
  processCpuLoad : Option Binary64
deriving DecidableEq

namespace Server

/-- The fields in their order. -/
def fieldNames : List String :=
  ["id", "workerPoolSize", "pollIntervalInSeconds", "deleteSucceededJobsAfter",
    "deleteFailedJobsAfter", "permanentlyDeleteDeletedJobsAfter", "firstHeartbeat",
    "lastHeartbeat", "running", "systemTotalMemory", "systemFreeMemory", "systemCpuLoad",
    "processMaxMemory", "processFreeMemory", "processAllocatedMemory", "processCpuLoad"]

/-- An amount of memory, which may be left out. -/
def memory? (fields : Fields) (name : String) : Option (Option Nat) :=
  fields.optional? name (Raw.unsigned? 64)

/-- Decodes a server. -/
def decode? (raw : Raw) : Option Server := do
  let fields ← raw.fields? fieldNames
  some {
    id := ← fields.required? "id" Uuid.decode?
    workerPoolSize := ← fields.required? "workerPoolSize" (Raw.unsigned? 32)
    pollIntervalInSeconds := ← fields.required? "pollIntervalInSeconds" (Raw.unsigned? 32)
    deleteSucceededJobsAfter := ← fields.required? "deleteSucceededJobsAfter" Setting.decode?
    deleteFailedJobsAfter := ← fields.optional? "deleteFailedJobsAfter" Setting.decode?
    permanentlyDeleteDeletedJobsAfter :=
      ← fields.required? "permanentlyDeleteDeletedJobsAfter" Setting.decode?
    firstHeartbeat := ← fields.optional? "firstHeartbeat" Instant.decode?
    lastHeartbeat := ← fields.optional? "lastHeartbeat" Instant.decode?
    running := ← fields.given? "running" false Raw.bool?
    systemTotalMemory := ← memory? fields "systemTotalMemory"
    systemFreeMemory := ← memory? fields "systemFreeMemory"
    systemCpuLoad := ← fields.optional? "systemCpuLoad" Raw.real?
    processMaxMemory := ← memory? fields "processMaxMemory"
    processFreeMemory := ← memory? fields "processFreeMemory"
    processAllocatedMemory := ← memory? fields "processAllocatedMemory"
    processCpuLoad := ← fields.optional? "processCpuLoad" Raw.real?
  }

/-- A load as a value. -/
def encodeLoad (load : Binary64) : Value :=
  .number (.real load)

/-- A server as a value. -/
def encode (server : Server) : Value :=
  .object [
    ("id", server.id.encode),
    ("workerPoolSize", .natural server.workerPoolSize),
    ("pollIntervalInSeconds", .natural server.pollIntervalInSeconds),
    ("deleteSucceededJobsAfter", server.deleteSucceededJobsAfter.encode),
    ("deleteFailedJobsAfter", .ofOption Setting.encode server.deleteFailedJobsAfter),
    ("permanentlyDeleteDeletedJobsAfter", server.permanentlyDeleteDeletedJobsAfter.encode),
    ("firstHeartbeat", .ofOption Instant.encode server.firstHeartbeat),
    ("lastHeartbeat", .ofOption Instant.encode server.lastHeartbeat),
    ("running", .bool server.running),
    ("systemTotalMemory", .ofOption .natural server.systemTotalMemory),
    ("systemFreeMemory", .ofOption .natural server.systemFreeMemory),
    ("systemCpuLoad", .ofOption encodeLoad server.systemCpuLoad),
    ("processMaxMemory", .ofOption .natural server.processMaxMemory),
    ("processFreeMemory", .ofOption .natural server.processFreeMemory),
    ("processAllocatedMemory", .ofOption .natural server.processAllocatedMemory),
    ("processCpuLoad", .ofOption encodeLoad server.processCpuLoad)]

/-- Decodes a list of servers. -/
def decodeAll? : Raw → Option (List Server) :=
  Raw.list? decode?

/-- A list of servers as a value. -/
def encodeAll (servers : List Server) : Value :=
  .array (servers.map encode)

/-- One line that shows a server. -/
def summaryLine (server : Server) : String :=
  "\n  " ++ server.id.text ++ " workers=" ++ Text.natText server.workerPoolSize ++ " running=" ++
    (if server.running then "true" else "false")

/-- The lines that show a list of servers. -/
def summary (servers : List Server) : String :=
  "servers: " ++ Text.natText servers.length ++ String.join (servers.map summaryLine)

end Server

end JobConsole
