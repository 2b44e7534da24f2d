import JobConsole.Model.JobStats
import JobConsole.Model.Problem
import JobConsole.Model.Server

/-!
# Polled resources

Three resources of the dashboard are polled: the job statistics, the servers
and the problems.  Each has a type of data, and the data have a JSON form and a
text for people.
-/

namespace JobConsole

open JobConsole.Json

/-- A polled resource. -/
inductive Resource where
  | jobStats
  | servers
  | problems
deriving DecidableEq

namespace Resource

/-- All resources, in the order in which they are listed. -/
def all : List Resource :=
  [.jobStats, .servers, .problems]

/-- The name of a resource. -/
def name : Resource → String
  | .jobStats => "job_stats"
  | .servers => "servers"
  | .problems => "problems"

/-- The resource with a name. -/
def ofName? (name : String) : Option Resource :=
  all.find? fun resource => resource.name == name

/-- The data of a resource. -/
abbrev Data : Resource → Type
  | .jobStats => JobStats
  | .servers => List Server
  | .problems => List Problem

/-- Decodes the data of a resource. -/
def decode? : (resource : Resource) → Raw → Option resource.Data
  | .jobStats => JobStats.decode?
  | .servers => Server.decodeAll?
  | .problems => Problem.decodeAll?

/-- The data of a resource as a value. -/
def encode : (resource : Resource) → resource.Data → Value
  | .jobStats => JobStats.encode
  | .servers => Server.encodeAll
  | .problems => Problem.encodeAll

/-- The data of a resource as a text for people. -/
def summary : (resource : Resource) → resource.Data → String
  | .jobStats => JobStats.summary
  | .servers => Server.summary
  | .problems => Problem.summary

@[simp]
theorem ofName?_name (resource : Resource) : ofName? resource.name = some resource := by
  cases resource <;> rfl

@[simp]
theorem mem_all (resource : Resource) : resource ∈ all := by
  cases resource <;> simp [all]

end Resource

end JobConsole
