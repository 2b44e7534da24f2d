import JobConsole.Batch.Report
import JobConsole.Http.EventStream
import JobConsole.Http.Exchange
import JobConsole.Model.Job
import JobConsole.Model.RecurringJob
import JobConsole.Resource

/-!
# The dashboard API

Every resource has a path below a base address.  A call is a request, or the
reason why there is none, together with the reading of what the request settles
with.  Identifiers are put into a path as they are.

Fetching calls yield data or an error.  The calls that change something yield
the status of the response whatever it is.
-/

namespace JobConsole.Api

open JobConsole.Batch
open JobConsole.Http
open JobConsole.Json

/-- Why a resource could not be fetched. -/
inductive FetchError where
  | build (error : BuildError)
  | timedOut (url : Url)
  | broken (url : Url)
  | status (status : Nat) (url : Url)
  | undecodableBody
  | undecodableEvent
  | streamClosed
deriving DecidableEq

namespace FetchError

/-- What is said when a request has no response. -/
def sendingMessage (url : Url) : String :=
  "error sending request for url (" ++ url.text ++ ")"

/-- What an error is called.  An event that is no statistics is named by its
format. -/
def message : FetchError → String
  | .build error => error.message
  | .timedOut url => sendingMessage url
  | .broken url => sendingMessage url
  | .status code url =>
      "HTTP status " ++ errorSide code ++ " error (" ++ statusText code ++ ") for url (" ++
        url.text ++ ")"
  | .undecodableBody => "error decoding response body"
  | .undecodableEvent => "json"
  | .streamClosed => "job stats stream closed before the first event"

/-- What an error is called, and what is behind it. -/
def fullMessage : FetchError → String
  | .build error => error.message ++ ": " ++ error.cause
  | error => error.message

end FetchError

/-- A request, if it can be built, and the reading of its settlement. -/
structure Call (α : Type) where
  request : Except BuildError Request
  read : Except BuildError (Url × Settlement) → α

namespace Call

variable {α : Type}

/-- The requests that a call sends. -/
def requests (call : Call α) : List Request :=
  match call.request with
  | .ok request => [request]
  | .error _ => []

/-- The result of a call whose request settles as the given function says. -/
def settle (call : Call α) (answer : Request → Settlement) : α :=
  match call.request with
  | .ok request => call.read (.ok (request.url, answer request))
  | .error error => call.read (.error error)

/-- A call whose result is processed. -/
def map {β : Type} (f : α → β) (call : Call α) : Call β :=
  ⟨call.request, f ∘ call.read⟩

end Call

/-- The address of a path below a base.  Slashes at the end of the base do not
count. -/
def address (base path : String) : String :=
  String.ofList ((base.toList.reverse.dropWhile (· == '/')).reverse ++ path.toList)

/-- What is accepted when nothing else is asked for. -/
def anyMedia : String := "*/*"

/-- The request with a method and a path below a base. -/
def request (base : String) (method : Method) (path accept : String) : Except BuildError Request :=
  Request.of method accept (address base path)

/-- The response of a request that a resource can be read from. -/
def usableResponse : Except BuildError (Url × Settlement) → Except FetchError Response
  | .error error => .error (.build error)
  | .ok (url, .broken) => .error (.broken url)
  | .ok (url, .timedOut) => .error (.timedOut url)
  | .ok (url, .answered response) =>
      if isErrorStatus response.status then .error (.status response.status url) else .ok response

/-- The datum in the body of a response. -/
def readBody {α : Type} (decode : Raw → Option α) (response : Response) : Except FetchError α :=
  match decodeBytes? decode response.body with
  | some datum => .ok datum
  | none => .error .undecodableBody

/-- Fetches a resource whose data are the whole body. -/
def fetch {α : Type} (base path : String) (decode : Raw → Option α) :
    Call (Except FetchError α) where
  request := request base .get path anyMedia
  read settled := usableResponse settled >>= readBody decode

/-- Fetches the recurring jobs. -/
def recurringJobs (base : String) : Call (Except FetchError (List RecurringJob)) :=
  fetch base "/api/recurring-jobs" RecurringJob.decodeAnswer?

/-- Fetches the servers. -/
def servers (base : String) : Call (Except FetchError (List Server)) :=
  fetch base "/api/servers" Server.decodeAll?

/-- Fetches the problems. -/
def problems (base : String) : Call (Except FetchError (List Problem)) :=
  fetch base "/api/problems" Problem.decodeAll?

/-- Fetches a job. -/
def job (base : String) (id : Uuid) : Call (Except FetchError Job) :=
  fetch base ("/api/jobs/" ++ id.text) Job.decode?

/-- The statistics in the first event of a stream. -/
def readFirstEvent (response : Response) : Except FetchError JobStats :=
  match EventStream.receive [] response.bodyChunks with
  | none => .error .streamClosed
  | some found =>
      match (Raw.read? found).bind JobStats.decode? with
      | some stats => .ok stats
      | none => .error .undecodableEvent

/-- Fetches the job statistics: the first event of their stream. -/
def jobStats (base : String) : Call (Except FetchError JobStats) where
  request := request base .get "/sse/jobstats" "text/event-stream"
  read settled := usableResponse settled >>= readFirstEvent

/-- Fetches a polled resource. -/
def polled (base : String) : (resource : Resource) → Call (Except FetchError resource.Data)
  | .jobStats => jobStats base
  | .servers => servers base
  | .problems => problems base

/-- The status that a request settles with, or why there is none. -/
def readStatus : Except BuildError (Url × Settlement) → Settled
  | .error error => .error (.request error.message)
  | .ok (_, .answered response) => .ok response.status
  | .ok (_, .timedOut) => .error .timeout
  | .ok (url, .broken) => .error (.request (FetchError.sendingMessage url))

/-- Sends a request for the sake of its status. -/
def submit (base : String) (method : Method) (path : String) : Call Settled where
  request := request base method path anyMedia
  read := readStatus

/-- The method and the path of an action on a recurring job. -/
def actionPath (kind : Kind) (id : String) : Method × String :=
  match kind with
  | .delete => (.delete, "/api/recurring-jobs/" ++ id)
  | kind => (.post, "/api/recurring-jobs/" ++ id ++ "/" ++ kind.name)

/-- Takes an action on a recurring job. -/
def action (base : String) (kind : Kind) (id : String) : Call Settled :=
  let (method, path) := actionPath kind id
  submit base method path

/-- Dismisses the problem of a type. -/
def dismiss (base kind : String) : Call Settled :=
  submit base .delete ("/api/problems/" ++ kind)

end JobConsole.Api
