import JobConsole.Http.Status
import JobConsole.Http.Url

/-!
# Requests and how they settle

A request settles with a response, or without one: the connection breaks off, or
the time allowed runs out.  The body of a response arrives in pieces.
-/

namespace JobConsole.Http

/-- The method of a request. -/
inductive Method where
  | get
  | post
  | delete
deriving DecidableEq

namespace Method

/-- The name of a method. -/
def name : Method → String
  | .get => "GET"
  | .post => "POST"
  | .delete => "DELETE"

end Method

/-- A request, with the bytes of a login if there is one. -/
structure Request where
  method : Method
  url : Url
  accept : String
  login : Option (List UInt8)
deriving DecidableEq

namespace Request

/-- The name under which every request is sent. -/
def agent : String := "jobdash/0.1.0"

/-- The first line of a request: its method and its target. -/
def line (request : Request) : String :=
  request.method.name ++ " " ++ request.url.target

end Request

/-- A response.  A status without a body has none, whatever was sent. -/
structure Response where
  status : Nat
  chunks : List (List UInt8)
deriving DecidableEq

namespace Response

/-- The pieces of the body. -/
def bodyChunks (response : Response) : List (List UInt8) :=
  if isBodiless response.status then [] else response.chunks

/-- The body. -/
def body (response : Response) : List UInt8 :=
  response.bodyChunks.flatten

end Response

/-- How a request settles. -/
inductive Settlement where
  | answered (response : Response)
  | broken
  | timedOut
deriving DecidableEq

instance : Inhabited Settlement := ⟨.broken⟩

/-- How an API settles requests that are sent together, given how it settles one
and how long that takes. -/
def answerTogether {σ : Type} (answer : Request → σ → (Nat × Settlement) × σ) :
    List Request → σ → List Settlement × σ
  | [], state => ([], state)
  | request :: rest, state =>
      let ((_, settlement), state) := answer request state
      let (settlements, state) := answerTogether answer rest state
      (settlement :: settlements, state)

/-- Every request settles. -/
@[simp]
theorem length_answerTogether {σ : Type} (answer : Request → σ → (Nat × Settlement) × σ)
    (requests : List Request) (state : σ) :
    (answerTogether answer requests state).1.length = requests.length := by
  induction requests generalizing state with
  | nil => rfl
  | cons request rest ih => simp [answerTogether, ih]

/-- Why an address cannot be used for a request. -/
inductive BuildError where
  | unreadable (error : UrlError)
  | notHttp (url : Url)
  | notRequestable (url : Url)
deriving DecidableEq

namespace BuildError

/-- What an error is called. -/
def message : BuildError → String
  | .unreadable _ => "builder error"
  | .notHttp url => "builder error for url (" ++ url.text ++ ")"
  | .notRequestable url => "builder error for url (" ++ url.text ++ ")"

/-- What is behind an error. -/
def cause : BuildError → String
  | .unreadable error => error.message
  | .notHttp _ => "URL scheme is not allowed"
  | .notRequestable _ => "Parsed Url is not a valid Uri"

end BuildError

/-- The request for the address in a text.  A login in it is not part of the address of
the request. -/
def Request.of (method : Method) (accept text : String) : Except BuildError Request :=
  match Url.read text with
  | .error error => .error (.unreadable error)
  | .ok found =>
      let url := found.withoutLogin
      if !url.isHttp then .error (.notHttp url)
      else if !url.isRequestable then .error (.notRequestable url)
      else .ok ⟨method, url, accept, found.credentials.login?⟩

end JobConsole.Http
