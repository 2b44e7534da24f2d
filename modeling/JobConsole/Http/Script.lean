import JobConsole.Http.Exchange

/-!
# Scripted APIs

A script says how an API answers.  It is a list of routes, each for one request
line.  Of the routes for a line the first that has not been used answers; when
all of them have been used, the last one answers again.  Without a route the
answer is that nothing is found.  A response that is not final is all that comes,
so that the request breaks off.  So does a request to any other server.  Times are
in milliseconds.
-/

namespace JobConsole.Http

/-- What a route does with a request. -/
inductive Reply where
  | respond (response : Response)
  | breakOff
  | stayAway
deriving DecidableEq

/-- How requests with a first line are answered, and how long that takes. -/
structure Route where
  line : String
  delay : Nat
  reply : Reply
deriving DecidableEq

/-- The server that a script is for, the routes that have not been used, and those
that have, the last one first. -/
structure Script where
  server : Url
  fresh : List Route
  used : List Route
deriving DecidableEq

namespace Script

/-- A script of which nothing has been used. -/
def ofRoutes (server : Url) (routes : List Route) : Script :=
  ⟨server, routes, []⟩

/-- Whether a request arrives at the server of a script. -/
def receives (script : Script) (request : Request) : Bool :=
  request.url.isBeside script.server

/-- The answer when there is no route. -/
def notFound (line : String) : Route :=
  ⟨line, 0, .respond ⟨404, []⟩⟩

/-- The route that answers a request, and the script afterwards. -/
def choose (line : String) (script : Script) : Route × Script :=
  match script.fresh.find? (·.line == line) with
  | some route =>
      (route, { script with fresh := script.fresh.erase route, used := route :: script.used })
  | none => ((script.used.find? (·.line == line)).getD (notFound line), script)

/-- How a request settles with a route when it may take the given time, and how
long it takes. -/
def settle (allowed : Nat) (route : Route) : Nat × Settlement :=
  if allowed ≤ route.delay then (allowed, .timedOut)
  else
    match route.reply with
    | .respond response =>
        (route.delay, if isFinalStatus response.status then .answered response else .broken)
    | .breakOff => (route.delay, .broken)
    | .stayAway => (allowed, .timedOut)

/-- How a request settles, how long it takes, and the script afterwards. -/
def answer (allowed : Nat) (request : Request) (script : Script) : (Nat × Settlement) × Script :=
  if script.receives request then
    let (route, script) := script.choose request.line
    (settle allowed route, script)
  else ((0, .broken), script)

end Script

end JobConsole.Http
