import JobConsole.Cli.Help
import JobConsole.Cli.Program
import JobConsole.Http.Wire
import Std.Async.DNS
import Std.Async.Select
import Std.Async.Signal
import Std.Async.TCP
import Std.Async.Timer
import Std.Time.DateTime.Timestamp

/-!
# The executable

The outer layer: it reads the environment, the clock and the network, and prints.
What is sent, how bytes are read as a response, what is printed and how the
program ends is decided elsewhere.

Connections are plain; an address that asks for an encrypted one breaks off.  No
other programs are started, so that every clipboard tool counts as not found.
-/

namespace JobConsole.Cli

open JobConsole.Http
open JobConsole.Time
open Std.Async
open Std.Net

/-- A time in milliseconds. -/
def milliseconds (count : Nat) : Std.Time.Millisecond.Offset :=
  Std.Time.Millisecond.Offset.ofNat count

/-- An address of a machine with a port number. -/
def socketAddress (portNumber : UInt16) : IPAddr → SocketAddress
  | .v4 address => .v4 ⟨address, portNumber⟩
  | .v6 address => .v6 ⟨address, portNumber⟩

/-- The name of a host without brackets. -/
def bareHost (host : String) : String :=
  String.ofList (host.toList.filter fun c => c ≠ '[' && c ≠ ']')

/-- Opens a connection to the host of an address. -/
def connectTo (url : Url) : Async TCP.Socket.Client := do
  let found ← DNS.getAddrInfo (bareHost url.hostName) (toString url.portNumber)
  match found[0]? with
  | none => throw (IO.userError "the host has no address")
  | some address =>
      let socket ← TCP.Socket.Client.mk
      socket.connect (socketAddress url.portNumber.toUInt16 address)
      pure socket

/-- Receives until a request has settled. -/
partial def receive (socket : TCP.Socket.Client) (request : Request) (bytes : List UInt8) :
    Async Settlement := do
  match request.settled? false bytes with
  | some settlement => pure settlement
  | none =>
      match ← socket.recv? 65536 with
      | some piece => receive socket request (bytes ++ piece.toList)
      | none => pure ((request.settled? true bytes).getD .broken)

/-- Sends a request and waits for it to settle. -/
def send (request : Request) : Async Settlement := do
  if request.url.scheme ≠ "http".toList then pure .broken
  else
    try
      let socket ← connectTo request.url
      socket.send ⟨request.bytes.toArray⟩
      receive socket request []
    catch _ => pure .broken

/-- Sends a request and waits no longer than allowed for it to settle. -/
def sendWithin (allowed : Nat) (request : Request) : Async Settlement :=
  Async.race (send request) do
    sleep (milliseconds allowed)
    pure .timedOut

/-- Reads the clock. -/
def readInstant : IO Instant := do
  let stamp ← Std.Time.Timestamp.now
  let nanos := stamp.toNanosecondsSinceUnixEpoch.val
  let seconds := nanos / 1000000000
  let day := seconds / 86400
  match Instant.of? day (seconds % 86400).toNat (nanos % 1000000000).toNat with
  | some instant => pure instant
  | none => throw (IO.userError "the clock is out of range")

/-- The text of a datum of an event. -/
def datumText : LogDatum → String
  | .number value => toString value
  | .flag value => if value then "true" else "false"
  | .text value => value

/-- Writes an event, unless it is for debugging only. -/
def writeEvent (event : LogEvent) : IO Unit := do
  if event.level ≠ .debug then
    let data := event.fields.map fun (name, datum) => " " ++ name ++ "=" ++ datumText datum
    IO.eprintln (event.level.name ++ " " ++ event.message ++ String.join data)

/-- Carries out a session. -/
def perform {α : Type} (allowed : Nat) : Session α → Async α
  | .done result => pure result
  | .exchange requests next => do
      let settled ← Async.concurrentlyAll (requests.map (sendWithin allowed)).toArray
      perform allowed (next settled.toList)
  | .print line next => do
      IO.println line
      perform allowed next
  | .report event next => do
      writeEvent event
      perform allowed next
  | .readClock next => do
      let now ← readInstant
      perform allowed (next now)
  | .useTool _ _ next => perform allowed (next (.notStarted .notFound))

/-- Fetches a resource once and shows it on a board. -/
def showResource (options : Options) (board : IO.Ref Watch.WatchBoard) (resource : Resource) :
    Async Unit := do
  let call := Api.polled options.apiBaseUrl resource
  match ← perform (allowedTime options) (Session.call call) with
  | .error _ => pure ()
  | .ok data =>
      let lines ← board.modifyGet fun earlier =>
        let later := earlier.push resource data
        (Watch.linesSince options.json earlier later resource, later)
      lines.forM fun line => IO.println line

/-- Fetches a resource at regular times. -/
partial def keepShowing (options : Options) (board : IO.Ref Watch.WatchBoard)
    (resource : Resource) : Async Unit := do
  let begun ← IO.monoMsNow
  showResource options board resource
  let passed := (← IO.monoMsNow) - begun
  sleep (milliseconds (1000 * options.pollInterval - passed))
  keepShowing options board resource

/-- Waits until a board has been loaded. -/
partial def awaitLoaded (board : IO.Ref Watch.WatchBoard) : Async Unit := do
  if !(Watch.missing (← board.get)).isEmpty then
    sleep (milliseconds 10)
    awaitLoaded board

/-- Waits for whatever ends a watch. -/
def awaitEnd (options : Options) (once : Bool) (board : IO.Ref Watch.WatchBoard) :
    Async Watch.WatchEnd := do
  if once then
    Async.race
      (do awaitLoaded board; pure .reached)
      (do sleep (milliseconds (1000 * loadingTime options)); pure .expired)
  else
    let waiter ← Signal.Waiter.mk .sigint false
    let _ ← await (← waiter.wait)
    pure .reached

/-- Carries out a watch. -/
def performWatch (options : Options) (once : Bool) : Async CommandEnd := do
  let board ← IO.mkRef Watch.freshBoard
  for resource in Resource.all do
    background (keepShowing options board resource)
  writeEvent (watchEvent options)
  let reason ← awaitEnd options once board
  pure (watchEnd options (← board.get) reason)

/-- Carries out an invocation. -/
def performInvocation (invocation : Invocation) : Async CommandEnd :=
  match invocation.command, sessionOf? invocation.options invocation.command with
  | _, some session => perform (allowedTime invocation.options) session
  | .watch once, none => performWatch invocation.options once
  | _, none => pure (.ok ())

/-- The variables of the environment that the program reads. -/
def readEnvironment : IO Environment := do
  let parameters := Parameter.clipboardCommand :: Parameter.common
  let found ← parameters.mapM fun parameter => do
    let value ← IO.getEnv parameter.variableName
    pure (value.map fun text => (parameter.variableName, text))
  pure (found.filterMap id)

/-- Says why a command line is not carried out. -/
def complain (error : UsageError) : IO UInt32 := do
  let help := String.intercalate "\n" Node.root.helpLines
  match error with
  | .helpWanted => IO.println help; pure 0
  | .versionWanted => IO.println UsageError.versionText; pure 0
  | error => IO.eprintln (error.message?.getD help); pure usageStatus.toUInt32

/-- Carries out a command line. -/
def performArguments (arguments : List String) : IO UInt32 := do
  match Invocation.read (← readEnvironment) arguments with
  | .error error => complain error
  | .ok invocation =>
      let commandEnd ← (performInvocation invocation).block
      match commandEnd with
      | .ok _ => pure 0
      | .error error =>
          IO.eprintln error.message
          pure (CommandEnd.status commandEnd).toUInt32

end JobConsole.Cli

/-- The program. -/
def main (arguments : List String) : IO UInt32 :=
  JobConsole.Cli.performArguments arguments
