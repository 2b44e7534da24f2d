import JobConsole.Api
import JobConsole.Clipboard.Tool
import JobConsole.LogEvent

/-!
# Sessions

A session is what a command does, as a tree: requests that are sent together and
what follows their settlements, lines that are printed, events that are
reported, readings of the clock, and texts that are given to a clipboard tool.
A session does nothing by itself.  Played against given surroundings it has a
result and a transcript; `Session.play_bind` says that transcripts of
consecutive sessions follow each other.
-/

namespace JobConsole

open JobConsole.Http
open JobConsole.Time

/-- What a command does. -/
inductive Session (α : Type) where
  | done (result : α)
  | exchange (requests : List Request) (next : List Settlement → Session α)
  | print (line : String) (next : Session α)
  | report (event : LogEvent) (next : Session α)
  | readClock (next : Instant → Session α)
  | useTool (tool : Clipboard.Tool) (text : String) (next : Clipboard.ToolEnd → Session α)

namespace Session

variable {α β σ : Type}

/-- One session and then another one, which depends on the result of the
first. -/
def bind (session : Session α) (following : α → Session β) : Session β :=
  match session with
  | .done result => following result
  | .exchange requests next => .exchange requests fun settled => (next settled).bind following
  | .print line next => .print line (next.bind following)
  | .report event next => .report event (next.bind following)
  | .readClock next => .readClock fun now => (next now).bind following
  | .useTool tool text next => .useTool tool text fun toolEnd => (next toolEnd).bind following

instance : Monad Session where
  pure := Session.done
  bind := Session.bind

/-- The session that prints a line. -/
def say (line : String) : Session Unit :=
  .print line (.done ())

/-- The session that reports events. -/
def reportAll : List LogEvent → Session Unit
  | [] => .done ()
  | event :: rest => .report event (reportAll rest)

/-- The results of calls whose requests have settled as given, in the order in
which they were sent.  A request without a settlement has broken off. -/
def readAll : List (Api.Call α) → List Settlement → List α
  | [], _ => []
  | call :: calls, settled =>
      match call.request with
      | .error error => call.read (.error error) :: readAll calls settled
      | .ok request =>
          call.read (.ok (request.url, settled.headD .broken)) :: readAll calls settled.tail

/-- The session that makes calls together and waits for all of them. -/
def callAll (calls : List (Api.Call α)) : Session (List α) :=
  .exchange (calls.flatMap Api.Call.requests) fun settled => .done (readAll calls settled)

/-- The session that makes a call. -/
def call (call : Api.Call α) : Session α :=
  match call.request with
  | .error error => .done (call.read (.error error))
  | .ok request =>
      .exchange [request] fun settled =>
        .done (call.read (.ok (request.url, settled.headD .broken)))

/-- The session that makes two calls together. -/
def callBoth (first : Api.Call α) (second : Api.Call β) : Session (α × β) :=
  .exchange (first.requests ++ second.requests) fun settled =>
    let rest := settled.drop first.requests.length
    .done (first.settle fun _ => settled.headD .broken, second.settle fun _ => rest.headD .broken)

/-- What a session depends on: an API that answers requests sent together, the
time, and the tools. -/
structure Surroundings (σ : Type) where
  answer : List Request → σ → List Settlement × σ
  now : Instant
  runTool : Clipboard.Tool → String → Clipboard.ToolEnd

/-- What can be seen of a session: the requests, those sent together in one list,
the printed lines and the reported events. -/
structure Transcript where
  exchanges : List (List Request)
  lines : List String
  events : List LogEvent
deriving DecidableEq

namespace Transcript

/-- The transcript of a session that does nothing. -/
def empty : Transcript :=
  ⟨[], [], []⟩

/-- One transcript and then another one. -/
def append (first second : Transcript) : Transcript :=
  ⟨first.exchanges ++ second.exchanges, first.lines ++ second.lines, first.events ++ second.events⟩

instance : Append Transcript where
  append := append

@[simp]
theorem empty_append (transcript : Transcript) : empty ++ transcript = transcript :=
  rfl

@[simp]
theorem append_empty (transcript : Transcript) : transcript ++ empty = transcript := by
  change append transcript empty = transcript
  simp [append, empty]

@[simp]
theorem exchanges_append (first second : Transcript) :
    (first ++ second).exchanges = first.exchanges ++ second.exchanges :=
  rfl

@[simp]
theorem lines_append (first second : Transcript) :
    (first ++ second).lines = first.lines ++ second.lines :=
  rfl

theorem append_assoc (first second third : Transcript) :
    first ++ second ++ third = first ++ (second ++ third) := by
  change append (append first second) third = append first (append second third)
  simp [append, List.append_assoc]

/-- All requests, in the order in which they were sent. -/
def requests (transcript : Transcript) : List Request :=
  transcript.exchanges.flatten

end Transcript

/-- The result of a session in given surroundings, its transcript, and the state
in which it leaves the API. -/
def play (surroundings : Surroundings σ) : Session α → σ → α × Transcript × σ
  | .done result, state => (result, .empty, state)
  | .exchange requests next, state =>
      let (settled, state) := surroundings.answer requests state
      let (result, transcript, state) := (next settled).play surroundings state
      (result, ⟨[requests], [], []⟩ ++ transcript, state)
  | .print line next, state =>
      let (result, transcript, state) := next.play surroundings state
      (result, ⟨[], [line], []⟩ ++ transcript, state)
  | .report event next, state =>
      let (result, transcript, state) := next.play surroundings state
      (result, ⟨[], [], [event]⟩ ++ transcript, state)
  | .readClock next, state => (next surroundings.now).play surroundings state
  | .useTool tool text next, state =>
      (next (surroundings.runTool tool text)).play surroundings state

/-- Consecutive sessions are played one after the other, and so are their
transcripts. -/
theorem play_bind (surroundings : Surroundings σ) (session : Session α)
    (following : α → Session β) (state : σ) :
    (session.bind following).play surroundings state =
      let (first, transcript, between) := session.play surroundings state
      let (second, rest, after) := (following first).play surroundings between
      (second, transcript ++ rest, after) := by
  induction session generalizing state with
  | done result => rfl
  | exchange requests next ih => simp [bind, play, ih, Transcript.append_assoc]
  | print line next ih => simp [bind, play, ih, Transcript.append_assoc]
  | report event next ih => simp [bind, play, ih, Transcript.append_assoc]
  | readClock next ih => simp [bind, play, ih]
  | useTool tool text next ih => simp [bind, play, ih]

section Play

variable {surroundings : Surroundings σ}

/-- Two sessions that follow each other. -/
theorem play_then {session : Session α} {following : α → Session β} {first : α} {second : β}
    {transcript rest : Transcript} {before between after : σ}
    (begun : session.play surroundings before = (first, transcript, between))
    (ended : (following first).play surroundings between = (second, rest, after)) :
    (session >>= following).play surroundings before = (second, transcript ++ rest, after) := by
  refine (play_bind surroundings session following before).trans ?_
  rw [begun]
  dsimp only
  rw [ended]

/-- A session and what is made of its result. -/
theorem play_then_done {session : Session α} {following : α → Session β} {first : α}
    {second : β} {transcript : Transcript} {before after : σ}
    (begun : session.play surroundings before = (first, transcript, after))
    (done : following first = .done second) :
    (session >>= following).play surroundings before = (second, transcript, after) := by
  rw [play_then begun (by rw [done, play]), Transcript.append_empty]

theorem play_reportAll (events : List LogEvent) (state : σ) :
    (reportAll events).play surroundings state = ((), ⟨[], [], events⟩, state) := by
  induction events with
  | nil => rfl
  | cons event rest ih =>
      rw [reportAll, play, ih]
      rfl

end Play

end Session

end JobConsole
