import JobConsole.Cli.Program
import JobConsole.Http.Script

/-!
# Calls of commands

What a command sees of an API is how its calls come out.  Whatever the API does, every call
comes out, and calls that are sent together come out as if the first had settled before the
second is sent.  A resource is read from a response that tells of no error and can be decoded.
-/

namespace JobConsole.Cli

open JobConsole.Http
open JobConsole.Session

variable {σ α β : Type}

/-! ## What an API may do -/

/-- How an API settles a request, how long that takes, and what becomes of its state. -/
abbrev Answering (σ : Type) : Type :=
  Request → σ → (Nat × Settlement) × σ

/-- A call comes out with a result: its request is sent alone and settles, or there is no
request and nothing is sent. -/
inductive ComesOut {α : Type} (answer : Answering σ) (call : Api.Call α)
    (before : σ) : List (List Request) → α → σ → Prop
  | settled {request : Request} {time : Nat} {settlement : Settlement} {after : σ}
      (built : call.request = .ok request)
      (answered : answer request before = ((time, settlement), after)) :
      ComesOut answer call before [[request]] (call.read (.ok (request.url, settlement))) after
  | unbuilt {error : BuildError} (none : call.request = .error error) :
      ComesOut answer call before [] (call.read (.error error)) before

namespace ComesOut

variable {answer : Answering σ} {call : Api.Call α} {before after : σ}
  {exchanges : List (List Request)} {result : α}

theorem flatten_eq (out : ComesOut answer call before exchanges result after) :
    exchanges.flatten = call.requests := by
  cases out with
  | settled built answered => simp [Api.Call.requests, built]
  | unbuilt none => simp [Api.Call.requests, none]

/-- Whatever the API does, a call comes out. -/
theorem exists_out (answer : Answering σ) (call : Api.Call α) (before : σ) :
    ∃ exchanges result after, ComesOut answer call before exchanges result after := by
  cases built : call.request with
  | error error => exact ⟨_, _, _, .unbuilt built⟩
  | ok request =>
      rcases answered : answer request before with ⟨⟨time, settlement⟩, after⟩
      exact ⟨_, _, _, .settled built answered⟩

end ComesOut

section Responses

variable {answer : Answering σ} {before after : σ} {exchanges : List (List Request)}

theorem readBody_usableResponse_eq_ok_iff {decode : Json.Raw → Option α} (url : Url)
    {response : Response} {datum : α} :
    Api.usableResponse (.ok (url, .answered response)) >>= Api.readBody decode = .ok datum ↔
      isErrorStatus response.status = false ∧
        Json.decodeBytes? decode response.body = some datum := by
  unfold Api.usableResponse Api.readBody
  by_cases failed : isErrorStatus response.status = true
  · simp [failed, Bind.bind, Except.bind]
  · cases decoded : Json.decodeBytes? decode response.body with
    | none => simp [failed, decoded, Bind.bind, Except.bind]
    | some found => simp [failed, decoded, Bind.bind, Except.bind]

/-- A request for a status yields one exactly when it has got a response. -/
theorem comesOut_submit_ok_iff {base : String} {method : Method} {path : String} {status : Nat} :
    ComesOut answer (Api.submit base method path) before exchanges (.ok status) after ↔
      ∃ request time response, (Api.submit base method path).request = .ok request ∧
        answer request before = ((time, .answered response), after) ∧
        response.status = status ∧ exchanges = [[request]] := by
  constructor
  · intro out
    generalize yields : (.ok status : Batch.Settled) = result at out
    cases out with
    | @settled request time settlement after built answered =>
        cases settlement with
        | answered response =>
            cases yields
            exact ⟨request, time, response, built, answered, rfl, rfl⟩
        | broken => cases yields
        | timedOut => cases yields
    | unbuilt none => cases yields
  · rintro ⟨request, time, response, built, answered, rfl, rfl⟩
    exact .settled built answered

/-- A resource is fetched exactly when there is a response that tells of no error and has a
body that can be decoded. -/
theorem comesOut_fetch_ok_iff {base path : String} {decode : Json.Raw → Option α} {datum : α} :
    ComesOut answer (Api.fetch base path decode) before exchanges (.ok datum) after ↔
      ∃ request time response, (Api.fetch base path decode).request = .ok request ∧
        answer request before = ((time, .answered response), after) ∧
        isErrorStatus response.status = false ∧
        Json.decodeBytes? decode response.body = some datum ∧ exchanges = [[request]] := by
  constructor
  · intro out
    generalize yields : (.ok datum : Except Api.FetchError α) = result at out
    cases out with
    | @settled request time settlement after built answered =>
        cases settlement with
        | answered response =>
            obtain ⟨usable, decoded⟩ :=
              (readBody_usableResponse_eq_ok_iff request.url).mp yields.symm
            exact ⟨request, time, response, built, answered, usable, decoded, rfl⟩
        | broken => cases yields
        | timedOut => cases yields
    | unbuilt none => cases yields
  · rintro ⟨request, time, response, built, answered, usable, decoded, rfl⟩
    have yields := (readBody_usableResponse_eq_ok_iff request.url).mpr ⟨usable, decoded⟩
    exact yields ▸ .settled built answered

end Responses

/-! ## Playing -/

section Printing

variable {surroundings : Session.Surroundings σ}

theorem play_printLines (lines : List String) (state : σ) :
    (printLines lines).play surroundings state = ((), ⟨[], lines, []⟩, state) := by
  induction lines with
  | nil => rfl
  | cons line rest ih =>
      rw [printLines, Session.play, ih]
      rfl

theorem play_printValue (value : Json.Value) (state : σ) :
    (printValue value).play surroundings state = ((), ⟨[], [value.pretty], []⟩, state) :=
  rfl

/-- A command shows a value or lines, whatever it ends with. -/
theorem play_shown (json : Bool) (value : Json.Value) (lines : List String)
    (commandEnd : CommandEnd) (state : σ) :
    (if json then do
        printValue value
        pure commandEnd
      else do
        printLines lines
        pure commandEnd : Session CommandEnd).play surroundings state =
      (commandEnd, ⟨[], if json then [value.pretty] else lines, []⟩, state) := by
  split
  · exact play_then_done (play_printValue value state) rfl
  · exact play_then_done (play_printLines lines state) rfl

end Printing

section Calls

variable (situation : Situation σ) (options : Options)

theorem play_of_comesOut {call : Api.Call α} {before after : σ}
    {exchanges : List (List Request)} {result : α}
    (out : ComesOut (situation.answer (allowedTime options)) call before exchanges result after) :
    (Session.call call).play (situation.surroundings options) before =
      (result, ⟨exchanges, [], []⟩, after) := by
  cases out with
  | settled built answered =>
      rw [Session.call, built]
      simp only [Session.play, Situation.surroundings, answerTogether, answered]
      rfl
  | unbuilt none =>
      rw [Session.call, none]
      rfl

theorem play_call (call : Api.Call α) (before : σ) :
    ∃ exchanges result after,
      ComesOut (situation.answer (allowedTime options)) call before exchanges result after ∧
      (Session.call call).play (situation.surroundings options) before =
        (result, ⟨exchanges, [], []⟩, after) := by
  obtain ⟨exchanges, result, after, out⟩ :=
    ComesOut.exists_out (situation.answer (allowedTime options)) call before
  exact ⟨exchanges, result, after, out, play_of_comesOut situation options out⟩

/-- Two calls that are made together come out one after the other. -/
theorem play_callBoth {first : Api.Call α} {second : Api.Call β} {before between after : σ}
    {sent asked : List (List Request)} {result : α} {other : β}
    (out : ComesOut (situation.answer (allowedTime options)) first before sent result between)
    (also : ComesOut (situation.answer (allowedTime options)) second between asked other after) :
    (Session.callBoth first second).play (situation.surroundings options) before =
      ((result, other), ⟨[sent.flatten ++ asked.flatten], [], []⟩, after) := by
  simp only [Session.callBoth, Session.play, Situation.surroundings, Api.Call.requests,
    Api.Call.settle]
  cases out with
  | settled built answered =>
      cases also with
      | settled alsoBuilt alsoAnswered =>
          simp [built, answered, alsoBuilt, alsoAnswered, answerTogether]
      | unbuilt alsoNone => simp [built, answered, alsoNone, answerTogether]
  | unbuilt none =>
      cases also with
      | settled alsoBuilt alsoAnswered => simp [none, alsoBuilt, alsoAnswered, answerTogether]
      | unbuilt alsoNone => simp [none, alsoNone, answerTogether]

/-- What can be seen of a run is what can be seen of the session that is played. -/
theorem runInvocation_of_play {situation : Situation σ} {options : Options} {command : Command}
    {session : Session CommandEnd} {commandEnd : CommandEnd} {transcript : Session.Transcript}
    {before after : σ} (isSession : sessionOf? options command = some session)
    (played : session.play (situation.surroundings options) before =
      (commandEnd, transcript, after)) (steps : Nat) :
    runInvocation situation steps ⟨options, command⟩ before =
      some ⟨CommandEnd.status commandEnd, transcript.lines, complaintOf commandEnd,
        transcript.requests, transcript.events⟩ := by
  have seen : runSession situation options session before =
      ⟨CommandEnd.status commandEnd, transcript.lines, complaintOf commandEnd,
        transcript.requests, transcript.events⟩ := by
    rw [runSession, played]
  rw [← seen]
  cases command with
  | watch once => cases isSession
  | _ =>
      exact congrArg
        (Option.map fun session => runSession situation options session before) isSession

/-- What can be seen of the program is what can be seen of the session that its command line
asks for. -/
theorem runProgram_of_play {situation : Situation σ} {arguments : List String}
    {options : Options} {command : Command} {session : Session CommandEnd}
    {commandEnd : CommandEnd} {transcript : Session.Transcript} {before after : σ}
    (parsed : Invocation.read situation.environment arguments = .ok ⟨options, command⟩)
    (isSession : sessionOf? options command = some session)
    (played : session.play (situation.surroundings options) before =
      (commandEnd, transcript, after)) (steps : Nat) :
    runProgram situation steps arguments before =
      some ⟨CommandEnd.status commandEnd, transcript.lines, complaintOf commandEnd,
        transcript.requests, transcript.events⟩ := by
  rw [runProgram, parsed]
  exact runInvocation_of_play isSession played steps

end Calls

/-- A situation whose API follows a script. -/
def scriptedSituation : Situation Script where
  environment := []
  answer := Script.answer
  now := ⟨0, 0, 0, by decide⟩
  runTool _ _ := .exited 0
  interrupt := none

/-- The instant that days are counted from. -/
def dayZero : Time.Instant :=
  ⟨0, 0, 0, by decide⟩

end JobConsole.Cli
