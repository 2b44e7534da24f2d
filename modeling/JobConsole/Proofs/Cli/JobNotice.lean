import JobConsole.Proofs.Cli.Calls
import JobConsole.Proofs.Notice

/-!
# Notices without servers

The command that shows the notice of a job asks for the job and for the servers together.  The
job decides how the command ends, what it complains of and what it prints, but for the change of
state that is to come.  The servers decide that part alone, and a failure to fetch them only
leaves it out.  It is reported in the log, which is no part of what is printed.
-/

namespace JobConsole.Cli

open JobConsole.Http
open JobConsole.Session
open JobConsole.Time

variable {σ : Type}

/-! ## What is printed of a job -/

/-- What is printed of a job, without what is to come: nothing can be added, or there is a
headline that it can be added to. -/
inductive NoticeFrame where
  | closed (lines : List String)
  | headed (headline : String)

/-- What is printed when it is known what is to come and when, or is not known.  It stands in two
members of a value, or its text stands in a second line. -/
def NoticeFrame.fill (json : Bool) (coming : Option (String × Instant)) :
    NoticeFrame → List String
  | .closed lines => lines
  | .headed headline =>
      if json then
        [(Json.Value.object [
          ("headline", .string headline),
          ("auto_transition", .ofOption .string (coming.map Prod.fst)),
          ("transition_at", .ofOption Instant.encode (coming.map Prod.snd))]).pretty]
      else headline :: (coming.map Prod.fst).toList

/-- The frame of what is printed when the job has been asked for.  A job in flight has its state
in the place of a notice. -/
def frameOf (json : Bool) : Except Api.FetchError Job → NoticeFrame
  | .error _ => .closed []
  | .ok job =>
      match job.lastTransition? with
      | none => .closed [if json then "null" else "This job has no state history."]
      | some last =>
          match TerminalState.ofState? last.state with
          | some terminal => .headed terminal.headline
          | none => .closed [if json then "null" else "This job is " ++ last.state.title ++ "."]

/-- What the command prints of a notice. -/
def shownNotice (json : Bool) (job : Job) (notice : Option JobNotice) : List String :=
  if json then [(Json.Value.ofOption JobNotice.encode notice).pretty] else noticeLines job notice

theorem not_applies_fetchedServers {servers : Except Api.FetchError (List Server)}
    (noServer : ∀ server others, servers ≠ .ok (server :: others)) (state : JobState)
    (setting : Retention.Setting) : ¬ setting.Applies state (fetchedServers servers).1 := by
  rintro ⟨server, others, isLoaded, -⟩
  cases servers with
  | error error => cases isLoaded
  | ok list =>
      cases isLoaded
      exact noServer server others rfl

/-- A job in a terminal state has room for what is to come. -/
theorem frameOf_of_ended {job : Job} {last : Transition} {terminal : TerminalState}
    (ended : job.EndedBy last terminal) (json : Bool) :
    frameOf json (.ok job) = .headed terminal.headline := by
  obtain ⟨isLast, isTerminal⟩ := ended
  simp only [frameOf, Job.lastTransition?, isLast,
    TerminalState.ofState?_eq_some_iff.mpr isTerminal]

/-- A job in flight has none, and is printed as it is without a notice. -/
theorem frameOf_of_inFlight {job : Job} (inFlight : ∀ last terminal, ¬ job.EndedBy last terminal)
    (json : Bool) : frameOf json (.ok job) = .closed (shownNotice json job none) := by
  simp only [frameOf, shownNotice, noticeLines]
  cases isLast : job.lastTransition? with
  | none => cases json <;> rfl
  | some last =>
      cases isTerminal : TerminalState.ofState? last.state with
      | none =>
          simp only [isTerminal]
          cases json <;> rfl
      | some terminal =>
          exact absurd ⟨isLast, TerminalState.ofState?_eq_some_iff.mp isTerminal⟩
            (inFlight last terminal)

/-- The job decides the frame of what is printed of it; the servers and the present decide what
it is filled with. -/
theorem exists_shownNotice_eq_fill (json : Bool) (job : Job)
    (servers : Except Api.FetchError (List Server)) (now : Instant) :
    ∃ coming, shownNotice json job (JobNotice.derive job (fetchedServers servers).1 now).1 =
        (frameOf json (.ok job)).fill json coming ∧
      ((∀ server others, servers ≠ .ok (server :: others)) → coming = none) := by
  rcases JobNotice.ended_or_inFlight job with ⟨last, terminal, ended⟩ | inFlight
  · refine ⟨(AutoTransition.derive terminal.state last.createdAt
      (fetchedServers servers).1 now).1.map fun transition =>
        (transition.display, transition.target), ?_, fun noServer => ?_⟩
    · rw [JobNotice.derive_of_ended ended, frameOf_of_ended ended, shownNotice, NoticeFrame.fill]
      simp only [Option.map_map]
      rfl
    · rw [AutoTransition.derive_of_no_setting (not_applies_fetchedServers noServer terminal.state)]
      rfl
  · refine ⟨none, ?_, fun _ => rfl⟩
    rw [JobNotice.derive_of_inFlight inFlight, frameOf_of_inFlight inFlight, NoticeFrame.fill]

/-! ## Playing the command -/

/-- How the command ends when the job has been asked for. -/
def noticeEnd : Except Api.FetchError Job → CommandEnd
  | .error error => .error (.fetchJob error)
  | .ok _ => .ok ()

theorem status_noticeEnd_iff (job : Except Api.FetchError Job) :
    (CommandEnd.status (noticeEnd job) = 3 ↔ ∃ error, job = .error error) ∧
      (CommandEnd.status (noticeEnd job) = 0 ↔ ∃ found, job = .ok found) := by
  cases job <;> simp [noticeEnd, CommandEnd.status, CommandError.status]

/-- The command asks for the job and the servers together, and prints what the job leaves room
for. -/
theorem play_noticeCommand {situation : Situation σ} {options : Options} {id : Uuid}
    {before between after : σ} {sent asked : List (List Request)}
    {job : Except Api.FetchError Job} {servers : Except Api.FetchError (List Server)}
    (jobOut : ComesOut (situation.answer (allowedTime options)) (Api.job options.apiBaseUrl id)
      before sent job between)
    (serversOut : ComesOut (situation.answer (allowedTime options))
      (Api.servers options.apiBaseUrl) between asked servers after) :
    ∃ transcript coming,
      (noticeCommand options id).play (situation.surroundings options) before =
        (noticeEnd job, transcript, after) ∧
      transcript.exchanges = [sent.flatten ++ asked.flatten] ∧
      transcript.lines = (frameOf options.json job).fill options.json coming ∧
      ((∀ server others, servers ≠ .ok (server :: others)) → coming = none) := by
  have asking := play_callBoth situation options jobOut serversOut
  cases job with
  | error error => exact ⟨_, none, play_then_done asking rfl, rfl, rfl, fun _ => rfl⟩
  | ok found =>
      obtain ⟨coming, shown, absent⟩ :=
        exists_shownNotice_eq_fill options.json found servers situation.now
      refine ⟨_, coming, play_then asking (play_then (play_reportAll _ _) (play_then rfl
        (play_then (play_reportAll _ _) (play_shown options.json _ _ _ _)))), by simp, ?_, absent⟩
      simp only [Transcript.lines_append, List.nil_append]
      exact shown

/-! ## The whole command -/

/-- The job decides how the command ends, what it complains of, what is requested and the frame of
what is printed: whatever the servers answer, and whenever that is, runs with one answer about the
job differ in nothing but what is to come.  Without a server nothing is said of that. -/
theorem notice_degrades_in_transition (options : Options) (id : Uuid)
    (job : Except Api.FetchError Job) :
    ∃ status complaint requests,
      (status = 3 ↔ ∃ error, job = .error error) ∧ (status = 0 ↔ ∃ found, job = .ok found) ∧
      ∀ {σ : Type} (situation : Situation σ) (arguments : List String) (steps : Nat)
        {before between after : σ} {sent asked : List (List Request)}
        {servers : Except Api.FetchError (List Server)},
        Invocation.read situation.environment arguments = .ok ⟨options, .notice id⟩ →
        ComesOut (situation.answer (allowedTime options)) (Api.job options.apiBaseUrl id)
          before sent job between →
        ComesOut (situation.answer (allowedTime options)) (Api.servers options.apiBaseUrl)
          between asked servers after →
        ∃ run coming, runProgram situation steps arguments before = some run ∧
          run.status = status ∧ run.complaint = complaint ∧ run.requests = requests ∧
          run.lines = (frameOf options.json job).fill options.json coming ∧
          ((∀ server others, servers ≠ .ok (server :: others)) → coming = none) := by
  obtain ⟨status_eq_three_iff, status_eq_zero_iff⟩ := status_noticeEnd_iff job
  refine ⟨CommandEnd.status (noticeEnd job), complaintOf (noticeEnd job),
    (Api.job options.apiBaseUrl id).requests ++ (Api.servers options.apiBaseUrl).requests,
    status_eq_three_iff, status_eq_zero_iff, ?_⟩
  intro σ situation arguments steps before between after sent asked servers parsed jobOut
    serversOut
  obtain ⟨transcript, coming, played, exchanged, printed, absent⟩ :=
    play_noticeCommand jobOut serversOut
  refine ⟨_, coming, runProgram_of_play parsed rfl played steps, rfl, rfl, ?_, printed, absent⟩
  simp [Transcript.requests, exchanged, jobOut.flatten_eq, serversOut.flatten_eq]

/-- A situation whose API settles requests in the order in which they are sent. -/
def queuedSituation : Situation (List Settlement) where
  environment := []
  answer _ _ queue := ((0, queue.headD .broken), queue.tail)
  now := dayZero
  runTool _ _ := .exited 0
  interrupt := none

/-- A job that has succeeded, as an API tells of it. -/
def jobResponse : Response :=
  ⟨200, [Text.encodeUtf8 ("[\"00000000-0000-0000-0000-000000000001\",null," ++
    "[[\"SUCCEEDED\",\"1970-01-01T00:00:00Z\"]]]").toList]⟩

/-- The same job when it has been decoded. -/
def succeededJob : Job :=
  ⟨⟨1#128⟩, none, [⟨.succeeded, dayZero⟩]⟩

/-- One server, which keeps jobs that have succeeded for an hour. -/
def serversResponse : Response :=
  ⟨200, [Text.encodeUtf8
    "[[\"00000000-0000-0000-0000-000000000002\",1,5,3600,null,72]]".toList]⟩

/-- The command line that shows the notice of a job. -/
def noticeNow : List String :=
  ["jobs", "notice", "00000000-0000-0000-0000-000000000001", "--api-base-url", "http://h"]

/-- Whatever is queued behind the job, it is found. -/
theorem comesOut_succeededJob (queue : List Settlement) :
    ∃ sent, ComesOut (queuedSituation.answer 10000) (Api.job "http://h" ⟨1#128⟩)
      (.answered jobResponse :: queue) sent (.ok succeededJob) queue := by
  have isBuilt : (Api.job "http://h" ⟨1#128⟩).request.toOption.isSome = true := by decide +kernel
  have decoded : Json.decodeBytes? Job.decode? jobResponse.body = some succeededJob := by
    decide +kernel
  cases built : (Api.job "http://h" ⟨1#128⟩).request with
  | error error =>
      rw [built] at isBuilt
      cases isBuilt
  | ok request =>
      exact ⟨_, comesOut_fetch_ok_iff.mpr ⟨request, 0, jobResponse, built, rfl, rfl, decoded, rfl⟩⟩

theorem servers_ne_ok_of_comesOut {asked : List (List Request)} {after : List Settlement}
    {servers : Except Api.FetchError (List Server)}
    (out : ComesOut (queuedSituation.answer 10000) (Api.servers "http://h") [] asked servers after)
    (list : List Server) : servers ≠ .ok list := by
  rintro rfl
  obtain ⟨request, time, response, -, answered, -⟩ := comesOut_fetch_ok_iff.mp out
  cases answered

/-- With a server the notice has a second line, and with a connection that breaks off it has
none.  There is no other difference. -/
theorem notice_of_succeededJob :
    Invocation.read queuedSituation.environment noticeNow =
        .ok ⟨⟨"http://h", 5, 10, false⟩, .notice ⟨1#128⟩⟩ ∧
      ∃ served unserved,
        runProgram queuedSituation 0 noticeNow
          [.answered jobResponse, .answered serversResponse] = some served ∧
        runProgram queuedSituation 0 noticeNow [.answered jobResponse] = some unserved ∧
        served.status = 0 ∧ unserved.status = 0 ∧ unserved.complaint = served.complaint ∧
        unserved.requests = served.requests ∧
        served.lines =
          ["This job has succeeded.", "It will automatically go to the deleted state in 1h"] ∧
        unserved.lines = ["This job has succeeded."] := by
  have parsed : Invocation.read queuedSituation.environment noticeNow =
      .ok ⟨⟨"http://h", 5, 10, false⟩, .notice ⟨1#128⟩⟩ := by
    rfl
  have printed : (runProgram queuedSituation 0 noticeNow
      [.answered jobResponse, .answered serversResponse]).map Run.lines = some
        ["This job has succeeded.", "It will automatically go to the deleted state in 1h"] := by
    decide +kernel
  obtain ⟨status, complaint, requests, -, status_eq_zero_iff, runs⟩ :=
    notice_degrades_in_transition ⟨"http://h", 5, 10, false⟩ ⟨1#128⟩ (.ok succeededJob)
  have succeeds := status_eq_zero_iff.mpr ⟨succeededJob, rfl⟩
  obtain ⟨sent, jobOut⟩ := comesOut_succeededJob [.answered serversResponse]
  obtain ⟨asked, servers, after, serversOut⟩ :=
    ComesOut.exists_out (queuedSituation.answer 10000) (Api.servers "http://h")
      [.answered serversResponse]
  obtain ⟨served, coming, ran, status_eq, complaint_eq, requests_eq, -⟩ :=
    runs queuedSituation noticeNow 0 parsed jobOut serversOut
  obtain ⟨alsoSent, alsoOut⟩ := comesOut_succeededJob []
  obtain ⟨alsoAsked, noServers, afterwards, noneOut⟩ :=
    ComesOut.exists_out (queuedSituation.answer 10000) (Api.servers "http://h") []
  obtain ⟨unserved, nothing, alsoRan, alsoStatus_eq, alsoComplaint_eq, alsoRequests_eq, curtailed,
    absent⟩ := runs queuedSituation noticeNow 0 parsed alsoOut noneOut
  obtain rfl := absent fun server others => servers_ne_ok_of_comesOut noneOut (server :: others)
  rw [ran, Option.map_some, Option.some.injEq] at printed
  exact ⟨parsed, served, unserved, ran, alsoRan, status_eq.trans succeeds,
    alsoStatus_eq.trans succeeds, alsoComplaint_eq.trans complaint_eq.symm,
    alsoRequests_eq.trans requests_eq.symm, printed, curtailed⟩

end JobConsole.Cli
