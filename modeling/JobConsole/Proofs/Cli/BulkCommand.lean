import JobConsole.Proofs.Batch.Execution
import JobConsole.Proofs.Cli.Calls

/-!
# Bulk commands and their API

A bulk command sends its requests in rounds: a fetch of the recurring jobs if all of them
are meant, the requests of the action, and another fetch if an action has succeeded.  A
round begins when every request of the round before has settled.  How the command ends is
decided by the first two rounds alone: with status three if there are no identifiers to be
had, with status four if an attempt at the action has failed, and otherwise with zero.

There is not always a request for an attempt.  Where the base address or the identifier
makes none, nothing is sent, and the attempt has failed.
-/

namespace JobConsole.Cli

open JobConsole.Batch
open JobConsole.Http
open JobConsole.Session
open JobConsole.Text

variable {σ : Type}

/-! ## What an API may do -/

/-- The identifiers that an action is for: those that are given, or those of all recurring
jobs, which are fetched. -/
inductive Targeted (answer : Answering σ) (base : String) (before : σ) :
    Targets → List (List Request) → Except CommandError (List String) → σ → Prop
  | given (ids : List String) : Targeted answer base before (.ids ids) [] (.ok ids) before
  | fetched {exchanges : List (List Request)} {jobs : List RecurringJob} {after : σ}
      (listed : ComesOut answer (Api.recurringJobs base) before exchanges (.ok jobs) after) :
      Targeted answer base before .all exchanges (.ok (jobs.map RecurringJob.id)) after
  | missed {exchanges : List (List Request)} {error : Api.FetchError} {after : σ}
      (failed : ComesOut answer (Api.recurringJobs base) before exchanges (.error error) after) :
      Targeted answer base before .all exchanges (.error (.listRecurringJobs error)) after

/-- An attempt at an action on the recurring job with an identifier: its request with the
settlement, or the reason why there is none. -/
structure Attempt where
  id : String
  sent : Except BuildError (Request × Settlement)

namespace Attempt

/-- The request of an attempt. -/
def request? (attempt : Attempt) : Option Request :=
  attempt.sent.toOption.map Prod.fst

/-- The settlement of an attempt with a request. -/
def settlement? (attempt : Attempt) : Option Settlement :=
  attempt.sent.toOption.map Prod.snd

/-- What an attempt has come to. -/
def settled (attempt : Attempt) : Settled :=
  Api.readStatus (attempt.sent.map fun (request, settlement) => (request.url, settlement))

end Attempt

/-- A round of attempts, one for each identifier of a list: their requests are sent together,
and all of them settle. -/
structure Round (answer : Answering σ) (base : String) (kind : Kind)
    (ids : List String) (before : σ) (attempts : List Attempt) (after : σ) : Prop where
  named : attempts.map Attempt.id = ids
  request_eq : ∀ attempt ∈ attempts,
    (Api.action base kind attempt.id).request = attempt.sent.map Prod.fst
  settle_eq : answerTogether answer (attempts.filterMap Attempt.request?) before =
    (attempts.filterMap Attempt.settlement?, after)

/-- The recurring jobs are fetched once more if an attempt has succeeded, and otherwise they
are not. -/
inductive Refreshed (answer : Answering σ) (base : String)
    (attempts : List Attempt) (before : σ) :
    List (List Request) → Option (List RecurringJob) → σ → Prop
  | fetched {exchanges : List (List Request)} {after : σ}
      {jobs : Except Api.FetchError (List RecurringJob)}
      (changed : ∃ attempt ∈ attempts, attempt.settled = .ok 204)
      (listed : ComesOut answer (Api.recurringJobs base) before exchanges jobs after) :
      Refreshed answer base attempts before exchanges jobs.toOption after
  | unchanged (unchanged : ∀ attempt ∈ attempts, attempt.settled ≠ .ok 204) :
      Refreshed answer base attempts before [] none before

/-- What a bulk command shows: a value or lines, of the same report. -/
def shownLines (json : Bool) (report : Report) (jobs : Option (List RecurringJob)) :
    List String :=
  if json then [(actionValue report jobs).pretty] else actionLines report jobs

/-- A run shows a report of attempts, and ends and complains by its numbers. -/
structure Reports (json : Bool) (kind : Kind) (attempts : List Attempt) (report : Report)
    (jobs : Option (List RecurringJob)) (run : Run) : Prop where
  lines_eq : run.lines = shownLines json report jobs
  failed_eq : report.counts.failed = attempts.countP fun attempt => Fails kind attempt.settled
  total_eq : report.counts.total = attempts.length
  result_eq : ∀ failed total error, report.result = .someFailed failed total error →
    failed = report.counts.failed ∧ total = report.counts.total
  status_eq_four_iff : run.status = 4 ↔ ∃ attempt ∈ attempts, Fails kind attempt.settled
  status_eq_zero_iff : run.status = 0 ↔ ∀ attempt ∈ attempts, ¬ Fails kind attempt.settled
  complaint_eq : run.complaint =
    if 0 < report.counts.failed then
      "action_failed: " ++ natText report.counts.failed ++ " of " ++
        natText report.counts.total ++ " " ++ kind.name ++ " requests failed"
    else ""

/-- The course of a bulk command: what is requested together and how the run ends, by what
the API does. -/
inductive Course (answer : Answering σ) (options : Options)
    (kind : Kind) (targets : Targets) (before : σ) (exchanges : List (List Request))
    (run : Run) : Prop
  | unlisted {error : CommandError} {after : σ}
      (missed :
        Targeted answer options.apiBaseUrl before targets exchanges (.error error) after)
      (status_eq : run.status = 3)
  | unselected {after : σ}
      (none : Targeted answer options.apiBaseUrl before targets exchanges (.ok []) after)
      (status_eq : run.status = 0)
  | acted {ids selected : List String} {attempts : List Attempt} {report : Report}
      {jobs : Option (List RecurringJob)} {listing refresh : List (List Request)}
      {between settled after : σ}
      (targeted : Targeted answer options.apiBaseUrl before targets listing (.ok ids) between)
      (filled : ids ≠ [])
      (nodup : selected.Nodup)
      (mem_iff : ∀ id, id ∈ selected ↔ id ∈ ids)
      (round : Round answer options.apiBaseUrl kind selected between attempts settled)
      (unsent : ∀ attempt ∈ attempts, attempt.request? = none → Fails kind attempt.settled)
      (refreshed : Refreshed answer options.apiBaseUrl attempts settled refresh jobs after)
      (sent : exchanges = listing ++ [attempts.filterMap Attempt.request?] ++ refresh)
      (reports : Reports options.json kind attempts report jobs run)

/-! ## Attempts -/

section Attempts

variable {answer : Answering σ} {base : String} {kind : Kind}

theorem Attempt.fails_of_request?_eq_none (kind : Kind) {attempt : Attempt}
    (unsent : attempt.request? = none) : Fails kind attempt.settled := by
  rcases attempt with ⟨id, error | ⟨request, settlement⟩⟩
  · exact ⟨nofun, fun rejects => nomatch rejects.2⟩
  · contradiction

/-- Whatever the API does, there is a round of attempts for a list of identifiers. -/
theorem exists_round (answer : Answering σ) (base : String)
    (kind : Kind) (ids : List String) (before : σ) :
    ∃ attempts after, Round answer base kind ids before attempts after := by
  induction ids generalizing before with
  | nil => exact ⟨[], before, rfl, nofun, rfl⟩
  | cons id rest ih =>
      cases built : (Api.action base kind id).request with
      | error error =>
          obtain ⟨attempts, after, round⟩ := ih before
          refine ⟨⟨id, .error error⟩ :: attempts, after, ?_, ?_, round.settle_eq⟩
          · rw [List.map_cons, round.named]
          · rintro attempt (_ | ⟨_, later⟩)
            · exact built
            · exact round.request_eq attempt later
      | ok request =>
          rcases answered : answer request before with ⟨⟨time, settlement⟩, between⟩
          obtain ⟨attempts, after, round⟩ := ih between
          refine ⟨⟨id, .ok (request, settlement)⟩ :: attempts, after, ?_, ?_, ?_⟩
          · rw [List.map_cons, round.named]
          · rintro attempt (_ | ⟨_, later⟩)
            · exact built
            · exact round.request_eq attempt later
          · change answerTogether answer (request :: attempts.filterMap Attempt.request?) before =
              (settlement :: attempts.filterMap Attempt.settlement?, after)
            simp only [answerTogether, answered, round.settle_eq]

theorem requests_attempts {attempts : List Attempt}
    (requested : ∀ attempt ∈ attempts,
      (Api.action base kind attempt.id).request = attempt.sent.map Prod.fst) :
    (attempts.map fun attempt => Api.action base kind attempt.id).flatMap Api.Call.requests =
      attempts.filterMap Attempt.request? := by
  induction attempts with
  | nil => rfl
  | cons attempt rest ih =>
      obtain ⟨first, later⟩ := List.forall_mem_cons.mp requested
      rw [List.map_cons, List.flatMap_cons, ih later, Api.Call.requests, first]
      rcases attempt with ⟨id, error | ⟨request, settlement⟩⟩ <;> rfl

theorem readAll_attempts {attempts : List Attempt}
    (requested : ∀ attempt ∈ attempts,
      (Api.action base kind attempt.id).request = attempt.sent.map Prod.fst) :
    Session.readAll (attempts.map fun attempt => Api.action base kind attempt.id)
        (attempts.filterMap Attempt.settlement?) =
      attempts.map Attempt.settled := by
  induction attempts with
  | nil => rfl
  | cons attempt rest ih =>
      obtain ⟨first, later⟩ := List.forall_mem_cons.mp requested
      rcases attempt with ⟨id, error | ⟨request, settlement⟩⟩
      · rw [List.map_cons, Session.readAll, first]
        exact congrArg _ (ih later)
      · rw [List.map_cons, Session.readAll, first]
        exact congrArg _ (ih later)

end Attempts

/-! ## Playing the rounds -/

section Rounds

variable (situation : Situation σ) (options : Options)

/-- The identifiers that an action is for are targeted. -/
theorem play_targetIds (targets : Targets) (before : σ) :
    ∃ listing chosen between,
      Targeted (situation.answer (allowedTime options)) options.apiBaseUrl before targets listing
        chosen between ∧
      (targetIds options targets).play (situation.surroundings options) before =
        (chosen, ⟨listing, [], []⟩, between) := by
  cases targets with
  | ids ids => exact ⟨_, _, _, .given ids, rfl⟩
  | all =>
      obtain ⟨exchanges, fetched, after, out, played⟩ :=
        play_call situation options (Api.recurringJobs options.apiBaseUrl) before
      cases fetched with
      | error error => exact ⟨_, _, _, .missed out, play_then_done played rfl⟩
      | ok jobs => exact ⟨_, _, _, .fetched out, play_then_done played rfl⟩

/-- A round of attempts is played by a bulk action. -/
theorem play_bulkAction (kind : Kind) (selection : Selection) (before : σ) :
    ∃ attempts after transcript,
      Round (situation.answer (allowedTime options)) options.apiBaseUrl kind selection.ids before
        attempts after ∧
      (bulkAction options.apiBaseUrl kind selection).play (situation.surroundings options) before =
        (reportOf kind (attempts.map Attempt.settled), transcript, after) ∧
      transcript.exchanges = [attempts.filterMap Attempt.request?] ∧ transcript.lines = [] := by
  obtain ⟨attempts, after, round⟩ :=
    exists_round (situation.answer (allowedTime options)) options.apiBaseUrl kind selection.ids
      before
  have calls : actionCalls options.apiBaseUrl (selection.requests kind) =
      attempts.map fun attempt => Api.action options.apiBaseUrl kind attempt.id := by
    rw [actionCalls, Selection.requests, ← round.named, List.map_map, List.map_map]
    rfl
  have called : (Session.callAll (actionCalls options.apiBaseUrl (selection.requests kind))).play
      (situation.surroundings options) before =
        (attempts.map Attempt.settled, ⟨[attempts.filterMap Attempt.request?], [], []⟩, after) := by
    rw [calls, Session.callAll, requests_attempts round.request_eq, Session.play]
    simp only [Situation.surroundings, round.settle_eq, Session.play,
      readAll_attempts round.request_eq]
    rfl
  exact ⟨attempts, after, _, round,
    play_then (play_then_done called rfl) (play_then_done (play_reportAll _ _) rfl), by simp,
    by simp⟩

theorem play_refreshedJobs {report : Report} {attempts : List Attempt}
    (refresh_iff : report.refresh = true ↔ ∃ attempt ∈ attempts, attempt.settled = .ok 204)
    (before : σ) :
    ∃ refresh jobs after transcript,
      Refreshed (situation.answer (allowedTime options)) options.apiBaseUrl attempts before refresh
        jobs after ∧
      (refreshedJobs options report).play (situation.surroundings options) before =
        (jobs, transcript, after) ∧
      transcript.exchanges = refresh ∧ transcript.lines = [] := by
  by_cases changed : report.refresh = true
  · obtain ⟨exchanges, fetched, after, out, played⟩ :=
      play_call situation options (Api.recurringJobs options.apiBaseUrl) before
    rw [refreshedJobs, if_pos changed]
    cases fetched with
    | error error =>
        exact ⟨_, _, _, _, .fetched (refresh_iff.mp changed) out,
          play_then played (play_then_done (play_reportAll _ _) rfl), by simp, by simp⟩
    | ok jobs =>
        exact ⟨_, _, _, _, .fetched (refresh_iff.mp changed) out, play_then_done played rfl, rfl,
          rfl⟩
  · have unchanged : ∀ attempt ∈ attempts, attempt.settled ≠ .ok 204 :=
      fun attempt listed success => changed (refresh_iff.mpr ⟨attempt, listed, success⟩)
    rw [refreshedJobs, if_neg changed]
    exact ⟨_, _, _, _, .unchanged unchanged, rfl, rfl, rfl⟩

/-- What an action shows is printed, whatever it ends with. -/
theorem play_show {surroundings : Session.Surroundings σ} (json : Bool) (report : Report)
    (jobs : Option (List RecurringJob)) (commandEnd : CommandEnd) (state : σ) :
    (if json then do
        printValue (actionValue report jobs)
        pure commandEnd
      else do
        printLines (actionLines report jobs)
        pure commandEnd : Session CommandEnd).play surroundings state =
      (commandEnd, ⟨[], shownLines json report jobs, []⟩, state) :=
  play_shown json _ _ commandEnd state

/-- An action on a selection is a round of attempts, and a fetch if one has succeeded.  The
switch for JSON decides what is shown and nothing else. -/
theorem play_actOn (kind : Kind) (selection : Selection) (before : σ) :
    ∃ attempts settled refresh jobs after,
      Round (situation.answer (allowedTime options)) options.apiBaseUrl kind selection.ids before
        attempts settled ∧
      Refreshed (situation.answer (allowedTime options)) options.apiBaseUrl attempts settled refresh
        jobs after ∧
      ∀ json, ∃ transcript,
        (actOn { options with json := json } kind selection).play (situation.surroundings options)
            before =
          (actionEnd (reportOf kind (attempts.map Attempt.settled)), transcript, after) ∧
        transcript.exchanges = [attempts.filterMap Attempt.request?] ++ refresh ∧
        transcript.lines = shownLines json (reportOf kind (attempts.map Attempt.settled)) jobs := by
  obtain ⟨attempts, settled, acting, round, acted, acts, silent⟩ :=
    play_bulkAction situation options kind selection before
  have refresh_iff : (reportOf kind (attempts.map Attempt.settled)).refresh = true ↔
      ∃ attempt ∈ attempts, attempt.settled = .ok 204 :=
    refresh_reportOf_iff.trans List.mem_map
  obtain ⟨refresh, jobs, after, refreshing, refreshed, fetched, fetches, quiet⟩ :=
    play_refreshedJobs situation options refresh_iff settled
  refine ⟨attempts, settled, refresh, jobs, after, round, refreshed, fun json => ?_⟩
  exact ⟨_, play_then acted (play_then fetched (play_show json _ jobs _ after)),
    by simp [acts, fetches], by simp [silent, quiet]⟩

end Rounds

/-! ## Whole commands -/

/-- An action ends with an error exactly when a request has failed, and the error has the
numbers of the report. -/
theorem actionEnd_reportOf (kind : Kind) (settled : List Settled) :
    actionEnd (reportOf kind settled) =
      if 0 < (reportOf kind settled).counts.failed then
        .error (.actionsFailed kind (reportOf kind settled).counts)
      else .ok () := by
  simp only [actionEnd, isError_reportOf_iff]
  rfl

theorem reports_reportOf {json : Bool} {kind : Kind} {attempts : List Attempt}
    {jobs : Option (List RecurringJob)} {run : Run}
    (shown : run.lines = shownLines json (reportOf kind (attempts.map Attempt.settled)) jobs)
    (status_eq : run.status =
      CommandEnd.status (actionEnd (reportOf kind (attempts.map Attempt.settled))))
    (complaint_eq : run.complaint =
      complaintOf (actionEnd (reportOf kind (attempts.map Attempt.settled)))) :
    Reports json kind attempts (reportOf kind (attempts.map Attempt.settled)) jobs run := by
  have failed : (reportOf kind (attempts.map Attempt.settled)).counts.failed =
      attempts.countP fun attempt => Fails kind attempt.settled :=
    (number_counts_reportOf (fun _ => outcomeOf_eq_failed_iff) _).trans List.countP_map
  have someFails : 0 < (reportOf kind (attempts.map Attempt.settled)).counts.failed ↔
      ∃ attempt ∈ attempts, Fails kind attempt.settled := by
    simp [failed, List.countP_pos_iff]
  rw [actionEnd_reportOf] at status_eq complaint_eq
  constructor
  case lines_eq => exact shown
  case failed_eq => exact failed
  case total_eq => rw [total_counts_reportOf, List.length_map]
  case result_eq =>
    intro number all error concluded
    rw [result_reportOf_eq_someFailed_iff] at concluded
    exact ⟨concluded.2.1, concluded.2.2.1⟩
  case status_eq_four_iff =>
    rw [status_eq, ← someFails]
    split
    next fails => exact iff_of_true rfl fails
    next holds => exact iff_of_false (by decide) holds
  case status_eq_zero_iff =>
    rw [status_eq]
    split
    next fails =>
      obtain ⟨attempt, listed, failing⟩ := someFails.mp fails
      exact iff_of_false (by simp [CommandEnd.status, CommandError.status]) fun none =>
        none attempt listed failing
    next holds =>
      exact iff_of_true rfl fun attempt listed failing =>
        holds (someFails.mpr ⟨attempt, listed, failing⟩)
  case complaint_eq =>
    rw [complaint_eq]
    split <;> rfl

/-- A command runs its course, and the switch for JSON changes neither what is requested nor
how the command ends. -/
theorem play_actCommand (situation : Situation σ) (options : Options) (kind : Kind)
    (targets : Targets) (before : σ) :
    ∃ commandEnd exchanges after, ∀ json, ∃ transcript,
      (actCommand { options with json := json } kind targets).play (situation.surroundings options)
          before = (commandEnd, transcript, after) ∧
      transcript.exchanges = exchanges ∧
      Course (situation.answer (allowedTime options)) { options with json := json } kind targets
        before exchanges
        ⟨CommandEnd.status commandEnd, transcript.lines, complaintOf commandEnd,
          transcript.requests, transcript.events⟩ := by
  obtain ⟨listing, chosen, between, targeted, listed⟩ :=
    play_targetIds situation options targets before
  cases chosen with
  | error error =>
      refine ⟨.error error, listing, between, fun json => ⟨_, play_then_done listed rfl, rfl, ?_⟩⟩
      refine .unlisted targeted ?_
      cases targeted
      rfl
  | ok ids =>
      cases made : Selection.of? ids with
      | none =>
          have empty := Selection.of?_eq_none_iff.mp made
          subst empty
          exact ⟨.ok (), listing, between, fun json =>
            ⟨_, play_then listed rfl, by simp, .unselected targeted rfl⟩⟩
      | some selection =>
          have filled : ids ≠ [] := by
            intro empty
            rw [Selection.of?_eq_none_iff.mpr empty] at made
            contradiction
          have chosen := Selection.ids_of_of? made
          obtain ⟨attempts, settled, refresh, jobs, after, round, refreshed, acted⟩ :=
            play_actOn situation options kind selection between
          refine ⟨actionEnd (reportOf kind (attempts.map Attempt.settled)),
            listing ++ ([attempts.filterMap Attempt.request?] ++ refresh), after, fun json => ?_⟩
          obtain ⟨transcript, played, exchanges, lines⟩ := acted json
          have reached : (actOnIds { options with json := json } kind ids).play
              (situation.surroundings options) between =
                (actionEnd (reportOf kind (attempts.map Attempt.settled)), transcript, after) := by
            rw [actOnIds, made]
            exact played
          refine ⟨_, play_then listed reached, by simp [exchanges], ?_⟩
          exact .acted targeted filled (chosen ▸ (pairwise_distinctIds ids).imp Std.ne_of_lt)
            (by simp [chosen]) round (fun _ _ => Attempt.fails_of_request?_eq_none kind) refreshed
            (by simp)
            (reports_reportOf (by simp [lines]) rfl rfl)

/-- A bulk command is a session, and its run is what can be seen of that. -/
theorem runInvocation_act {situation : Situation σ} {options : Options} {kind : Kind}
    {targets : Targets} {commandEnd : CommandEnd} {transcript : Session.Transcript}
    {before after : σ} (steps : Nat)
    (played : (actCommand options kind targets).play (situation.surroundings options) before =
      (commandEnd, transcript, after)) :
    runInvocation situation steps ⟨options, .act kind targets⟩ before =
      some ⟨CommandEnd.status commandEnd, transcript.lines, complaintOf commandEnd,
        transcript.requests, transcript.events⟩ :=
  runInvocation_of_play rfl played steps

/-- A bulk command is carried out: its requests are those of its course, which is decided by
the API, and with the other switch for JSON it requests the same and ends in the same way. -/
theorem bulk_command_course {situation : Situation σ} {arguments : List String}
    {options : Options} {kind : Kind} {targets : Targets}
    (parsed : Invocation.read situation.environment arguments = .ok ⟨options, .act kind targets⟩)
    (steps : Nat) (state : σ) :
    ∃ run transcript, runProgram situation steps arguments state = some run ∧
      ((actCommand options kind targets).play (situation.surroundings options) state).2.1 =
        transcript ∧
      run.requests = transcript.exchanges.flatten ∧
      Course (situation.answer (allowedTime options)) options kind targets state
        transcript.exchanges run ∧
      ∀ json, ∃ other,
        runInvocation situation steps ⟨{ options with json := json }, .act kind targets⟩ state =
          some other ∧
        other.requests = run.requests ∧ other.status = run.status ∧
          other.complaint = run.complaint := by
  obtain ⟨commandEnd, exchanges, after, course⟩ :=
    play_actCommand situation options kind targets state
  obtain ⟨transcript, played, exchanged, run⟩ := course options.json
  refine ⟨_, transcript, ?_, congrArg (·.2.1) played, rfl, exchanged.symm ▸ run, fun json => ?_⟩
  · rw [runProgram, parsed]
    exact runInvocation_act steps played
  · obtain ⟨other, otherPlayed, otherExchanged, -⟩ := course json
    refine ⟨_, runInvocation_act steps otherPlayed, ?_, rfl, rfl⟩
    change other.exchanges.flatten = transcript.exchanges.flatten
    rw [otherExchanged, exchanged]

/-- Two recurring jobs are listed, one of them is deleted and the other is not, and the list
cannot be fetched again. -/
def halfDeleted : Script :=
  .ofRoutes ⟨"http".toList, some ⟨.absent, "h".toList, none⟩, [], none, none⟩ [
    ⟨"GET /api/recurring-jobs", 0, .respond ⟨200,
      [encodeUtf8 "[[\"a\",\"\",\"\"],[\"b\",\"\",\"\"]]".toList]⟩⟩,
    ⟨"DELETE /api/recurring-jobs/a", 0, .respond ⟨204, []⟩⟩,
    ⟨"DELETE /api/recurring-jobs/b", 0, .respond ⟨500, []⟩⟩,
    ⟨"GET /api/recurring-jobs", 0, .breakOff⟩]

/-- The command line that deletes all recurring jobs of a script. -/
def deleteAll : List String :=
  ["recurring-jobs", "delete", "--all", "--api-base-url", "http://h"]

/-- A success and a failure: the list is fetched again, in vain, and the command ends with the
failure. -/
theorem course_of_halfDeleted :
    Invocation.read scriptedSituation.environment deleteAll =
        .ok ⟨⟨"http://h", 5, 10, false⟩, .act .delete .all⟩ ∧
      ∃ run exchanges, runProgram scriptedSituation 0 deleteAll halfDeleted = some run ∧
        Course (Script.answer 10000) ⟨"http://h", 5, 10, false⟩ .delete .all halfDeleted exchanges
          run ∧
        run.requests.map Request.line = ["GET /api/recurring-jobs", "DELETE /api/recurring-jobs/a",
          "DELETE /api/recurring-jobs/b", "GET /api/recurring-jobs"] ∧
        run.status = 4 ∧ run.complaint = "action_failed: 1 of 2 delete requests failed" := by
  have parsed : Invocation.read scriptedSituation.environment deleteAll =
      .ok ⟨⟨"http://h", 5, 10, false⟩, .act .delete .all⟩ := by
    rfl
  have seen : (runProgram scriptedSituation 0 deleteAll halfDeleted).map
      (fun run => (run.requests.map Request.line, run.status, run.complaint)) =
        some (["GET /api/recurring-jobs", "DELETE /api/recurring-jobs/a",
          "DELETE /api/recurring-jobs/b", "GET /api/recurring-jobs"], 4,
          "action_failed: 1 of 2 delete requests failed") := by
    decide +kernel
  obtain ⟨run, transcript, ran, -, -, course, -⟩ := bulk_command_course parsed 0 halfDeleted
  rw [ran, Option.map_some, Option.some.injEq, Prod.mk.injEq, Prod.mk.injEq] at seen
  exact ⟨parsed, run, transcript.exchanges, ran, course, seen⟩

/-- The command line that triggers a recurring job below a base that is no address. -/
def triggerNowhere : List String :=
  ["recurring-jobs", "trigger", "a", "--api-base-url", "nope"]

/-- Below a base that is no address an identifier is selected and nothing is sent for it. -/
theorem trigger_without_request :
    ∃ options run,
      Invocation.read scriptedSituation.environment triggerNowhere =
        .ok ⟨options, .act .trigger (.ids ["a"])⟩ ∧
      runProgram scriptedSituation 0 triggerNowhere halfDeleted = some run ∧
      run.status = 4 ∧ run.requests.length ≠ (distinctIds ["a"]).length := by
  have seen : (runProgram scriptedSituation 0 triggerNowhere halfDeleted).map
      (fun run => (run.status, run.requests.length)) = some (4, 0) := by
    decide +kernel
  obtain ⟨run, ran, shown⟩ := Option.map_eq_some_iff.mp seen
  obtain ⟨status, requests⟩ := Prod.mk.inj shown
  exact ⟨⟨"nope", 5, 10, false⟩, run, rfl, ran, status, by rw [requests]; decide⟩

end JobConsole.Cli
