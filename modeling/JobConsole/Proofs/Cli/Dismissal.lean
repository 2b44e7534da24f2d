import JobConsole.Proofs.Cli.Calls

/-!
# Dismissals and the store of the problems

A dismissal makes two requests, which fail apart from each other.  The deletion decides the
outcome, and with it how the command ends.  The fetch behind it, which is made only when the
deletion has got a status, decides what becomes of the store: the problems that have been
fetched are pushed into it, and otherwise it stays as it was.

The store may be in any state, and its observers may follow any script.
-/

namespace JobConsole.Cli

open JobConsole.Batch
open JobConsole.Http
open JobConsole.Session

variable {σ ο γ : Type} [DecidableEq ο] [DecidableEq γ]

/-! ## The course of a dismissal -/

/-- The course of a dismissal: what is requested together, how the deletion settles, and the
problems that are fetched behind it, if they can be. -/
inductive DismissalCourse (answer : Answering σ) (base : String) (before : σ) :
    List (List Request) → Settled → Option (List Problem) → σ → Prop
  | unreachable {exchanges : List (List Request)} {error : TransportError} {after : σ}
      (unsettled : ComesOut answer (Api.dismiss base Problem.severeExceptionKind) before
        exchanges (.error error) after) :
      DismissalCourse answer base before exchanges (.error error) none after
  | unrefreshed {deletion : Request} {time : Nat} {reply : Response} {between after : σ}
      {refetch : List (List Request)} {error : Api.FetchError}
      (sent : (Api.dismiss base Problem.severeExceptionKind).request = .ok deletion)
      (settled : answer deletion before = ((time, .answered reply), between))
      (missed : ComesOut answer (Api.problems base) between refetch (.error error) after) :
      DismissalCourse answer base before ([deletion] :: refetch) (.ok reply.status) none after
  | refreshed {deletion fetch : Request} {time duration : Nat} {reply response : Response}
      {between after : σ} {problems : List Problem}
      (sent : (Api.dismiss base Problem.severeExceptionKind).request = .ok deletion)
      (settled : answer deletion before = ((time, .answered reply), between))
      (asked : (Api.problems base).request = .ok fetch)
      (answered : answer fetch between = ((duration, .answered response), after))
      (usable : isErrorStatus response.status = false)
      (decoded : Json.decodeBytes? Problem.decodeAll? response.body = some problems) :
      DismissalCourse answer base before [[deletion], [fetch]] (.ok reply.status)
        (some problems) after

/-- An outcome is decided by how the deletion has settled. -/
structure Decided (settled : Settled) (outcome : DismissOutcome) : Prop where
  dismissed_iff : outcome = .dismissed ↔
    ∃ status, settled = .ok status ∧ 200 ≤ status ∧ status ≤ 299
  unacknowledged_iff : ∀ status, outcome = .unacknowledged status ↔
    settled = .ok status ∧ ¬ (200 ≤ status ∧ status ≤ 299)
  unreachable_iff : outcome = .unreachable ↔ ∃ error, settled = .error error

/-- What becomes of a store: the problems that have been fetched are pushed into it, and
without them it stays as it was. -/
def storedAfter (script : Store.Script (List Problem) ο γ) (passes : Nat)
    (store : Store.Run (List Problem) ο γ) :
    Option (List Problem) → Option (Store.Run (List Problem) ο γ × Store.Run.Ending)
  | some problems => store.step script passes (.push problems)
  | none => some (store, .finished)

theorem isSuccessStatus_iff {status : Nat} :
    isSuccessStatus status = true ↔ 200 ≤ status ∧ status ≤ 299 := by
  simp only [isSuccessStatus, Bool.and_eq_true, decide_eq_true_eq]
  omega

theorem decided_ofSettled (settled : Settled) : Decided settled (.ofSettled settled) where
  dismissed_iff := by
    simp only [DismissOutcome.ofSettled_eq_dismissed_iff, isSuccessStatus_iff]
  unacknowledged_iff status := by
    cases settled with
    | error error => simp [DismissOutcome.ofSettled]
    | ok found =>
        rw [DismissOutcome.ofSettled, ← isSuccessStatus_iff]
        split
        next success =>
          constructor
          · intro impossible
            cases impossible
          · rintro ⟨same, failure⟩
            cases same
            exact absurd success failure
        next failure =>
          constructor
          · intro same
            cases same
            exact ⟨rfl, failure⟩
          · rintro ⟨same, -⟩
            cases same
            rfl
  unreachable_iff := DismissOutcome.ofSettled_eq_unreachable_iff

/-! ## Playing a dismissal -/

section Playing

variable (situation : Situation σ) (options : Options) (before : σ)

/-- A dismissal runs its course.  What can be seen of it depends neither on the store nor on
its observers. -/
theorem play_dismissSevereTelling :
    ∃ transcript settled fetched after,
      DismissalCourse (situation.answer (allowedTime options)) options.apiBaseUrl before
        transcript.exchanges settled fetched after ∧
      ∀ {ο γ : Type} [DecidableEq ο] [DecidableEq γ] (script : Store.Script (List Problem) ο γ)
        (passes : Nat) (store : Store.Run (List Problem) ο γ),
        (dismissSevereTelling script passes options.apiBaseUrl store).play
            (situation.surroundings options) before =
          (⟨.ofSettled settled, storedAfter script passes store fetched⟩, transcript, after) := by
  obtain ⟨deletion, settled, between, out, played⟩ :=
    play_call situation options (Api.dismiss options.apiBaseUrl Problem.severeExceptionKind) before
  cases settled with
  | error error =>
      refine ⟨⟨deletion, [], []⟩ ++ ⟨[], [], dismissalEvents (.error error)⟩, .error error, none,
        between, ?_, fun script passes store => ?_⟩
      · simpa using DismissalCourse.unreachable out
      · exact play_then played (play_then_done (play_reportAll _ _) rfl)
  | ok status =>
      obtain ⟨request, time, reply, sent, answered, rfl, rfl⟩ := comesOut_submit_ok_iff.mp out
      obtain ⟨refetch, fetched, after, fetchedOut, fetching⟩ :=
        play_call situation options (Api.problems options.apiBaseUrl) between
      have refetched {ο γ : Type} [DecidableEq ο] [DecidableEq γ]
          (script : Store.Script (List Problem) ο γ) (passes : Nat)
          (store : Store.Run (List Problem) ο γ) :
          (dismissSevereTelling script passes options.apiBaseUrl store).play
              (situation.surroundings options) before =
            (⟨.ofSettled (.ok reply.status), refreshStore script passes fetched store⟩,
              ⟨[[request]], [], []⟩ ++ (⟨[], [], dismissalEvents (.ok reply.status)⟩ ++
                (⟨refetch, [], []⟩ ++ ⟨[], [], [refreshEvent fetched]⟩)), after) :=
        play_then played (play_then (play_reportAll _ _)
          (play_then fetching (play_then_done (play_reportAll _ _) rfl)))
      cases fetched with
      | error error =>
          refine ⟨_, .ok reply.status, none, after, ?_, refetched⟩
          simpa using DismissalCourse.unrefreshed sent answered fetchedOut
      | ok problems =>
          obtain ⟨fetch, duration, response, asked, reached, usable, decoded, rfl⟩ :=
            comesOut_fetch_ok_iff.mp fetchedOut
          refine ⟨_, .ok reply.status, some problems, after, ?_, refetched⟩
          simpa using DismissalCourse.refreshed sent answered asked reached usable decoded

/-- The command dismisses into a store without observers.  How it ends is decided by the
outcome, and not by what it shows. -/
theorem play_dismissSevereCommand {outcome : DismissOutcome} {fetched : Option (List Problem)}
    {transcript : Transcript} {after : σ}
    (played : ∀ store : Store.Run (List Problem) Unit Unit,
      (dismissSevereTelling Store.Run.passive 2 options.apiBaseUrl store).play
          (situation.surroundings options) before =
        (⟨outcome, storedAfter Store.Run.passive 2 store fetched⟩, transcript, after)) :
    ∃ lines, (dismissSevereCommand options).play (situation.surroundings options) before =
      (dismissalEnd outcome, transcript ++ ⟨[], lines, []⟩, after) := by
  have dismissed : (dismissSevere options.apiBaseUrl
      (Store.Run.empty : Store.Run (List Problem) Unit Unit)).play
        (situation.surroundings options) before = _ := play_then_done (played .empty) rfl
  exact ⟨_, play_then dismissed (play_shown options.json _ _ _ after)⟩

end Playing

theorem status_dismissalEnd (outcome : DismissOutcome) :
    CommandEnd.status (dismissalEnd outcome) = if outcome = .dismissed then 0 else 3 := by
  cases outcome <;> rfl

/-! ## The whole dismissal -/

/-- The deletion alone decides the outcome of a dismissal and how the command ends.  The problems
are fetched only behind a deletion with a status, and what becomes of a store with any observers
is one push of the problems that have been fetched, or nothing at all. -/
theorem outcome_by_deletion_effect_by_refetch (situation : Situation σ) (options : Options)
    (before : σ) :
    ∃ transcript settled outcome fetched after,
      DismissalCourse (situation.answer (allowedTime options)) options.apiBaseUrl before
        transcript.exchanges settled fetched after ∧
      Decided settled outcome ∧
      (∀ {ο γ : Type} [DecidableEq ο] [DecidableEq γ] (script : Store.Script (List Problem) ο γ)
        (passes : Nat) (store : Store.Run (List Problem) ο γ),
        (dismissSevereTelling script passes options.apiBaseUrl store).play
            (situation.surroundings options) before =
          (⟨outcome, storedAfter script passes store fetched⟩, transcript, after)) ∧
      ∀ (arguments : List String) (steps : Nat),
        Invocation.read situation.environment arguments = .ok ⟨options, .dismissSevere⟩ →
        ∃ run, runProgram situation steps arguments before = some run ∧
          run.requests = transcript.requests ∧
          (run.status = 0 ↔ outcome = .dismissed) ∧ (run.status = 3 ↔ outcome ≠ .dismissed) := by
  obtain ⟨transcript, settled, fetched, after, course, played⟩ :=
    play_dismissSevereTelling situation options before
  refine ⟨transcript, settled, .ofSettled settled, fetched, after, course,
    decided_ofSettled settled, played, fun arguments steps parsed => ?_⟩
  obtain ⟨lines, shown⟩ := play_dismissSevereCommand situation options before (played _ _)
  refine ⟨_, runProgram_of_play parsed rfl shown steps, ?_, ?_, ?_⟩
  · simp [Transcript.requests]
  · simp only [status_dismissalEnd]
    split <;> simp_all
  · simp only [status_dismissalEnd]
    split <;> simp_all

/-- The deletion is refused, but the problems can be fetched. -/
def refused : Script :=
  .ofRoutes ⟨"http".toList, some ⟨.absent, "h".toList, none⟩, [], none, none⟩ [
    ⟨"DELETE /api/problems/severe-jobrunr-exception", 0, .respond ⟨409, []⟩⟩,
    ⟨"GET /api/problems", 0, .respond ⟨200,
      [Text.encodeUtf8 "[\x7b\"type\":\"disk-full\"\x7d]".toList]⟩⟩]

/-- The command line that dismisses the report of a severe exception. -/
def dismissNow : List String :=
  ["problems", "dismiss-severe", "--api-base-url", "http://h"]

/-- A store of the problems with two observers. -/
def observed : Store.Run (List Problem) Nat Nat :=
  (Store.Run.empty.perform (.subscribe 7)).perform (.subscribe 8)

/-- The first observer fails, so that the second one is not told. -/
def failingFirst : Store.Script (List Problem) Nat Nat :=
  fun _ observer _ => if observer = 7 then [.fail] else []

/-- The types of the problems in a store, the observers that have been called, and how the push
has ended. -/
def seenOf (stored : Option (Store.Run (List Problem) Nat Nat × Store.Run.Ending)) :
    Option (Option (List String) × List Nat × Store.Run.Ending) :=
  stored.map fun (run, ending) =>
    (run.store.current.value?.map (List.map Problem.kind),
      (Store.Run.callsOf run.events).map Prod.fst, ending)

/-- A refusal with a list behind it: the command ends with status three, and yet the problems are
pushed, the failure of an observer included. -/
theorem dismissal_of_refused :
    Invocation.read scriptedSituation.environment dismissNow =
        .ok ⟨⟨"http://h", 5, 10, false⟩, .dismissSevere⟩ ∧
      ∃ run exchanges fetched after,
        runProgram scriptedSituation 0 dismissNow refused = some run ∧ run.status = 3 ∧
        run.requests.map Request.line =
          ["DELETE /api/problems/severe-jobrunr-exception", "GET /api/problems"] ∧
        DismissalCourse (Script.answer 10000) "http://h" refused exchanges (.ok 409) fetched
          after ∧
        seenOf (storedAfter failingFirst 1 observed fetched) =
          some (some ["disk-full"], [7], .failed) := by
  have parsed : Invocation.read scriptedSituation.environment dismissNow =
      .ok ⟨⟨"http://h", 5, 10, false⟩, .dismissSevere⟩ := by
    rfl
  have requested : (runProgram scriptedSituation 0 dismissNow refused).map
      (fun run => run.requests.map Request.line) =
        some ["DELETE /api/problems/severe-jobrunr-exception", "GET /api/problems"] := by
    decide +kernel
  have dismissed : (fun dismissal => (dismissal.outcome, seenOf dismissal.stored))
      ((dismissSevereTelling failingFirst 1 "http://h" observed).play
        (scriptedSituation.surroundings ⟨"http://h", 5, 10, false⟩) refused).1 =
          (.unacknowledged 409, some (some ["disk-full"], [7], .failed)) := by
    decide +kernel
  obtain ⟨transcript, settled, outcome, fetched, after, course, decided, played, carried⟩ :=
    outcome_by_deletion_effect_by_refetch scriptedSituation ⟨"http://h", 5, 10, false⟩ refused
  rw [played] at dismissed
  obtain ⟨refusal, seen⟩ := Prod.mk.inj dismissed
  obtain ⟨rfl, -⟩ := (decided.unacknowledged_iff 409).mp refusal
  have failed : outcome ≠ .dismissed := fun success => nomatch success.symm.trans refusal
  obtain ⟨run, ran, -, -, status_eq_three_iff⟩ := carried dismissNow 0 parsed
  rw [ran, Option.map_some, Option.some.injEq] at requested
  exact ⟨parsed, run, transcript.exchanges, fetched, after, ran, status_eq_three_iff.mpr failed,
    requested, course, seen⟩

end JobConsole.Cli
