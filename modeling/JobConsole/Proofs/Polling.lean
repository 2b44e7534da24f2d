import JobConsole.Poller
import JobConsole.Proofs.Store.History
import Mathlib.Algebra.Group.Nat.Defs
import Mathlib.Data.List.Induction

/-!
# What a poller reports

A poller remembers two things, the length of the current row of failures and the reading
of the clock at the last warning of the row.  Both are tied here to what has been
fetched, whatever the mixture of successes and failures: a row is a maximal block of
failures, each of its failures is counted, the first one gives a warning, and so does a
later one exactly when the throttle has passed since the last warning of the row.

Positions in a list of fetches are counted from zero.  Since every fetch has one event,
they are positions in the list of events as well.
-/

namespace JobConsole.Poller

open JobConsole.Store

variable {α : Type}

/-- Whether a fetch has failed. -/
def hasFailed (fetch : Fetch α) : Bool :=
  (fetched? fetch).isNone

/-- The fetch at a position has failed. -/
def FailsAt (fetches : List (Fetch α)) (n : Nat) : Prop :=
  ∃ fetch, fetches[n]? = some fetch ∧ hasFailed fetch = true

/-- The event at a position is a warning. -/
def WarnsAt (events : List LogEvent) (n : Nat) : Prop :=
  ∃ event, events[n]? = some event ∧ event.level = .warn

/-- A row of failures begins at one position and goes on up to another one. -/
structure Row (fetches : List (Fetch α)) (first n : Nat) : Prop where
  fails : ∀ m, first ≤ m → m ≤ n → FailsAt fetches m
  begins : ∀ m, m + 1 = first → ¬ FailsAt fetches m
  first_le : first ≤ n

/-- The last warning of a row before a position. -/
structure LastWarning (events : List LogEvent) (first warned n : Nat) : Prop where
  first_le : first ≤ warned
  lt : warned < n
  warns : WarnsAt events warned
  last : ∀ m, warned < m → m < n → ¬ WarnsAt events m

/-- The number of failures that an event tells of when there were as many as given. -/
def counted (failures : Nat) : LogDatum :=
  .number (min failures (2 ^ 32 - 1) : Nat)

/-- Events report fetches: every failure with its place in its row, the first one of a
row and those that the throttle lets through as warnings, and the end of every row. -/
structure Report (setup : PollerSetup) (fetches : List (Fetch α)) (events : List LogEvent) :
    Prop where
  one_each : events.length = fetches.length
  has_row : ∀ n, FailsAt fetches n → ∃ first, Row fetches first n
  failure : ∀ first n fetch message, Row fetches first n → fetches[n]? = some fetch →
    fetch.result = .error message →
      ∃ level text, (level = .warn ∨ level = .debug) ∧
        events[n]? = some ⟨.polling, level, text,
          [("source", .text setup.source), ("store", .text setup.store),
            ("consecutive_failures", counted (n - first + 1)), ("error", .text message)]⟩
  first_warns : ∀ n, Row fetches n n → WarnsAt events n
  later_warns_iff : ∀ first warned n last fetch, Row fetches first n →
    LastWarning events first warned n → fetches[warned]? = some last →
    fetches[n]? = some fetch →
      (WarnsAt events n ↔ last.reading + setup.throttle ≤ fetch.reading)
  apart : ∀ first earlier later early late, Row fetches first later → first ≤ earlier →
    earlier < later → WarnsAt events earlier → WarnsAt events later →
    fetches[earlier]? = some early → fetches[later]? = some late →
      early.reading + setup.throttle ≤ late.reading
  recovery : ∀ first m fetch value, Row fetches first m → fetches[m + 1]? = some fetch →
    fetch.result = .ok value →
      events[m + 1]? = some ⟨.polling, .info, "snapshot source recovered",
        [("source", .text setup.source), ("store", .text setup.store),
          ("consecutive_failures", counted (m - first + 1))]⟩
  refreshed : ∀ n fetch value, fetches[n]? = some fetch → fetch.result = .ok value →
    (∀ m, m + 1 = n → ¬ FailsAt fetches m) →
      ∃ event, events[n]? = some event ∧ event.level = .debug

/-! ## The poller at a position -/

/-- The poller when it comes to a position. -/
def comingTo (setup : PollerSetup) (fetches : List (Fetch α)) (n : Nat) : Poller :=
  (fetches.take n).foldl (fun poller fetch => (poller.observe setup fetch).1) fresh

theorem comingTo_succ {setup : PollerSetup} {fetches : List (Fetch α)} {n : Nat}
    {fetch : Fetch α} (here : fetches[n]? = some fetch) :
    comingTo setup fetches (n + 1) = ((comingTo setup fetches n).observe setup fetch).1 := by
  rw [comingTo, List.take_add_one, here, List.foldl_append]
  rfl

/-- An event is that of the fetch and of the poller that comes to it. -/
theorem getElem?_eventsOf_from (setup : PollerSetup) (fetches : List (Fetch α)) (poller : Poller)
    (n : Nat) :
    (eventsOf setup fetches poller)[n]? = fetches[n]?.map fun fetch =>
      (((fetches.take n).foldl (fun poller fetch => (poller.observe setup fetch).1)
        poller).observe setup fetch).2 := by
  induction fetches generalizing poller n with
  | nil => rfl
  | cons fetch rest ih =>
      cases n with
      | zero => rfl
      | succ n => exact ih (poller.observe setup fetch).1 n

theorem getElem?_eventsOf {setup : PollerSetup} {fetches : List (Fetch α)} {n : Nat}
    {fetch : Fetch α} (here : fetches[n]? = some fetch) :
    (eventsOf setup fetches fresh)[n]? =
      some ((comingTo setup fetches n).observe setup fetch).2 := by
  rw [getElem?_eventsOf_from, here]
  rfl

theorem hasFailed_of_error {fetch : Fetch α} {message : String}
    (failed : fetch.result = .error message) : hasFailed fetch = true := by
  simp [hasFailed, fetched?, failed]

theorem hasFailed_of_ok {fetch : Fetch α} {value : α} (got : fetch.result = .ok value) :
    hasFailed fetch = false := by
  simp [hasFailed, fetched?, got]

theorem error_of_hasFailed {fetch : Fetch α} (failed : hasFailed fetch = true) :
    ∃ message, fetch.result = .error message := by
  cases result : fetch.result with
  | ok value => simp [hasFailed_of_ok result] at failed
  | error message => exact ⟨message, rfl⟩

theorem observe_of_ok {setup : PollerSetup} {fetch : Fetch α} {value : α}
    (got : fetch.result = .ok value) (poller : Poller) :
    poller.observe setup fetch = (fresh, successEvent setup poller) := by
  simp only [observe, got]

theorem observe_of_error {setup : PollerSetup} {fetch : Fetch α} {message : String}
    (failed : fetch.result = .error message) (poller : Poller) :
    poller.observe setup fetch =
      (⟨countFailure poller.failures,
          if poller.isWarningDue setup fetch.reading then some fetch.reading
          else poller.lastWarning⟩,
        failureEvent setup (poller.isWarningDue setup fetch.reading)
          (countFailure poller.failures) message) := by
  simp only [observe, failed]

/-- A poller is fresh where no failure stands directly before. -/
theorem comingTo_eq_fresh (setup : PollerSetup) {fetches : List (Fetch α)} {n : Nat}
    (within : n < fetches.length) (still : ∀ m, m + 1 = n → ¬ FailsAt fetches m) :
    comingTo setup fetches n = fresh := by
  cases n with
  | zero => rfl
  | succ m =>
      have here : fetches[m]? = some fetches[m] := List.getElem?_eq_getElem (by omega)
      cases result : fetches[m].result with
      | ok value => rw [comingTo_succ here, observe_of_ok result]
      | error message => exact absurd ⟨_, here, hasFailed_of_error result⟩ (still m rfl)

theorem warnsAt_iff (setup : PollerSetup) {fetches : List (Fetch α)} {n : Nat}
    {fetch : Fetch α} {message : String} (here : fetches[n]? = some fetch)
    (failed : fetch.result = .error message) :
    WarnsAt (eventsOf setup fetches fresh) n ↔
      (comingTo setup fetches n).isWarningDue setup fetch.reading = true := by
  rw [WarnsAt, getElem?_eventsOf here, observe_of_error failed]
  cases (comingTo setup fetches n).isWarningDue setup fetch.reading <;> simp [failureEvent]

theorem countFailure_min (failures : Nat) :
    countFailure (min failures failureBound) = min (failures + 1) failureBound := by
  have positive : 0 < failureBound := by decide
  simp only [countFailure]
  omega

theorem counted_eq (failures : Nat) : counted failures = .number (min failures failureBound : Nat) :=
  rfl

/-! ## Rows -/

/-- What a poller remembers of the failures from one position up to another: their
number, and the reading at the last warning among them. -/
structure Remembers (setup : PollerSetup) (fetches : List (Fetch α)) (first n : Nat) : Prop where
  failures : (comingTo setup fetches n).failures = min (n - first) failureBound
  lastWarning : n = first ∧ (comingTo setup fetches n).lastWarning = none ∨
    ∃ warned fetch, LastWarning (eventsOf setup fetches fresh) first warned n ∧
      fetches[warned]? = some fetch ∧
      (comingTo setup fetches n).lastWarning = some fetch.reading

/-- One more failure is counted, and its reading is kept if it gives a warning. -/
theorem Remembers.succ {setup : PollerSetup} {fetches : List (Fetch α)} {first n : Nat}
    (remembers : Remembers setup fetches first n) (begun : first ≤ n)
    (fails : FailsAt fetches n) : Remembers setup fetches first (n + 1) := by
  obtain ⟨fetch, here, failed⟩ := fails
  obtain ⟨message, isError⟩ := error_of_hasFailed failed
  have warns := warnsAt_iff setup here isError
  constructor
  · rw [comingTo_succ here, observe_of_error isError, remembers.failures, countFailure_min,
      Nat.succ_sub begun]
  · right
    rw [comingTo_succ here, observe_of_error isError]
    by_cases due : (comingTo setup fetches n).isWarningDue setup fetch.reading = true
    · refine ⟨n, fetch, ⟨begun, Nat.lt_succ_self n, warns.mpr due, ?_⟩, here, if_pos due⟩
      intro m behind before
      omega
    · rcases remembers.lastWarning with ⟨-, isNone⟩ | ⟨warned, last, lastWarning, isLast, kept⟩
      · exact absurd (by rw [isWarningDue, isNone]) due
      · refine ⟨warned, last, ?_, isLast, (if_neg due).trans kept⟩
        refine ⟨lastWarning.first_le, Nat.lt_succ_of_lt lastWarning.lt, lastWarning.warns, ?_⟩
        intro m behind before
        rcases Nat.lt_succ_iff_lt_or_eq.mp before with earlier | rfl
        · exact lastWarning.last m behind earlier
        · exact fun isWarning => due (warns.mp isWarning)

theorem FailsAt.lt_length {fetches : List (Fetch α)} {n : Nat} (fails : FailsAt fetches n) :
    n < fetches.length := by
  obtain ⟨fetch, here, -⟩ := fails
  exact (List.getElem?_eq_some_iff.mp here).1

/-- In a row the poller remembers the failures since its beginning. -/
theorem remembers_of_row (setup : PollerSetup) {fetches : List (Fetch α)} {first n : Nat}
    (row : Row fetches first n) : Remembers setup fetches first n := by
  have start : Remembers setup fetches first first := by
    have isFresh := comingTo_eq_fresh setup
      (row.fails first (Nat.le_refl _) row.first_le).lt_length row.begins
    constructor
    · rw [isFresh, Nat.sub_self]
      rfl
    · exact .inl ⟨rfl, by rw [isFresh]; rfl⟩
  obtain ⟨more, rfl⟩ := Nat.exists_eq_add_of_le row.first_le
  have fails := row.fails
  clear row
  induction more with
  | zero => exact start
  | succ more ih =>
      have before := ih fun m low high => fails m low (by omega)
      exact before.succ (Nat.le_add_right _ _) (fails (first + more) (by omega) (by omega))

/-- Every failure belongs to a row. -/
theorem exists_row {fetches : List (Fetch α)} {n : Nat} (fails : FailsAt fetches n) :
    ∃ first, Row fetches first n := by
  induction n with
  | zero =>
      refine ⟨0, fun m _ high => ?_, fun m impossible => absurd impossible (Nat.succ_ne_zero m),
        Nat.le_refl 0⟩
      rw [Nat.le_zero.mp high]
      exact fails
  | succ n ih =>
      by_cases before : FailsAt fetches n
      · obtain ⟨first, row⟩ := ih before
        refine ⟨first, fun m low high => ?_, row.begins, Nat.le_succ_of_le row.first_le⟩
        rcases Nat.le_succ_iff.mp high with earlier | rfl
        · exact row.fails m low earlier
        · exact fails
      · refine ⟨n + 1, fun m low high => ?_, fun m same => ?_, Nat.le_refl _⟩
        · rw [Nat.le_antisymm high low]
          exact fails
        · rw [Nat.succ.inj same]
          exact before

theorem Remembers.counted {setup : PollerSetup} {fetches : List (Fetch α)} {first n : Nat}
    (remembers : Remembers setup fetches first n) :
    LogDatum.number (countFailure (comingTo setup fetches n).failures : Nat) =
      Poller.counted (n - first + 1) := by
  rw [remembers.failures, countFailure_min, counted_eq]

section Clock

variable {setup : PollerSetup} {fetches : List (Fetch α)}
  (ordered : (fetches.filter hasFailed).Pairwise fun early late => early.reading ≤ late.reading)

include ordered

theorem reading_le {early late : Fetch α} {m n : Nat} (before : m < n)
    (isEarly : fetches[m]? = some early) (isLate : fetches[n]? = some late)
    (earlyFailed : hasFailed early = true) (lateFailed : hasFailed late = true) :
    early.reading ≤ late.reading := by
  rw [List.pairwise_filter, List.pairwise_iff_getElem] at ordered
  obtain ⟨withinEarly, rfl⟩ := List.getElem?_eq_some_iff.mp isEarly
  obtain ⟨withinLate, rfl⟩ := List.getElem?_eq_some_iff.mp isLate
  exact ordered m n withinEarly withinLate before earlyFailed lateFailed

/-- Behind a warning the next one waits for the throttle. -/
theorem warnsAt_iff_of_lastWarning {first warned n : Nat} {last fetch : Fetch α}
    (row : Row fetches first n)
    (lastWarning : LastWarning (eventsOf setup fetches fresh) first warned n)
    (isLast : fetches[warned]? = some last) (here : fetches[n]? = some fetch) :
    WarnsAt (eventsOf setup fetches fresh) n ↔
      last.reading + setup.throttle ≤ fetch.reading := by
  have failed (m : Nat) (low : first ≤ m) (high : m ≤ n) {fetch : Fetch α}
      (here : fetches[m]? = some fetch) : hasFailed fetch = true := by
    obtain ⟨other, isOther, fails⟩ := row.fails m low high
    exact Option.some.inj (isOther.symm.trans here) ▸ fails
  have fails := failed n row.first_le (Nat.le_refl n) here
  have lastFails := failed warned lastWarning.first_le (Nat.le_of_lt lastWarning.lt) isLast
  have inOrder := reading_le ordered lastWarning.lt isLast here lastFails fails
  obtain ⟨message, isError⟩ := error_of_hasFailed fails
  rw [warnsAt_iff setup here isError]
  rcases (remembers_of_row setup row).lastWarning with ⟨isFirst, -⟩ |
    ⟨other, found, otherWarning, isFound, kept⟩
  · have begun := lastWarning.first_le
    have before := lastWarning.lt
    omega
  · have same : other = warned := by
      rcases Nat.lt_trichotomy other warned with less | same | more
      · exact absurd lastWarning.warns (otherWarning.last warned less lastWarning.lt)
      · exact same
      · exact absurd otherWarning.warns (lastWarning.last other more otherWarning.lt)
    subst same
    cases isFound.symm.trans isLast
    rw [isWarningDue, kept]
    simp only [decide_eq_true_eq]
    omega

/-- Two warnings of a row are never closer than the throttle. -/
theorem apart_of_warnings {first earlier later : Nat} {early late : Fetch α}
    (row : Row fetches first later) (begun : first ≤ earlier) (before : earlier < later)
    (earlyWarns : WarnsAt (eventsOf setup fetches fresh) earlier)
    (lateWarns : WarnsAt (eventsOf setup fetches fresh) later)
    (isEarly : fetches[earlier]? = some early) (isLate : fetches[later]? = some late) :
    early.reading + setup.throttle ≤ late.reading := by
  rcases (remembers_of_row setup row).lastWarning with ⟨isFirst, -⟩ |
    ⟨warned, last, lastWarning, isLast, -⟩
  · omega
  · have throttled :=
      (warnsAt_iff_of_lastWarning ordered row lastWarning isLast isLate).mp lateWarns
    rcases Nat.lt_trichotomy earlier warned with less | rfl | more
    · obtain ⟨other, isOther, fails⟩ := row.fails earlier begun (by omega)
      cases isOther.symm.trans isEarly
      obtain ⟨other, isOther, lastFails⟩ :=
        row.fails warned lastWarning.first_le (Nat.le_of_lt lastWarning.lt)
      cases isOther.symm.trans isLast
      have inOrder := reading_le ordered less isEarly isLast fails lastFails
      omega
    · cases isEarly.symm.trans isLast
      exact throttled
    · exact absurd earlyWarns (lastWarning.last earlier more before)

/-- The events of a poller report what it has fetched. -/
theorem report_eventsOf : Report setup fetches (eventsOf setup fetches fresh) where
  one_each := length_eventsOf setup fetches fresh
  has_row n fails := exists_row fails
  failure first n fetch message row here isError := by
    have remembers := remembers_of_row setup row
    rw [getElem?_eventsOf here, observe_of_error isError, failureEvent]
    rw [remembers.counted]
    split
    · exact ⟨_, _, .inl rfl, rfl⟩
    · exact ⟨_, _, .inr rfl, rfl⟩
  first_warns n row := by
    obtain ⟨fetch, here, failed⟩ := row.fails n (Nat.le_refl n) (Nat.le_refl n)
    obtain ⟨message, isError⟩ := error_of_hasFailed failed
    rw [warnsAt_iff setup here isError]
    rcases (remembers_of_row setup row).lastWarning with ⟨-, isNone⟩ |
      ⟨warned, last, lastWarning, -⟩
    · rw [isWarningDue, isNone]
    · exact absurd (Nat.lt_of_le_of_lt lastWarning.first_le lastWarning.lt) (Nat.lt_irrefl _)
  later_warns_iff first warned n last fetch row lastWarning isLast here :=
    warnsAt_iff_of_lastWarning ordered row lastWarning isLast here
  apart first earlier later early late row begun before earlyWarns lateWarns isEarly isLate :=
    apart_of_warnings ordered row begun before earlyWarns lateWarns isEarly isLate
  recovery first m fetch value row here got := by
    have remembers := (remembers_of_row setup row).succ row.first_le
      (row.fails m row.first_le (Nat.le_refl m))
    have positive : 0 < min (m + 1 - first) failureBound := by
      have := row.first_le
      have bound : 0 < failureBound := by decide
      omega
    have same : m + 1 - first = m - first + 1 := Nat.succ_sub row.first_le
    rw [getElem?_eventsOf here, observe_of_ok got, successEvent, remembers.failures,
      if_pos positive, same]
    rfl
  refreshed n fetch value here got still := by
    have isFresh := comingTo_eq_fresh setup
      (List.getElem?_eq_some_iff.mp here).1 still
    rw [getElem?_eventsOf here, observe_of_ok got, isFresh]
    exact ⟨_, rfl, rfl⟩

end Clock

/-! ## The store of a poller -/

variable {ο γ : Type} [DecidableEq ο] [DecidableEq γ]

/-- A store is at rest: nothing waits and nothing is told. -/
def AtRest (run : Run α ο γ) : Prop :=
  run.store.pending = [] ∧ run.store.dispatching = false

/-- A run has come to another one by pushes of the values that were fetched, each of them
once and in their order. -/
structure Mirrors (fetches : List (Fetch α)) (run after : Run α ο γ) : Prop where
  pushed : History.pushed after.events =
    History.pushed run.events ++ fetches.filterMap fetched?
  current : after.store.current =
    ((fetches.filterMap fetched?).getLast?.map Snapshot.loaded).getD run.store.current
  observers : after.store.observers = run.store.observers
  atRest : AtRest after

theorem callAll_passive (value : α) (run : Run α ο γ) (observers : List ο) :
    Run.callAll Run.passive value run observers =
      ({ run with
          events := (observers.map fun observer => .called observer value).reverse ++ run.events },
        .finished) := by
  induction observers generalizing run with
  | nil => rfl
  | cons observer rest ih =>
      refine (ih (run.record (.called observer value))).trans ?_
      rw [List.map_cons, List.reverse_cons, List.append_assoc]
      rfl

/-- A value that is pushed at rest becomes the snapshot and is told to all. -/
theorem announce_of_atRest {run : Run α ο γ} (atRest : AtRest run) (value : α) :
    run.announce value =
      { run with
        store := ⟨.loaded value, run.store.observers, [], false⟩
        events := .passEnded ::
          ((run.store.observers.map fun observer => .called observer value).reverse ++
            .passStarted value run.store.observers :: .pushed value :: run.events) } := by
  obtain ⟨⟨current, observers, pending, dispatching⟩, scopes, events⟩ := run
  obtain ⟨noneWaits, still⟩ := atRest
  cases noneWaits
  cases still
  have told := callAll_passive value
    (⟨⟨.loaded value, observers, [], true⟩, scopes,
      .passStarted value observers :: .pushed value :: events⟩ : Run α ο γ) observers
  simp only [Run.announce, Run.step, Run.perform, Run.update, Run.record, enqueue, List.nil_append,
    Bool.false_eq_true, if_false, Run.drain, Run.pass, startPass, told, settle]

omit [DecidableEq ο] [DecidableEq γ] in
theorem pushed_map_called (observers : List ο) (value : α) :
    History.pushed
      (observers.map fun observer => (.called observer value : Event α ο γ)) = [] := by
  induction observers with
  | nil => rfl
  | cons observer rest ih => exact ih

theorem pushed_announce {run : Run α ο γ} (atRest : AtRest run) (value : α) :
    History.pushed (run.announce value).events = History.pushed run.events ++ [value] := by
  rw [announce_of_atRest atRest, ← List.map_reverse]
  change History.pushed (_ ++ _) = _
  rw [History.pushed_append, pushed_map_called, List.append_nil]
  rfl

/-- One more fetch is mirrored, be it a success or a failure. -/
theorem Mirrors.concat {fetches : List (Fetch α)} {run after : Run α ο γ}
    (mirrors : Mirrors fetches run after) (fetch : Fetch α) :
    Mirrors (fetches ++ [fetch]) run (deliver fetch after) := by
  cases result : fetch.result with
  | error message =>
      have nothing : fetched? fetch = none := by rw [fetched?, result]
      have same : deliver fetch after = after := by rw [deliver, result]
      rw [same]
      constructor
      · rw [List.filterMap_append, List.filterMap_cons_none nothing, List.filterMap_nil,
          List.append_nil, mirrors.pushed]
      · rw [List.filterMap_append, List.filterMap_cons_none nothing, List.filterMap_nil,
          List.append_nil, mirrors.current]
      · exact mirrors.observers
      · exact mirrors.atRest
  | ok value =>
      have got : fetched? fetch = some value := by rw [fetched?, result]
      have announced : deliver fetch after = after.announce value := by rw [deliver, result]
      rw [announced]
      constructor
      · rw [pushed_announce mirrors.atRest, mirrors.pushed, List.filterMap_append,
          List.filterMap_cons_some got, List.filterMap_nil, List.append_assoc]
      · rw [announce_of_atRest mirrors.atRest, List.filterMap_append,
          List.filterMap_cons_some got, List.filterMap_nil, List.getLast?_concat]
        rfl
      · rw [announce_of_atRest mirrors.atRest, ← mirrors.observers]
      · rw [announce_of_atRest mirrors.atRest]
        exact ⟨rfl, rfl⟩

theorem mirrors_deliverAll {run : Run α ο γ} (atRest : AtRest run) (fetches : List (Fetch α)) :
    Mirrors fetches run (deliverAll fetches run) := by
  induction fetches using List.reverseRecOn with
  | nil => exact ⟨(List.append_nil _).symm, rfl, rfl, atRest⟩
  | append_singleton fetches fetch ih =>
      rw [deliverAll, List.foldl_append]
      exact ih.concat fetch

/-- However successes and failures follow each other, the events of a poller report the
rows of failures and their ends; and after every fetch its store has been pushed the
values fetched so far and nothing else, a failure leaving it as it was. -/
theorem polling_reports_and_mirrors (setup : PollerSetup) {fetches : List (Fetch α)}
    (ordered : (fetches.filter hasFailed).Pairwise fun early late =>
      early.reading ≤ late.reading) {run : Run α ο γ} (atRest : AtRest run) :
    Report setup fetches (eventsOf setup fetches fresh) ∧
      ∀ soFar, soFar <+: fetches →
        Mirrors soFar run (deliverAll soFar run) ∧
          ∀ fetch, hasFailed fetch = true →
            deliverAll (soFar ++ [fetch]) run = deliverAll soFar run := by
  refine ⟨report_eventsOf ordered, fun soFar _ => ⟨mirrors_deliverAll atRest soFar, ?_⟩⟩
  intro fetch failed
  obtain ⟨message, isError⟩ := error_of_hasFailed failed
  rw [deliverAll, List.foldl_append]
  change deliver fetch _ = _
  rw [deliver, isError]
  rfl

/-- A poller that warns once in thirty units of the clock. -/
def patient : PollerSetup :=
  ⟨"servers", "servers", 30⟩

/-- Two rows of failures, the first of them long enough for a second warning. -/
def outages : List (Fetch Nat) :=
  [⟨0, .ok 1⟩, ⟨5, .error "refused"⟩, ⟨20, .error "refused"⟩, ⟨35, .error "timed out"⟩,
    ⟨2, .ok 2⟩, ⟨36, .error "refused"⟩]

/-- A store with one observer. -/
def watched : Run Nat Nat Nat :=
  Run.empty.perform (.subscribe 7)

/-- The second row warns at once, though the throttle has not passed since the last
warning of the first one. -/
theorem polling_reports_outages :
    (outages.filter hasFailed).Pairwise (fun early late => early.reading ≤ late.reading) ∧
      AtRest watched ∧ Report patient outages (eventsOf patient outages fresh) ∧
      Row outages 1 3 ∧ LastWarning (eventsOf patient outages fresh) 1 1 3 ∧
      WarnsAt (eventsOf patient outages fresh) 3 ∧
      (deliverAll outages watched).store.current = .loaded 2 := by
  have ordered : (outages.filter hasFailed).Pairwise
      fun early late => early.reading ≤ late.reading := by decide
  have atRest : AtRest watched := ⟨rfl, rfl⟩
  obtain ⟨report, mirrored⟩ := polling_reports_and_mirrors patient ordered atRest
  have row : Row outages 1 3 := by
    refine ⟨fun m low high => ?_, fun m same => ?_, by decide⟩
    · have among : m = 1 ∨ m = 2 ∨ m = 3 := by omega
      rcases among with rfl | rfl | rfl <;> exact ⟨_, rfl, rfl⟩
    · cases Nat.succ.inj same
      rintro ⟨fetch, here, failed⟩
      cases here
      cases failed
  have lastWarning : LastWarning (eventsOf patient outages fresh) 1 1 3 := by
    refine ⟨by decide, by decide, ⟨_, rfl, rfl⟩, fun m low high => ?_⟩
    have isTwo : m = 2 := by omega
    rw [isTwo]
    rintro ⟨event, here, warns⟩
    cases here
    cases warns
  have warns := (report.later_warns_iff 1 1 3 _ _ row lastWarning rfl rfl).mpr (by decide)
  have current := (mirrored outages (List.prefix_refl _)).1.current
  exact ⟨ordered, atRest, report, row, lastWarning, warns, current⟩

end JobConsole.Poller
