import JobConsole.Batch.Execution
import JobConsole.Proofs.Text.ByteOrder
import Mathlib.Data.List.Dedup

/-!
# Bulk actions from end to end

A bulk action sends one request for every identifier that it is given, in the order of
their bytes.  Its report counts the identifiers by what their requests came to, the
result is the worst of that, and its events are a warning for every identifier that
failed and a last one with the counts.
-/

namespace JobConsole.Batch

open JobConsole.Text

/-! ## Outcomes -/

/-- Whether a settled request is a rejection: a deletion that may not be made. -/
def Rejects (kind : Kind) (settled : Settled) : Prop :=
  kind = .delete ∧ settled = .ok 409

/-- Whether a settled request is a failure: neither a success nor a rejection. -/
def Fails (kind : Kind) (settled : Settled) : Prop :=
  settled ≠ .ok 204 ∧ ¬ Rejects kind settled

/-- What is said of a request that settled as given, if that is a failure. -/
def errorText : Settled → String
  | .ok status => "unexpected status " ++ natText status
  | .error error => error.message

instance (settled : Settled) (status : Nat) : Decidable (settled = .ok status) :=
  match settled with
  | .ok other => decidable_of_iff (other = status) ⟨congrArg _, Except.ok.inj⟩
  | .error _ => isFalse nofun

instance (kind : Kind) (settled : Settled) : Decidable (Rejects kind settled) :=
  inferInstanceAs (Decidable (_ ∧ _))

instance (kind : Kind) (settled : Settled) : Decidable (Fails kind settled) :=
  inferInstanceAs (Decidable (_ ∧ _))

theorem outcomeOf_eq_succeeded_iff {kind : Kind} {settled : Settled} :
    outcomeOf kind settled = .succeeded ↔ settled = .ok 204 := by
  cases settled with
  | ok status => rw [outcomeOf, Kind.classify_eq_succeeded_iff, Except.ok.injEq]
  | error error => simp [outcomeOf]

theorem outcomeOf_eq_rejected_iff {kind : Kind} {settled : Settled} :
    outcomeOf kind settled = .rejected ↔ Rejects kind settled := by
  cases settled with
  | ok status => rw [outcomeOf, Kind.classify_eq_rejected_iff, Rejects, Except.ok.injEq]
  | error error => simp [outcomeOf, Rejects]

theorem outcomeOf_eq_failed_iff {kind : Kind} {settled : Settled} :
    outcomeOf kind settled = .failed ↔ Fails kind settled := by
  rw [Fails, ne_eq, ← outcomeOf_eq_succeeded_iff, ← outcomeOf_eq_rejected_iff]
  cases outcomeOf kind settled <;> simp

theorem Rejects.not_succeeded {kind : Kind} {settled : Settled} (rejects : Rejects kind settled) :
    settled ≠ .ok 204 := by
  rintro rfl
  exact absurd (Except.ok.inj rejects.2) (by decide)

theorem Fails.not_succeeded {kind : Kind} {settled : Settled} (fails : Fails kind settled) :
    settled ≠ .ok 204 :=
  fails.1

theorem Fails.not_rejects {kind : Kind} {settled : Settled} (fails : Fails kind settled) :
    ¬ Rejects kind settled :=
  fails.2

theorem errorOf_eq (kind : Kind) (settled : Settled) :
    errorOf kind settled = if Fails kind settled then some (errorText settled) else none := by
  have failed : outcomeOf kind settled = .failed ↔ Fails kind settled := outcomeOf_eq_failed_iff
  split
  next fails =>
    cases settled with
    | ok status => exact if_pos (failed.mpr fails)
    | error error => rfl
  next holds =>
    cases settled with
    | ok status => exact if_neg fun fails => holds (failed.mp fails)
    | error error => exact absurd (failed.mp rfl) holds

theorem eventOf_eq_none_iff {kind : Kind} {id : String} {settled : Settled} :
    eventOf kind id settled = none ↔ ¬ Fails kind settled := by
  cases settled with
  | ok status => simp [eventOf, ← outcomeOf_eq_failed_iff, outcomeOf]
  | error error => simp [eventOf, ← outcomeOf_eq_failed_iff, outcomeOf]

/-- The event of a failure is a warning that names the identifier. -/
theorem warns_of_eventOf {kind : Kind} {id : String} {settled : Settled} {event : LogEvent}
    (reported : eventOf kind id settled = some event) :
    event.level = .warn ∧ event.fields.lookup "resource_id" = some (.text id) := by
  cases settled with
  | ok status =>
      simp only [eventOf] at reported
      split at reported
      · cases reported
        exact ⟨rfl, rfl⟩
      · contradiction
  | error error =>
      cases reported
      exact ⟨rfl, rfl⟩

/-! ## Counts and results -/

/-- The number of actions with an outcome. -/
def Counts.number (counts : Counts) : Outcome → Nat
  | .succeeded => counts.succeeded
  | .rejected => counts.rejected
  | .failed => counts.failed

theorem Counts.number_foldl_record (counts : Counts) (outcomes : List Outcome)
    (outcome : Outcome) :
    (outcomes.foldl record counts).number outcome =
      counts.number outcome + outcomes.count outcome := by
  induction outcomes generalizing counts with
  | nil => rfl
  | cons first rest ih =>
      rw [List.foldl_cons, ih, List.count_cons]
      cases first <;> cases outcome <;> simp [record, number] <;> omega

/-- Outcomes are counted by what they are. -/
theorem Counts.number_ofOutcomes (outcomes : List Outcome) (outcome : Outcome) :
    (ofOutcomes outcomes).number outcome = outcomes.count outcome := by
  rw [ofOutcomes, number_foldl_record]
  cases outcome <;> exact Nat.zero_add _

section Aggregate

variable {counts : Counts} {firstError : Option String}

theorem Result.aggregate_eq_someFailed_iff {failed total : Nat} {error : String} :
    aggregate counts firstError = .someFailed failed total error ↔
      0 < counts.failed ∧ failed = counts.failed ∧ total = counts.total ∧
        error = firstError.getD "unknown error" := by
  unfold aggregate
  grind

theorem Result.aggregate_eq_allSucceeded_iff :
    aggregate counts firstError = .allSucceeded ↔
      ¬ 0 < counts.failed ∧ ¬ 0 < counts.rejected := by
  unfold aggregate
  grind

theorem Result.aggregate_eq_allRejected_iff :
    aggregate counts firstError = .allRejected ↔
      ¬ 0 < counts.failed ∧ 0 < counts.rejected ∧ ¬ 0 < counts.succeeded := by
  unfold aggregate
  grind

theorem Result.aggregate_eq_someSucceededSomeRejected_iff :
    aggregate counts firstError = .someSucceededSomeRejected ↔
      ¬ 0 < counts.failed ∧ 0 < counts.succeeded ∧ 0 < counts.rejected := by
  unfold aggregate
  grind

end Aggregate

theorem Result.severity_eq_error_iff {result : Result} :
    result.severity = .error ↔ ∃ failed total error, result = .someFailed failed total error := by
  cases result <;> simp [severity]

/-! ## Reports -/

section Selected

variable {kind : Kind} {answer : String → Settled} {ids : List String}

/-- A report counts the requests by what they came to. -/
theorem number_counts_reportOf {outcome : Outcome} {p : Settled → Prop} [DecidablePred p]
    (meaning : ∀ settled, outcomeOf kind settled = outcome ↔ p settled) (settled : List Settled) :
    (reportOf kind settled).counts.number outcome = settled.countP fun settled => p settled := by
  rw [reportOf, Counts.number_ofOutcomes, List.count, List.countP_map]
  exact List.countP_congr fun settled _ => by simp [meaning]

theorem refresh_reportOf_iff {settled : List Settled} :
    (reportOf kind settled).refresh = true ↔ .ok 204 ∈ settled := by
  have succeeded : (reportOf kind settled).counts.succeeded =
      settled.countP fun settled => settled = .ok 204 :=
    number_counts_reportOf (fun _ => outcomeOf_eq_succeeded_iff) settled
  calc (reportOf kind settled).refresh = true
    _ ↔ 0 < (reportOf kind settled).counts.succeeded := decide_eq_true_iff
    _ ↔ .ok 204 ∈ settled := by simp [succeeded, List.countP_pos_iff]

/-- A report with a failure has a result with its numbers. -/
theorem result_reportOf_eq_someFailed_iff {settled : List Settled} {failed total : Nat}
    {error : String} :
    (reportOf kind settled).result = .someFailed failed total error ↔
      0 < (reportOf kind settled).counts.failed ∧
        failed = (reportOf kind settled).counts.failed ∧
        total = (reportOf kind settled).counts.total ∧
        error = (settled.findSome? (errorOf kind)).getD "unknown error" :=
  Result.aggregate_eq_someFailed_iff

theorem isError_reportOf_iff {settled : List Settled} :
    (reportOf kind settled).notification.isError = true ↔
      0 < (reportOf kind settled).counts.failed := by
  calc (reportOf kind settled).notification.isError = true
    _ ↔ (reportOf kind settled).result.severity = .error := decide_eq_true_iff
    _ ↔ 0 < (reportOf kind settled).counts.failed := by
      simp [Result.severity_eq_error_iff, result_reportOf_eq_someFailed_iff]

/-- A selection is the different identifiers of a list in another order. -/
theorem perm_distinctIds (ids : List String) : (distinctIds ids).Perm ids.dedup :=
  (List.perm_ext_iff_of_nodup
    ((pairwise_distinctIds ids).imp Std.ne_of_lt) ids.nodup_dedup).mpr fun id => by simp

/-- Counting a selection counts the different identifiers of a list. -/
theorem number_counts_selected {outcome : Outcome} {p : Settled → Prop} [DecidablePred p]
    (meaning : ∀ settled, outcomeOf kind settled = outcome ↔ p settled) :
    (reportOf kind ((distinctIds ids).map answer)).counts.number outcome =
      ids.dedup.countP fun id => p (answer id) := by
  rw [number_counts_reportOf meaning, List.countP_map, (perm_distinctIds ids).countP_eq]
  rfl

theorem number_counts_selected_pos_iff {outcome : Outcome} {p : Settled → Prop}
    [DecidablePred p] (meaning : ∀ settled, outcomeOf kind settled = outcome ↔ p settled) :
    0 < (reportOf kind ((distinctIds ids).map answer)).counts.number outcome ↔
      ∃ id ∈ ids, p (answer id) := by
  rw [number_counts_selected meaning, List.countP_pos_iff]
  simp

/-- In an ascending list the first error is that of the least identifier that failed. -/
theorem exists_least_error (kind : Kind) (answer : String → Settled)
    (ascending : ids.Pairwise (· < ·))
    (failed : ∃ id ∈ ids, Fails kind (answer id)) :
    ∃ id ∈ ids, Fails kind (answer id) ∧
      (∀ other ∈ ids, Fails kind (answer other) → other ≠ id → id < other) ∧
      (ids.map answer).findSome? (errorOf kind) = some (errorText (answer id)) := by
  induction ids with
  | nil => simp at failed
  | cons id rest ih =>
      obtain ⟨least, ascendingRest⟩ := List.pairwise_cons.mp ascending
      rw [List.map_cons, List.findSome?_cons, errorOf_eq]
      by_cases fails : Fails kind (answer id)
      · refine ⟨id, List.mem_cons_self, fails, ?_, by rw [if_pos fails]⟩
        intro other listed _ different
        exact least other ((List.mem_cons.mp listed).resolve_left different)
      · have later : ∃ id ∈ rest, Fails kind (answer id) := by
          simpa [fails] using failed
        obtain ⟨first, listed, firstFails, before, found⟩ := ih ascendingRest later
        refine ⟨first, List.mem_cons_of_mem _ listed, firstFails, ?_, by rw [if_neg fails, found]⟩
        intro other otherListed otherFails different
        rcases List.mem_cons.mp otherListed with rfl | otherListed
        · exact absurd otherFails fails
        · exact before other otherListed otherFails different

/-- All succeed exactly when none fails and none is rejected. -/
theorem forall_succeeded_iff :
    (∀ id ∈ ids, answer id = .ok 204) ↔
      (¬ ∃ id ∈ ids, Fails kind (answer id)) ∧ ¬ ∃ id ∈ ids, Rejects kind (answer id) := by
  constructor
  · intro all
    refine ⟨?_, ?_⟩
    · rintro ⟨id, listed, fails⟩
      exact fails.not_succeeded (all id listed)
    · rintro ⟨id, listed, rejects⟩
      exact rejects.not_succeeded (all id listed)
  · rintro ⟨noneFailed, noneRejected⟩ id listed
    by_contra different
    exact noneFailed ⟨id, listed, different, fun rejects => noneRejected ⟨id, listed, rejects⟩⟩

/-- All of some identifiers are rejected exactly when one is, and the others are no better
and no worse. -/
theorem forall_rejects_iff (filled : ids ≠ []) :
    (∀ id ∈ ids, Rejects kind (answer id)) ↔
      (¬ ∃ id ∈ ids, Fails kind (answer id)) ∧ (∃ id ∈ ids, Rejects kind (answer id)) ∧
        ¬ ∃ id ∈ ids, answer id = .ok 204 := by
  constructor
  · intro all
    obtain ⟨first, firstListed⟩ := List.exists_mem_of_ne_nil ids filled
    refine ⟨?_, ⟨first, firstListed, all first firstListed⟩, ?_⟩
    · rintro ⟨id, listed, fails⟩
      exact fails.not_rejects (all id listed)
    · rintro ⟨id, listed, success⟩
      exact (all id listed).not_succeeded success
  · rintro ⟨noneFailed, -, noneSucceeded⟩ id listed
    by_contra different
    exact noneFailed ⟨id, listed, fun success => noneSucceeded ⟨id, listed, success⟩, different⟩

/-- The warnings of a list name the identifiers that failed, one after the other. -/
theorem lookup_filterMap_eventOf (kind : Kind) (answer : String → Settled) (ids : List String) :
    (ids.filterMap fun id => eventOf kind id (answer id)).map
        (fun event => event.fields.lookup "resource_id") =
      (ids.filter fun id => Fails kind (answer id)).map fun id => some (.text id) := by
  induction ids with
  | nil => rfl
  | cons id rest ih =>
      cases reported : eventOf kind id (answer id) with
      | none =>
          have holds := eventOf_eq_none_iff.mp reported
          rw [List.filter_cons_of_neg (by simpa using holds), ← ih]
          simp only [List.filterMap_cons, reported]
      | some event =>
          have fails : Fails kind (answer id) := by
            by_contra holds
            rw [eventOf_eq_none_iff.mpr holds] at reported
            contradiction
          rw [List.filter_cons_of_pos (by simpa using fails), List.map_cons, ← ih]
          simp only [List.filterMap_cons, reported, List.map_cons, (warns_of_eventOf reported).2]

end Selected

/-! ## Whole actions -/

/-- One text comes before another in the order of their bytes. -/
def BytesBefore (text other : String) : Prop :=
  encodeUtf8 text.toList < encodeUtf8 other.toList

theorem bytesBefore_of_lt {text other : String} (before : text < other) :
    BytesBefore text other :=
  encodeUtf8_lt (String.lt_iff.mp before)

/-- Requests are one for each identifier of a list, in the order of their bytes. -/
structure OnePerId (kind : Kind) (ids : List String) (sent : List ActionRequest) : Prop where
  ascending : sent.Pairwise fun first second => BytesBefore first.id second.id
  mem_iff : ∀ request, request ∈ sent ↔ request.kind = kind ∧ request.id ∈ ids

/-- Counts are the numbers of different identifiers by what their requests came to. -/
structure Counted (kind : Kind) (answer : String → Settled) (ids : List String)
    (counts : Counts) : Prop where
  succeeded : counts.succeeded = ids.dedup.countP fun id => answer id = .ok 204
  rejected : counts.rejected = ids.dedup.countP fun id => Rejects kind (answer id)
  failed : counts.failed = ids.dedup.countP fun id => Fails kind (answer id)
  total : counts.succeeded + counts.rejected + counts.failed = ids.dedup.length
  total_pos : 1 ≤ ids.dedup.length

/-- A report concludes from what the requests came to: the worst of it is the result, and
the first error is that of the least identifier that failed. -/
structure Concluded (kind : Kind) (answer : String → Settled) (ids : List String)
    (report : Report) : Prop where
  kind_eq : report.kind = kind
  someFailed_iff : (∃ failed total error, report.result = .someFailed failed total error) ↔
    ∃ id ∈ ids, Fails kind (answer id)
  someFailed : ∀ failed total error, report.result = .someFailed failed total error →
    failed = report.counts.failed ∧ total = ids.dedup.length ∧
      ∃ id ∈ ids, Fails kind (answer id) ∧ error = errorText (answer id) ∧
        ∀ other ∈ ids, Fails kind (answer other) → other ≠ id → BytesBefore id other
  allSucceeded_iff : report.result = .allSucceeded ↔ ∀ id ∈ ids, answer id = .ok 204
  allRejected_iff : report.result = .allRejected ↔ ∀ id ∈ ids, Rejects kind (answer id)
  mixed_iff : report.result = .someSucceededSomeRejected ↔
    (∀ id ∈ ids, ¬ Fails kind (answer id)) ∧ (∃ id ∈ ids, answer id = .ok 204) ∧
      ∃ id ∈ ids, Rejects kind (answer id)
  severity_iff : report.result.severity = .error ↔
    ∃ failed total error, report.result = .someFailed failed total error
  notification_eq : report.notification = kind.summary report.result
  refresh_iff : report.refresh = true ↔ ∃ id ∈ ids, answer id = .ok 204

/-- Events are a warning for each request that failed, in the order of the requests, and a
last one with the numbers of a report. -/
structure Logged (kind : Kind) (answer : String → Settled) (sent : List ActionRequest)
    (report : Report) (events : List LogEvent) : Prop where
  split : ∃ warnings last, events = warnings ++ [last] ∧
    (∀ event ∈ warnings, event.level = .warn) ∧
    warnings.map (fun event => event.fields.lookup "resource_id") =
      (sent.filter fun request => Fails kind (answer request.id)).map
        (fun request => some (.text request.id)) ∧
    last.level = .info ∧
    last.fields = [
      ("action", .text kind.name),
      ("result", .text report.result.name),
      ("succeeded", .number report.counts.succeeded),
      ("rejected", .number report.counts.rejected),
      ("failed", .number report.counts.failed),
      ("refresh", .flag report.refresh)]

/-- With a script an action sends the requests of the selection and reports the answers of
the script to them. -/
theorem run_execute_scripted (answer : String → Settled) (kind : Kind) (selection : Selection) :
    (execute (scripted answer) kind selection).run [] =
      ((reportOf kind (selection.ids.map answer),
        eventsOf kind (selection.ids.zip (selection.ids.map answer))),
        selection.requests kind) := by
  have settled := run_scripted answer (selection.requests kind) []
  rw [Selection.requests, List.map_map] at settled
  rw [execute, StateT.run_bind, Selection.requests, settled]
  rfl

theorem onePerId_requests (kind : Kind) (ids : List String) :
    OnePerId kind ids ((distinctIds ids).map fun id => ⟨kind, id⟩) where
  ascending := List.pairwise_map.mpr ((pairwise_distinctIds ids).imp bytesBefore_of_lt)
  mem_iff := by
    rintro ⟨requested, id⟩
    simp [eq_comm, and_comm]

/-- The report of a selection counts the list that the selection was made of. -/
theorem counted_reportOf (kind : Kind) (answer : String → Settled) {ids : List String}
    (filled : ids ≠ []) :
    Counted kind answer ids (reportOf kind ((distinctIds ids).map answer)).counts where
  succeeded := number_counts_selected fun _ => outcomeOf_eq_succeeded_iff
  rejected := number_counts_selected fun _ => outcomeOf_eq_rejected_iff
  failed := number_counts_selected fun _ => outcomeOf_eq_failed_iff
  total := by
    have counted := total_counts_reportOf kind ((distinctIds ids).map answer)
    rw [List.length_map, (perm_distinctIds ids).length_eq] at counted
    exact counted
  total_pos := by
    rcases List.exists_mem_of_ne_nil ids filled with ⟨id, member⟩
    exact List.length_pos_of_mem (List.mem_dedup.mpr member)

/-- The report of a selection concludes from the list that the selection was made of. -/
theorem concluded_reportOf (kind : Kind) (answer : String → Settled) {ids : List String}
    (filled : ids ≠ []) :
    Concluded kind answer ids (reportOf kind ((distinctIds ids).map answer)) := by
  have total := (counted_reportOf kind answer filled).total
  have least := exists_least_error kind answer (pairwise_distinctIds ids)
  generalize made : reportOf kind ((distinctIds ids).map answer) = report at total
  have succeeded : 0 < report.counts.succeeded ↔ ∃ id ∈ ids, answer id = .ok 204 :=
    made ▸ number_counts_selected_pos_iff fun _ => outcomeOf_eq_succeeded_iff
  have rejected : 0 < report.counts.rejected ↔ ∃ id ∈ ids, Rejects kind (answer id) :=
    made ▸ number_counts_selected_pos_iff fun _ => outcomeOf_eq_rejected_iff
  have failed : 0 < report.counts.failed ↔ ∃ id ∈ ids, Fails kind (answer id) :=
    made ▸ number_counts_selected_pos_iff fun _ => outcomeOf_eq_failed_iff
  have result : report.result = Result.aggregate report.counts
      (((distinctIds ids).map answer).findSome? (errorOf kind)) := by
    rw [← made, reportOf]
  constructor
  case kind_eq => rw [← made, reportOf]
  case severity_iff => exact Result.severity_eq_error_iff
  case notification_eq => rw [← made, reportOf]
  case refresh_iff =>
    rw [← made, refresh_reportOf_iff]
    simp
  case someFailed_iff =>
    rw [result, ← failed]
    simp [Result.aggregate_eq_someFailed_iff]
  case someFailed =>
    intro number all error concluded
    rw [result, Result.aggregate_eq_someFailed_iff] at concluded
    obtain ⟨counted, rfl, rfl, rfl⟩ := concluded
    simp only [mem_distinctIds] at least
    obtain ⟨id, listed, fails, before, found⟩ := least (failed.mp counted)
    refine ⟨rfl, total, id, listed, fails, by rw [found, Option.getD_some], ?_⟩
    exact fun other listed fails different =>
      bytesBefore_of_lt (before other listed fails different)
  case allSucceeded_iff =>
    rw [result, Result.aggregate_eq_allSucceeded_iff, failed, rejected, ← forall_succeeded_iff]
  case allRejected_iff =>
    rw [result, Result.aggregate_eq_allRejected_iff, failed, rejected, succeeded,
      ← forall_rejects_iff filled]
  case mixed_iff =>
    rw [result, Result.aggregate_eq_someSucceededSomeRejected_iff, failed, rejected, succeeded]
    simp

/-- The events of a selection are those of its requests and its report. -/
theorem logged_eventsOf (kind : Kind) (answer : String → Settled) (ids : List String) :
    Logged kind answer (ids.map fun id => ⟨kind, id⟩) (reportOf kind (ids.map answer))
      (eventsOf kind (ids.zip (ids.map answer))) where
  split := by
    rw [eventsOf, ← List.map_prod_left_eq_zip, List.filterMap_map, List.map_map]
    refine ⟨_, _, rfl, ?_, ?_, rfl, rfl⟩
    · intro event member
      obtain ⟨id, -, reported⟩ := List.mem_filterMap.mp member
      exact (warns_of_eventOf reported).1
    · rw [List.filter_map, List.map_map]
      exact lookup_filterMap_eventOf kind answer ids

/-- A list of identifiers has no selection exactly when it is empty.  Otherwise an action on
its selection sends one request for every identifier of the list, in the order of their
bytes and whatever the answers are; the report counts the different identifiers and
concludes from them, and the events tell of every failure. -/
theorem execute_of_ids (ids : List String) (kind : Kind) (answer : String → Settled) :
    (Selection.of? ids = none ↔ ids = []) ∧
      (ids = [] ∨ ∃ selection report events sent,
        Selection.of? ids = some selection ∧
        (execute (scripted answer) kind selection).run [] = ((report, events), sent) ∧
        OnePerId kind ids sent ∧ Counted kind answer ids report.counts ∧
        Concluded kind answer ids report ∧ Logged kind answer sent report events) := by
  refine ⟨Selection.of?_eq_none_iff, ?_⟩
  by_cases filled : ids = []
  · exact .inl filled
  have kept : distinctIds ids ≠ [] := fun none => filled (distinctIds_eq_nil_iff.mp none)
  have executed := run_execute_scripted answer kind ⟨distinctIds ids, kept⟩
  exact .inr ⟨_, _, _, _, dif_pos kept, executed, onePerId_requests kind ids,
    counted_reportOf kind answer filled, concluded_reportOf kind answer filled,
    logged_eventsOf kind answer (distinctIds ids)⟩

end JobConsole.Batch
