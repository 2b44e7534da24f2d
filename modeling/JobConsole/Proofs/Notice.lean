import JobConsole.Notice.Basic

/-!
# What a notice depends on

The notice of a job follows from its last change of state, from one setting of the
first server and from the present.  The setting decides whether there is an instant of
an automatic change of state: it must be there, be readable and active, and lead to an
instant within the calendar.  Only a setting that cannot be read gives a warning.

Which setting counts, and what a notice says first, is written out for each of the three
states after which jobs are cleaned up, in `Server.Keeps` and `Headlined`.
`notice_of_last_transition` puts this together for every job and every state of the
servers.
-/

namespace JobConsole

open JobConsole.Retention
open JobConsole.Time

/-- A server keeps jobs in a state for as long as a setting says.  Each of the three states
has a setting of its own, and the one for jobs that have failed may be missing. -/
inductive Server.Keeps (server : Server) : JobState → Setting → Prop where
  | succeeded : server.Keeps .succeeded server.deleteSucceededJobsAfter
  | failed {setting : Setting} (given : server.deleteFailedJobsAfter = some setting) :
      server.Keeps .failed setting
  | deleted : server.Keeps .deleted server.permanentlyDeleteDeletedJobsAfter

/-- A setting applies to jobs in a state: it is the one by which the first server keeps
them. -/
def Retention.Setting.Applies (setting : Setting) (state : JobState)
    (servers : Snapshot (List Server)) : Prop :=
  ∃ server others, servers = .loaded (server :: others) ∧ server.Keeps state setting

/-- A change of state is the last one of a job, and it led to a terminal state. -/
def Job.EndedBy (job : Job) (last : Transition) (terminal : TerminalState) : Prop :=
  job.jobHistory.getLast? = some last ∧ last.state = terminal.state

/-- The setting that is looked up for a terminal state is the one by which jobs are kept in
it. -/
theorem TerminalState.setting?_eq_some_iff {terminal : TerminalState} {server : Server}
    {setting : Setting} :
    terminal.setting? server = some setting ↔ server.Keeps terminal.state setting := by
  constructor
  · intro found
    cases terminal with
    | succeeded =>
        cases found
        exact .succeeded
    | failed => exact .failed found
    | deleted =>
        cases found
        exact .deleted
  · intro keeps
    cases terminal with
    | succeeded =>
        cases keeps
        rfl
    | failed =>
        cases keeps with
        | failed given => exact given
    | deleted =>
        cases keeps
        rfl

theorem Server.Keeps.exists_terminal {server : Server} {state : JobState} {setting : Setting}
    (keeps : server.Keeps state setting) : ∃ terminal : TerminalState, state = terminal.state := by
  cases keeps with
  | succeeded => exact ⟨.succeeded, rfl⟩
  | failed given => exact ⟨.failed, rfl⟩
  | deleted => exact ⟨.deleted, rfl⟩

theorem Server.Keeps.unique {server : Server} {state : JobState} {setting other : Setting}
    (keeps : server.Keeps state setting) (also : server.Keeps state other) : setting = other := by
  obtain ⟨terminal, rfl⟩ := keeps.exists_terminal
  have found := TerminalState.setting?_eq_some_iff.mpr keeps
  have alsoFound := TerminalState.setting?_eq_some_iff.mpr also
  exact Option.some.inj (found.symm.trans alsoFound)

theorem Retention.Setting.Applies.exists_terminal {state : JobState}
    {servers : Snapshot (List Server)} {setting : Setting} (applies : setting.Applies state servers) :
    ∃ terminal : TerminalState, state = terminal.state := by
  obtain ⟨server, others, -, keeps⟩ := applies
  exact keeps.exists_terminal

theorem Retention.Setting.Applies.unique {state : JobState} {servers : Snapshot (List Server)}
    {setting other : Setting} (applies : setting.Applies state servers)
    (also : other.Applies state servers) : setting = other := by
  obtain ⟨server, others, rfl, keeps⟩ := applies
  obtain ⟨server, others, same, alsoKeeps⟩ := also
  cases same
  exact keeps.unique alsoKeeps

theorem TerminalState.exists_eq_state_iff {state : JobState} :
    (∃ terminal : TerminalState, state = terminal.state) ↔
      state = .succeeded ∨ state = .failed ∨ state = .deleted := by
  constructor
  · rintro ⟨terminal, rfl⟩
    cases terminal with
    | succeeded => exact .inl rfl
    | failed => exact .inr (.inl rfl)
    | deleted => exact .inr (.inr rfl)
  · rintro (rfl | rfl | rfl)
    · exact ⟨.succeeded, rfl⟩
    · exact ⟨.failed, rfl⟩
    · exact ⟨.deleted, rfl⟩

namespace AutoTransition

/-! ## What a setting leads to -/

theorem target_ofSetting_eq_some_iff {terminal : TerminalState} {server : Server}
    {setting : Setting} {last now instant : Instant} :
    (ofSetting terminal server setting last now).1.map target = some instant ↔
      ∃ span, Policy.parse setting = .ok (.activeFor span) ∧ last.add? span = some instant := by
  unfold ofSetting
  cases Policy.parse setting with
  | error error => simp
  | ok policy =>
      cases policy with
      | disabled => simp [Policy.isDisabled]
      | activeFor span =>
          simp only [Policy.isDisabled, Bool.false_eq_true, if_false, Policy.transitionInstant?,
            Option.map_map, Except.ok.injEq, Policy.activeFor.injEq]
          constructor
          · intro leads
            obtain ⟨found, isFound, rfl⟩ := Option.map_eq_some_iff.mp leads
            exact ⟨span, rfl, isFound⟩
          · rintro ⟨_, rfl, isFound⟩
            rw [isFound]
            rfl

theorem countP_ofSetting_of_ok {setting : Setting} {policy : Policy}
    (readable : Policy.parse setting = .ok policy) (terminal : TerminalState) (server : Server)
    (last now : Instant) :
    (ofSetting terminal server setting last now).2.countP LogEvent.isWarning = 0 := by
  unfold ofSetting
  rw [readable]
  cases policy with
  | disabled => rfl
  | activeFor span => rfl

/-- The change of state does not depend on whose setting it is. -/
theorem fst_ofSetting (terminal : TerminalState) (server other : Server) (setting : Setting)
    (last now : Instant) :
    (ofSetting terminal server setting last now).1 =
      (ofSetting terminal other setting last now).1 := by
  unfold ofSetting
  cases Policy.parse setting with
  | error error => rfl
  | ok policy =>
      cases policy with
      | disabled => simp only [Policy.isDisabled, if_true]
      | activeFor span => simp only [Policy.isDisabled, Bool.false_eq_true, if_false]

theorem derive_of_setting {terminal : TerminalState} {server : Server} {setting : Setting}
    (found : terminal.setting? server = some setting) (others : List Server)
    (last now : Instant) :
    derive terminal.state last (.loaded (server :: others)) now =
      ofSetting terminal server setting last now := by
  have isTerminal : TerminalState.ofState? terminal.state = some terminal :=
    TerminalState.ofState?_eq_some_iff.mpr rfl
  simp only [derive, isTerminal, Snapshot.value?, Option.bind_some, List.head?_cons, found]

/-- Without a setting that applies there is nothing to come and nothing to report. -/
theorem derive_of_no_setting {state : JobState} {servers : Snapshot (List Server)}
    (none : ∀ setting : Setting, ¬ setting.Applies state servers) (last now : Instant) :
    derive state last servers now = (.none, []) := by
  cases isTerminal : TerminalState.ofState? state with
  | none => simp only [derive, isTerminal]
  | some terminal =>
      obtain rfl := TerminalState.ofState?_eq_some_iff.mp isTerminal
      rcases servers with _ | (_ | ⟨server, others⟩)
      · simp only [derive, isTerminal, Snapshot.value?, Option.bind_none]
      · simp only [derive, isTerminal, Snapshot.value?, Option.bind_some, List.head?_nil]
      · cases found : terminal.setting? server with
        | none => simp only [derive, isTerminal, Snapshot.value?, Option.bind_some,
            List.head?_cons, found]
        | some setting =>
            have keeps := TerminalState.setting?_eq_some_iff.mp found
            exact absurd ⟨server, others, rfl, keeps⟩ (none setting)

/-- Either the setting of a first server decides, or none applies. -/
theorem setting_or_none (state : JobState) (servers : Snapshot (List Server)) :
    (∃ (terminal : TerminalState) (server : Server) (others : List Server) (setting : Setting),
        state = terminal.state ∧ servers = .loaded (server :: others) ∧
          terminal.setting? server = some setting) ∨
      ∀ setting : Setting, ¬ setting.Applies state servers := by
  by_cases applied : ∃ setting : Setting, setting.Applies state servers
  · obtain ⟨setting, server, others, isLoaded, keeps⟩ := applied
    obtain ⟨terminal, rfl⟩ := keeps.exists_terminal
    exact .inl ⟨terminal, server, others, setting, rfl, isLoaded,
      TerminalState.setting?_eq_some_iff.mpr keeps⟩
  · exact .inr (not_exists.mp applied)

/-- The change of state has an instant exactly when an active setting applies and leads
to one. -/
theorem target_derive_eq_some_iff {state : JobState} {servers : Snapshot (List Server)}
    {last now instant : Instant} :
    (derive state last servers now).1.map target = some instant ↔
      ∃ (setting : Setting) (span : Span), setting.Applies state servers ∧
        Policy.parse setting = .ok (.activeFor span) ∧ last.add? span = some instant := by
  rcases setting_or_none state servers with
    ⟨terminal, server, others, setting, rfl, rfl, found⟩ | none
  · have applies : setting.Applies terminal.state (.loaded (server :: others)) :=
      ⟨server, others, rfl, TerminalState.setting?_eq_some_iff.mp found⟩
    rw [derive_of_setting found, target_ofSetting_eq_some_iff]
    constructor
    · rintro ⟨span, active, leads⟩
      exact ⟨setting, span, applies, active, leads⟩
    · rintro ⟨other, span, also, active, leads⟩
      exact ⟨span, applies.unique also ▸ active, leads⟩
  · rw [derive_of_no_setting none]
    constructor
    · intro impossible
      cases impossible
    · rintro ⟨setting, -, applies, -⟩
      exact absurd applies (none setting)

/-- A setting that cannot be read leads to nothing and gives one warning. -/
theorem derive_of_unreadable {state : JobState} {servers : Snapshot (List Server)}
    {setting : Setting} (applies : setting.Applies state servers) {error : ParseError}
    (unreadable : Policy.parse setting = .error error) (last now : Instant) :
    (derive state last servers now).1 = none ∧
      (derive state last servers now).2.countP LogEvent.isWarning = 1 := by
  obtain ⟨server, others, rfl, keeps⟩ := applies
  obtain ⟨terminal, rfl⟩ := keeps.exists_terminal
  rw [derive_of_setting (TerminalState.setting?_eq_some_iff.mpr keeps), ofSetting, unreadable]
  exact ⟨rfl, rfl⟩

theorem countP_derive_of_readable {state : JobState} {servers : Snapshot (List Server)}
    (readable : ∀ (setting : Setting) (error : ParseError), setting.Applies state servers →
      Policy.parse setting ≠ .error error) (last now : Instant) :
    (derive state last servers now).2.countP LogEvent.isWarning = 0 := by
  rcases setting_or_none state servers with
    ⟨terminal, server, others, setting, rfl, rfl, found⟩ | none
  · rw [derive_of_setting found]
    cases parsed : Policy.parse setting with
    | error error =>
        have keeps := TerminalState.setting?_eq_some_iff.mp found
        exact absurd parsed (readable setting error ⟨server, others, rfl, keeps⟩)
    | ok policy => exact countP_ofSetting_of_ok parsed terminal server last now
  · rw [derive_of_no_setting none]
    rfl

/-- The change of state is the same wherever the same setting applies. -/
theorem fst_derive_congr {state : JobState} {left right : Snapshot (List Server)}
    (same : ∀ setting : Setting, setting.Applies state left ↔ setting.Applies state right)
    (last now : Instant) :
    (derive state last left now).1 = (derive state last right now).1 := by
  rcases setting_or_none state left with
    ⟨terminal, server, others, setting, rfl, rfl, found⟩ | none
  · have keeps := TerminalState.setting?_eq_some_iff.mp found
    obtain ⟨other, rest, rfl, alsoKeeps⟩ := (same setting).mp ⟨server, others, rfl, keeps⟩
    have alsoFound := TerminalState.setting?_eq_some_iff.mpr alsoKeeps
    rw [derive_of_setting found, derive_of_setting alsoFound]
    exact fst_ofSetting terminal server other setting last now
  · rw [derive_of_no_setting none, derive_of_no_setting fun setting applies =>
      none setting ((same setting).mpr applies)]

end AutoTransition

namespace JobNotice

/-- What a notice says first of a job in a state. -/
inductive Headlined : JobState → String → Prop where
  | succeeded : Headlined .succeeded "This job has succeeded."
  | failed : Headlined .failed "This job has failed."
  | deleted : Headlined .deleted "This job is deleted."

/-- What a notice says about a job with the given last change of state. -/
structure Tells (servers : Snapshot (List Server)) (last : Transition) (notice : JobNotice) :
    Prop where
  headline : Headlined last.state notice.headline
  transitionAt_iff : ∀ instant, notice.transitionAt = some instant ↔
    ∃ (setting : Setting) (span : Span), setting.Applies last.state servers ∧
      Policy.parse setting = .ok (.activeFor span) ∧ last.createdAt.add? span = some instant
  autoTransition_iff : notice.autoTransition.isSome ↔ notice.transitionAt.isSome
  unreadable : ∀ (setting : Setting) (error : ParseError), setting.Applies last.state servers →
    Policy.parse setting = .error error →
      notice.transitionAt = none ∧ notice.autoTransition = none

/-- The setting that applies to a job cannot be read. -/
def Unreadable (job : Job) (servers : Snapshot (List Server)) : Prop :=
  ∃ (last : Transition) (setting : Setting) (error : ParseError),
    job.jobHistory.getLast? = some last ∧ setting.Applies last.state servers ∧
      Policy.parse setting = .error error

theorem Headlined.unique {state : JobState} {text other : String}
    (headlined : Headlined state text) (also : Headlined state other) : text = other := by
  cases headlined with
  | succeeded =>
      cases also
      rfl
  | failed =>
      cases also
      rfl
  | deleted =>
      cases also
      rfl

theorem headlined_headline (terminal : TerminalState) :
    Headlined terminal.state terminal.headline := by
  cases terminal with
  | succeeded => exact .succeeded
  | failed => exact .failed
  | deleted => exact .deleted

theorem derive_of_ended {job : Job} {last : Transition} {terminal : TerminalState}
    (ended : job.EndedBy last terminal) (servers : Snapshot (List Server)) (now : Instant) :
    derive job servers now =
      (some ⟨terminal.headline,
          (AutoTransition.derive terminal.state last.createdAt servers now).1.map
            AutoTransition.display,
          (AutoTransition.derive terminal.state last.createdAt servers now).1.map
            AutoTransition.target⟩,
        (AutoTransition.derive terminal.state last.createdAt servers now).2) := by
  obtain ⟨isLast, isTerminal⟩ := ended
  simp only [derive, Job.lastTransition?, isLast,
    TerminalState.ofState?_eq_some_iff.mpr isTerminal]
  rw [isTerminal]

/-- A job in flight has no notice, and nothing is reported of it. -/
theorem derive_of_inFlight {job : Job} (inFlight : ∀ last terminal, ¬ job.EndedBy last terminal)
    (servers : Snapshot (List Server)) (now : Instant) :
    derive job servers now = (none, []) := by
  unfold derive
  split
  · rfl
  · rename_i last isLast
    split
    · rfl
    · rename_i terminal isTerminal
      exact absurd ⟨isLast, TerminalState.ofState?_eq_some_iff.mp isTerminal⟩
        (inFlight last terminal)

theorem ended_or_inFlight (job : Job) :
    (∃ last terminal, job.EndedBy last terminal) ∨
      ∀ last terminal, ¬ job.EndedBy last terminal := by
  by_cases ended : ∃ last terminal, job.EndedBy last terminal
  · exact .inl ended
  · exact .inr fun last terminal isEnd => ended ⟨last, terminal, isEnd⟩

theorem tells_derive {job : Job} {last : Transition} {terminal : TerminalState}
    (ended : job.EndedBy last terminal) (servers : Snapshot (List Server)) (now : Instant) :
    ∃ notice, (derive job servers now).1 = some notice ∧ Tells servers last notice := by
  have isState : last.state = terminal.state := ended.2
  refine ⟨_, congrArg Prod.fst (derive_of_ended ended servers now), ?_, ?_, by simp, ?_⟩
  · rw [isState]
    exact headlined_headline terminal
  · intro instant
    rw [isState]
    exact AutoTransition.target_derive_eq_some_iff
  · intro setting error applies unreadable
    rw [isState] at applies
    have none := (AutoTransition.derive_of_unreadable applies unreadable last.createdAt now).1
    simp only [none, Option.map_none, and_self]

/-- A job gives one warning if the setting that applies to it cannot be read, and none
otherwise. -/
theorem countP_derive (job : Job) (servers : Snapshot (List Server)) (now : Instant) :
    (Unreadable job servers → (derive job servers now).2.countP LogEvent.isWarning = 1) ∧
      (¬ Unreadable job servers → (derive job servers now).2.countP LogEvent.isWarning = 0) := by
  constructor
  · rintro ⟨last, setting, error, isLast, applies, unreadable⟩
    obtain ⟨terminal, isState⟩ := applies.exists_terminal
    rw [derive_of_ended ⟨isLast, isState⟩, ← isState]
    exact (AutoTransition.derive_of_unreadable applies unreadable last.createdAt now).2
  · intro readable
    rcases ended_or_inFlight job with ⟨last, terminal, ended⟩ | inFlight
    · rw [derive_of_ended ended, ← ended.2]
      refine AutoTransition.countP_derive_of_readable ?_ last.createdAt now
      intro setting error applies unreadable
      exact readable ⟨last, setting, error, ended.1, applies, unreadable⟩
    · rw [derive_of_inFlight inFlight]
      rfl

/-- There is no notice exactly of a job that has no last change of state, or one to a
state that is not terminal. -/
theorem derive_eq_none_iff (job : Job) (servers : Snapshot (List Server)) (now : Instant) :
    (derive job servers now).1 = none ↔ job.jobHistory = [] ∨
      ∃ last, job.jobHistory.getLast? = some last ∧ last.state ≠ .succeeded ∧
        last.state ≠ .failed ∧ last.state ≠ .deleted := by
  rcases ended_or_inFlight job with ⟨last, terminal, ended⟩ | inFlight
  · rw [derive_of_ended ended]
    obtain ⟨isLast, isTerminal⟩ := ended
    refine ⟨fun impossible => (nomatch impossible), ?_⟩
    rintro (isEmpty | ⟨other, isOther, notSucceeded, notFailed, notDeleted⟩)
    · rw [isEmpty] at isLast
      cases isLast
    · cases isLast.symm.trans isOther
      rcases TerminalState.exists_eq_state_iff.mp ⟨terminal, isTerminal⟩ with same | same | same
      · exact absurd same notSucceeded
      · exact absurd same notFailed
      · exact absurd same notDeleted
  · rw [derive_of_inFlight inFlight]
    refine ⟨fun _ => ?_, fun _ => rfl⟩
    cases isLast : job.jobHistory.getLast? with
    | none => exact .inl (List.getLast?_eq_none_iff.mp isLast)
    | some last =>
        have apart (terminal : TerminalState) : last.state ≠ terminal.state :=
          fun same => inFlight last terminal ⟨isLast, same⟩
        exact .inr ⟨last, rfl, apart .succeeded, apart .failed, apart .deleted⟩

/-- A job has no notice exactly when it has no last change of state, or one to a state
other than the three.  Otherwise the notice tells what the one setting that applies leads
to, and only an unreadable setting gives a warning.  Nothing else of the job or of the
servers has a part in the notice. -/
theorem notice_of_last_transition (job : Job) (servers : Snapshot (List Server))
    (now : Instant) :
    ((derive job servers now).1 = none ↔ job.jobHistory = [] ∨
        ∃ last, job.jobHistory.getLast? = some last ∧ last.state ≠ .succeeded ∧
          last.state ≠ .failed ∧ last.state ≠ .deleted) ∧
      (∀ last, job.jobHistory.getLast? = some last →
        last.state = .succeeded ∨ last.state = .failed ∨ last.state = .deleted →
          ∃ notice, (derive job servers now).1 = some notice ∧ Tells servers last notice) ∧
      ((Unreadable job servers → (derive job servers now).2.countP LogEvent.isWarning = 1) ∧
        (¬ Unreadable job servers →
          (derive job servers now).2.countP LogEvent.isWarning = 0)) ∧
      ∀ (other : Job) (others : Snapshot (List Server)),
        other.jobHistory.getLast? = job.jobHistory.getLast? →
        (∀ last, job.jobHistory.getLast? = some last → ∀ setting : Setting,
          setting.Applies last.state others ↔ setting.Applies last.state servers) →
        (derive other others now).1 = (derive job servers now).1 := by
  refine ⟨derive_eq_none_iff job servers now, ?_, countP_derive job servers now, ?_⟩
  · intro last isLast isFinal
    obtain ⟨terminal, isTerminal⟩ := TerminalState.exists_eq_state_iff.mpr isFinal
    exact tells_derive ⟨isLast, isTerminal⟩ servers now
  · intro other others sameLast sameSetting
    rcases ended_or_inFlight job with ⟨last, terminal, ended⟩ | inFlight
    · have same := sameSetting last ended.1
      rw [ended.2] at same
      rw [derive_of_ended ended, derive_of_ended ⟨sameLast.trans ended.1, ended.2⟩,
        AutoTransition.fst_derive_congr same]
    · rw [derive_of_inFlight inFlight, derive_of_inFlight fun last terminal ended =>
        inFlight last terminal ⟨sameLast.symm.trans ended.1, ended.2⟩]

/-- A server that keeps jobs that have succeeded for an hour and deleted ones for three days.
Its setting for jobs that have failed cannot be read. -/
def clearingServer : Server where
  id := ⟨0x51⟩
  workerPoolSize := 8
  pollIntervalInSeconds := 15
  deleteSucceededJobsAfter := .seconds 3600
  deleteFailedJobsAfter := some (.text "36 hours")
  permanentlyDeleteDeletedJobsAfter := .seconds 259200
  firstHeartbeat := none
  lastHeartbeat := none
  running := true
  systemTotalMemory := none
  systemFreeMemory := none
  systemCpuLoad := none
  processMaxMemory := none
  processFreeMemory := none
  processAllocatedMemory := none
  processCpuLoad := none

/-- An instant some days before the end of a February. -/
def entry : Instant :=
  ⟨19780, 45296, 0, by decide⟩

/-- A job that has been enqueued and has come to a state at once. -/
def jobIn (state : JobState) : Job :=
  ⟨⟨0x2a⟩, none, [⟨.enqueued, entry⟩, ⟨state, entry⟩]⟩

/-- The notices of jobs in each of the three states, and none of a job in another one.  An
older history, a second server and the settings for other states make no difference. -/
theorem notice_of_cleared_jobs :
    ∃ hour days, Instant.ofText? "2024-02-27T12:34:56Z" = some entry ∧
      Instant.ofText? "2024-02-27T13:34:56Z" = some hour ∧
      Instant.ofText? "2024-03-01T12:34:56Z" = some days ∧
      (∃ notice, (derive (jobIn .succeeded) (.loaded [clearingServer]) entry).1 = some notice ∧
        notice.headline = "This job has succeeded." ∧ notice.transitionAt = some hour ∧
        notice.autoTransition.isSome) ∧
      (∃ notice, (derive (jobIn .failed) (.loaded [clearingServer]) entry).1 = some notice ∧
        notice.headline = "This job has failed." ∧ notice.transitionAt = none ∧
        notice.autoTransition = none) ∧
      (derive (jobIn .failed) (.loaded [clearingServer]) entry).2.countP LogEvent.isWarning = 1 ∧
      (∃ notice, (derive (jobIn .deleted) (.loaded [clearingServer]) entry).1 = some notice ∧
        notice.headline = "This job is deleted." ∧ notice.transitionAt = some days ∧
        notice.autoTransition.isSome) ∧
      (derive (jobIn .processing) (.loaded [clearingServer]) entry).1 = none ∧
      (derive ⟨⟨0x2b⟩, some "mail", [⟨.deleted, entry⟩]⟩
          (.loaded [{ clearingServer with deleteSucceededJobsAfter := .text "" }, clearingServer])
          entry).1 =
        (derive (jobIn .deleted) (.loaded [clearingServer]) entry).1 := by
  have hourly : Policy.parse (.seconds 3600) = .ok (.activeFor ⟨3600000000000⟩) := rfl
  have daily : Policy.parse (.seconds 259200) = .ok (.activeFor ⟨259200000000000⟩) := rfl
  have unreadable : Policy.parse (.text "36 hours") = .error (.malformed "36 hours") := rfl
  have applies {state : JobState} {setting : Setting} (keeps : clearingServer.Keeps state setting) :
      setting.Applies state (.loaded [clearingServer]) :=
    ⟨clearingServer, [], rfl, keeps⟩
  have forFailed := applies (.failed rfl)
  have noticed (state : JobState) :=
    notice_of_last_transition (jobIn state) (.loaded [clearingServer]) entry
  refine ⟨⟨19780, 48896, 0, by decide⟩, ⟨19783, 45296, 0, by decide⟩, by decide +kernel,
    by decide +kernel, by decide +kernel, ?_, ?_, ?_, ?_, ?_, ?_⟩
  · obtain ⟨notice, isNotice, headlined, transitionAt_iff, autoTransition_iff, -⟩ :=
      (noticed .succeeded).2.1 _ rfl (.inl rfl)
    have due := (transitionAt_iff ⟨19780, 48896, 0, by decide⟩).mpr
      ⟨_, _, applies .succeeded, hourly, by decide +kernel⟩
    exact ⟨notice, isNotice, headlined.unique .succeeded, due,
      autoTransition_iff.mpr (by rw [due]; rfl)⟩
  · obtain ⟨notice, isNotice, headlined, -, -, ignored⟩ :=
      (noticed .failed).2.1 _ rfl (.inr (.inl rfl))
    exact ⟨notice, isNotice, headlined.unique .failed, ignored _ _ forFailed unreadable⟩
  · exact (noticed .failed).2.2.1.1 ⟨_, _, _, rfl, forFailed, unreadable⟩
  · obtain ⟨notice, isNotice, headlined, transitionAt_iff, autoTransition_iff, -⟩ :=
      (noticed .deleted).2.1 _ rfl (.inr (.inr rfl))
    have due := (transitionAt_iff ⟨19783, 45296, 0, by decide⟩).mpr
      ⟨_, _, applies .deleted, daily, by decide +kernel⟩
    exact ⟨notice, isNotice, headlined.unique .deleted, due,
      autoTransition_iff.mpr (by rw [due]; rfl)⟩
  · exact (noticed .processing).1.mpr (.inr ⟨_, rfl, by decide, by decide, by decide⟩)
  · refine (noticed .deleted).2.2.2 _ _ rfl ?_
    rintro last ⟨⟩ setting
    constructor
    · rintro ⟨_, _, ⟨⟩, ⟨⟩⟩
      exact applies .deleted
    · rintro ⟨_, _, ⟨⟩, ⟨⟩⟩
      exact ⟨_, _, rfl, .deleted⟩

end JobNotice

end JobConsole
