import JobConsole.Model.Job
import JobConsole.Model.JobStats
import JobConsole.Model.RecurringJob
import JobConsole.Model.Server
import JobConsole.Proofs.Json.RoundTrip
import JobConsole.Proofs.Model.Problems
import JobConsole.Proofs.Time.Reading
import JobConsole.Proofs.Uuid

/-!
# Round trips of the data model

Every kind of data makes a round trip: a datum that was decoded from any text is written
as a text that decodes to the datum itself, so the written text is a normal form.  A
record is taken apart field by field in the order of its decoder; each field is restored
for a reason of its own, and the fields together restore the record.

The printer of binary64 numbers is left out of this: a text that still shows one, as the
load of a server or inside a problem, is not covered.
-/

namespace JobConsole

open JobConsole.Json
open JobConsole.Number

/-! ## Plain data -/

theorem Time.Instant.roundTrips : RoundTrips Time.Instant.decode? Time.Instant.encode :=
  roundTrips_ofText Time.Instant.ofText?_text

theorem Uuid.roundTrips : RoundTrips Uuid.decode? Uuid.encode :=
  roundTrips_ofText Uuid.ofText?_text

/-- A state is restored by its name, whatever was decoded to it. -/
theorem JobState.roundTrips : RoundTrips JobState.decode? JobState.encode where
  restores _ := restores_string (by rw [decode?, Option.map_some, ofName_name])

namespace Retention.Setting

theorem restores_saturate64 (i : Int) :
    (Setting.seconds (saturate64 i)).encode.Restores Setting.decode? (.seconds (saturate64 i)) where
  fits := by
    have fits := saturate64_fits i
    exact ⟨fits.1, Int.lt_of_le_of_lt fits.2 (by decide)⟩
  decode_eq raw shows := by
    obtain ⟨numeral, rfl, isNumber⟩ := Raw.shows_number_iff.mp shows
    have fits := saturate64_fits i
    simp only [decode?, isNumber, Option.map_some, saturate64_eq_self fits.1 fits.2]

/-- A setting that was cut off and saturated is an integer, which is kept. -/
theorem roundTrips : RoundTrips Setting.decode? Setting.encode := by
  refine ⟨fun {raw setting} decoded => ?_⟩
  unfold Setting.decode? at decoded
  split at decoded
  · obtain ⟨n, -, rfl⟩ := Option.map_eq_some_iff.mp decoded
    cases n with
    | whole i => exact restores_saturate64 i
    | real x => exact restores_saturate64 x.truncate
  · obtain ⟨s, -, rfl⟩ := Option.map_eq_some_iff.mp decoded
    exact restores_string rfl
  · cases decoded

end Retention.Setting

/-! ## Records -/

namespace JobStats

theorem exists_of_count {fields : Fields} {name : String} {more : Int → Option JobStats}
    {stats : JobStats} (decoded : (count? fields name).bind more = some stats) :
    ∃ count, (Value.whole count).Restores Raw.signed? count ∧ more count = some stats :=
  roundTrips_signed.exists_of_given
    (restores_whole (Int.le_refl _) (by decide) (by decide)) decoded

theorem roundTrips : RoundTrips JobStats.decode? JobStats.encode := by
  refine ⟨fun {raw stats} decoded => ?_⟩
  obtain ⟨_, -, decoded⟩ := Option.bind_eq_some_iff.mp decoded
  obtain ⟨_, timestamp, decoded⟩ := Time.Instant.roundTrips.exists_of_optional rfl decoded
  obtain ⟨_, total, decoded⟩ := exists_of_count decoded
  obtain ⟨_, scheduled, decoded⟩ := exists_of_count decoded
  obtain ⟨_, enqueued, decoded⟩ := exists_of_count decoded
  obtain ⟨_, processing, decoded⟩ := exists_of_count decoded
  obtain ⟨_, failed, decoded⟩ := exists_of_count decoded
  obtain ⟨_, succeeded, decoded⟩ := exists_of_count decoded
  obtain ⟨_, allTime, decoded⟩ := exists_of_count decoded
  obtain ⟨_, deleted, decoded⟩ := exists_of_count decoded
  obtain ⟨_, recurring, decoded⟩ := exists_of_count decoded
  obtain ⟨_, servers, decoded⟩ := exists_of_count decoded
  cases decoded
  refine restores_record rfl (by decide) ?_ fun fields shown => ?_
  · exact ⟨timestamp.fits, total.fits, scheduled.fits, enqueued.fits, processing.fits, failed.fits,
      succeeded.fits, allTime.fits, deleted.fits, recurring.fits, servers.fits, trivial⟩
  · unfold count? Fields.optional?
    rw [shown.given?_eq (by simp) timestamp, shown.given?_eq (by simp) total,
      shown.given?_eq (by simp) scheduled, shown.given?_eq (by simp) enqueued,
      shown.given?_eq (by simp) processing, shown.given?_eq (by simp) failed,
      shown.given?_eq (by simp) succeeded, shown.given?_eq (by simp) allTime,
      shown.given?_eq (by simp) deleted, shown.given?_eq (by simp) recurring,
      shown.given?_eq (by simp) servers]
    rfl

end JobStats

theorem RecurringJob.roundTrips : RoundTrips RecurringJob.decode? RecurringJob.encode := by
  refine ⟨fun {raw job} decoded => ?_⟩
  have noText := restores_text ""
  have isTrue := restores_bool true
  obtain ⟨_, -, decoded⟩ := Option.bind_eq_some_iff.mp decoded
  obtain ⟨_, id, decoded⟩ := roundTrips_text.exists_of_required decoded
  obtain ⟨_, jobName, decoded⟩ := roundTrips_text.exists_of_given noText decoded
  obtain ⟨_, cron, decoded⟩ := roundTrips_text.exists_of_required decoded
  obtain ⟨_, zone, decoded⟩ := roundTrips_text.exists_of_given noText decoded
  obtain ⟨_, nextRun, decoded⟩ := Time.Instant.roundTrips.exists_of_optional rfl decoded
  obtain ⟨_, enabled, decoded⟩ := roundTrips_bool.exists_of_given isTrue decoded
  obtain ⟨_, deletable, decoded⟩ := roundTrips_bool.exists_of_given isTrue decoded
  cases decoded
  refine restores_record rfl (by decide) ?_ fun fields shown => ?_
  · exact ⟨id.fits, jobName.fits, cron.fits, zone.fits, nextRun.fits, enabled.fits, deletable.fits,
      trivial⟩
  · unfold Fields.optional?
    rw [shown.required?_eq (by simp) id, shown.given?_eq (by simp) jobName,
      shown.required?_eq (by simp) cron, shown.given?_eq (by simp) zone,
      shown.given?_eq (by simp) nextRun, shown.given?_eq (by simp) enabled,
      shown.given?_eq (by simp) deletable]
    rfl

theorem Transition.roundTrips : RoundTrips Transition.decode? Transition.encode := by
  refine ⟨fun {raw transition} decoded => ?_⟩
  obtain ⟨_, -, decoded⟩ := Option.bind_eq_some_iff.mp decoded
  obtain ⟨_, state, decoded⟩ := JobState.roundTrips.exists_of_required decoded
  obtain ⟨_, createdAt, decoded⟩ := Time.Instant.roundTrips.exists_of_required decoded
  cases decoded
  refine restores_record rfl (by decide) ⟨state.fits, createdAt.fits, trivial⟩ fun fields shown => ?_
  rw [shown.required?_eq (by simp) state, shown.required?_eq (by simp) createdAt]
  rfl

theorem Job.roundTrips : RoundTrips Job.decode? Job.encode := by
  refine ⟨fun {raw job} decoded => ?_⟩
  have noHistory : (Value.array ([].map Transition.encode)).Restores
      (Raw.list? Transition.decode?) [] :=
    restores_list fun _ member => absurd member List.not_mem_nil
  obtain ⟨_, -, decoded⟩ := Option.bind_eq_some_iff.mp decoded
  obtain ⟨_, id, decoded⟩ := Uuid.roundTrips.exists_of_required decoded
  obtain ⟨_, jobName, decoded⟩ := roundTrips_text.exists_of_optional rfl decoded
  obtain ⟨_, history, decoded⟩ := Transition.roundTrips.list.exists_of_given noHistory decoded
  cases decoded
  refine restores_record rfl (by decide) ⟨id.fits, jobName.fits, history.fits, trivial⟩
    fun fields shown => ?_
  unfold Fields.optional?
  rw [shown.required?_eq (by simp) id, shown.given?_eq (by simp) jobName,
    shown.given?_eq (by simp) history]
  rfl

namespace Server

open Retention

/-- A load is restored, as far as a tree shows it. -/
theorem roundTrips_load : RoundTrips Raw.real? Server.encodeLoad := by
  refine ⟨fun {_ load} _ => ⟨trivial, fun raw shows => ?_⟩⟩
  obtain ⟨numeral, rfl, isNumber⟩ := Raw.shows_number_iff.mp shows
  simp only [Raw.real?, isNumber]

theorem exists_of_memory {fields : Fields} {name : String} {more : Option Nat → Option Server}
    {server : Server} (decoded : (memory? fields name).bind more = some server) :
    ∃ amount, (Value.ofOption .natural amount).Restores (Raw.option? (Raw.unsigned? 64)) amount ∧
      more amount = some server :=
  (roundTrips_unsigned (Nat.le_refl 64)).exists_of_optional rfl decoded

theorem roundTrips : RoundTrips Server.decode? Server.encode := by
  refine ⟨fun {raw server} decoded => ?_⟩
  have size := roundTrips_unsigned (show 32 ≤ 64 by decide)
  obtain ⟨_, -, decoded⟩ := Option.bind_eq_some_iff.mp decoded
  obtain ⟨_, id, decoded⟩ := Uuid.roundTrips.exists_of_required decoded
  obtain ⟨_, pool, decoded⟩ := size.exists_of_required decoded
  obtain ⟨_, interval, decoded⟩ := size.exists_of_required decoded
  obtain ⟨_, afterSuccess, decoded⟩ := Setting.roundTrips.exists_of_required decoded
  obtain ⟨_, afterFailure, decoded⟩ := Setting.roundTrips.exists_of_optional rfl decoded
  obtain ⟨_, afterDeletion, decoded⟩ := Setting.roundTrips.exists_of_required decoded
  obtain ⟨_, firstHeartbeat, decoded⟩ := Time.Instant.roundTrips.exists_of_optional rfl decoded
  obtain ⟨_, lastHeartbeat, decoded⟩ := Time.Instant.roundTrips.exists_of_optional rfl decoded
  obtain ⟨_, running, decoded⟩ := roundTrips_bool.exists_of_given (restores_bool false) decoded
  obtain ⟨_, systemTotal, decoded⟩ := exists_of_memory decoded
  obtain ⟨_, systemFree, decoded⟩ := exists_of_memory decoded
  obtain ⟨_, systemLoad, decoded⟩ := roundTrips_load.exists_of_optional rfl decoded
  obtain ⟨_, processMax, decoded⟩ := exists_of_memory decoded
  obtain ⟨_, processFree, decoded⟩ := exists_of_memory decoded
  obtain ⟨_, processAllocated, decoded⟩ := exists_of_memory decoded
  obtain ⟨_, processLoad, decoded⟩ := roundTrips_load.exists_of_optional rfl decoded
  cases decoded
  refine restores_record rfl (by decide) ?_ fun fields shown => ?_
  · exact ⟨id.fits, pool.fits, interval.fits, afterSuccess.fits, afterFailure.fits,
      afterDeletion.fits, firstHeartbeat.fits, lastHeartbeat.fits, running.fits, systemTotal.fits,
      systemFree.fits, systemLoad.fits, processMax.fits, processFree.fits, processAllocated.fits,
      processLoad.fits, trivial⟩
  · unfold memory? Fields.optional?
    rw [shown.required?_eq (by simp) id, shown.required?_eq (by simp) pool,
      shown.required?_eq (by simp) interval, shown.required?_eq (by simp) afterSuccess,
      shown.given?_eq (by simp) afterFailure, shown.required?_eq (by simp) afterDeletion,
      shown.given?_eq (by simp) firstHeartbeat, shown.given?_eq (by simp) lastHeartbeat,
      shown.given?_eq (by simp) running, shown.given?_eq (by simp) systemTotal,
      shown.given?_eq (by simp) systemFree, shown.given?_eq (by simp) systemLoad,
      shown.given?_eq (by simp) processMax, shown.given?_eq (by simp) processFree,
      shown.given?_eq (by simp) processAllocated, shown.given?_eq (by simp) processLoad]
    rfl

end Server

/-! ## Data without binary64 numbers -/

theorem Time.Instant.hasNoReal_ofOption (o : Option Time.Instant) :
    (Value.ofOption Time.Instant.encode o).HasNoReal :=
  Value.hasNoReal_ofOption fun _ _ => trivial

theorem JobStats.hasNoReal_encode (stats : JobStats) : stats.encode.HasNoReal :=
  ⟨trivial, Time.Instant.hasNoReal_ofOption _, trivial, trivial, trivial, trivial, trivial, trivial,
    trivial, trivial, trivial, trivial, trivial⟩

theorem RecurringJob.hasNoReal_encode (job : RecurringJob) : job.encode.HasNoReal :=
  ⟨trivial, trivial, trivial, trivial, trivial, Time.Instant.hasNoReal_ofOption _, trivial, trivial,
    trivial⟩

theorem Job.hasNoReal_encode (job : Job) : job.encode.HasNoReal :=
  ⟨trivial, trivial, Value.hasNoReal_ofOption fun _ _ => trivial,
    Value.hasNoReal_array fun _ _ => ⟨trivial, trivial, trivial, trivial⟩, trivial⟩

theorem Retention.Setting.hasNoReal_encode (setting : Retention.Setting) :
    setting.encode.HasNoReal := by
  cases setting <;> trivial

/-- A server shows no load. -/
def Server.HasNoReal (server : Server) : Prop :=
  server.systemCpuLoad = none ∧ server.processCpuLoad = none

theorem Server.hasNoReal_encode {server : Server} (noReal : server.HasNoReal) :
    server.encode.HasNoReal := by
  have amount (o : Option Nat) : (Value.ofOption .natural o).HasNoReal :=
    Value.hasNoReal_ofOption fun _ _ => trivial
  have load {o : Option Binary64} (absent : o = none) : (Value.ofOption encodeLoad o).HasNoReal := by
    rw [absent]
    trivial
  exact ⟨trivial, trivial, trivial, trivial, Retention.Setting.hasNoReal_encode _,
    Value.hasNoReal_ofOption fun setting _ => setting.hasNoReal_encode,
    Retention.Setting.hasNoReal_encode _, Time.Instant.hasNoReal_ofOption _,
    Time.Instant.hasNoReal_ofOption _, trivial, amount _, amount _, load noReal.1, amount _,
    amount _, amount _, load noReal.2, trivial⟩

/-- No binary64 number stands inside the details of a problem. -/
def Problem.HasNoReal (problem : Problem) : Prop :=
  ∀ member ∈ problem.details, member.2.HasNoReal

theorem Problem.hasNoReal_encode {problem : Problem} (noReal : problem.HasNoReal) :
    problem.encode.HasNoReal :=
  ⟨trivial, trivial, Value.hasNoReal_ofOption fun _ _ => trivial,
    Value.membersEvery_iff.mpr noReal⟩

/-! ## Kinds of data -/

/-- The kinds of data that are decoded from texts. -/
inductive DataKind where
  | jobStats
  | server
  | servers
  | recurringJob
  | job
  | jobState
  | problem
  | problems
  | retention

namespace DataKind

/-- The data of a kind. -/
def Data : DataKind → Type
  | jobStats => JobStats
  | server => Server
  | servers => List Server
  | recurringJob => RecurringJob
  | job => Job
  | jobState => JobState
  | problem => Problem
  | problems => List Problem
  | retention => Retention.Setting

/-- Decodes a datum of a kind. -/
def decode? : (kind : DataKind) → Raw → Option kind.Data
  | jobStats => JobStats.decode?
  | server => Server.decode?
  | servers => Server.decodeAll?
  | recurringJob => RecurringJob.decode?
  | job => Job.decode?
  | jobState => JobState.decode?
  | problem => Problem.decode?
  | problems => Problem.decodeAll?
  | retention => Retention.Setting.decode?

/-- A datum of a kind as a value. -/
def encode : (kind : DataKind) → kind.Data → Value
  | jobStats => JobStats.encode
  | server => Server.encode
  | servers => Server.encodeAll
  | recurringJob => RecurringJob.encode
  | job => Job.encode
  | jobState => JobState.encode
  | problem => Problem.encode
  | problems => Problem.encodeAll
  | retention => Retention.Setting.encode

/-- The text of a datum. -/
def text (kind : DataKind) (a : kind.Data) : String :=
  (kind.encode a).compact

theorem roundTrips (kind : DataKind) : RoundTrips kind.decode? kind.encode := by
  cases kind with
  | jobStats => exact JobStats.roundTrips
  | server => exact Server.roundTrips
  | servers => exact Server.roundTrips.list
  | recurringJob => exact RecurringJob.roundTrips
  | job => exact Job.roundTrips
  | jobState => exact JobState.roundTrips
  | problem => exact Problem.roundTrips
  | problems => exact Problem.roundTrips_all
  | retention => exact Retention.Setting.roundTrips

/-- No binary64 number is left in a datum: servers have no loads, and there is no such
number inside the details of problems. -/
def HasNoReal : (kind : DataKind) → kind.Data → Prop
  | server => Server.HasNoReal
  | servers => fun (servers : List Server) => ∀ server ∈ servers, server.HasNoReal
  | problem => Problem.HasNoReal
  | problems => fun (problems : List Problem) => ∀ problem ∈ problems, problem.HasNoReal
  | _ => fun _ => True

/-- A datum without binary64 numbers is written without them. -/
theorem hasNoReal_encode {kind : DataKind} {a : kind.Data} (noReal : kind.HasNoReal a) :
    (kind.encode a).HasNoReal := by
  cases kind with
  | jobStats => exact JobStats.hasNoReal_encode a
  | server => exact Server.hasNoReal_encode noReal
  | servers => exact Value.hasNoReal_array fun server member =>
      Server.hasNoReal_encode (noReal server member)
  | recurringJob => exact RecurringJob.hasNoReal_encode a
  | job => exact Job.hasNoReal_encode a
  | jobState => trivial
  | problem => exact Problem.hasNoReal_encode noReal
  | problems => exact Value.hasNoReal_array fun problem member =>
      Problem.hasNoReal_encode (noReal problem member)
  | retention => exact Retention.Setting.hasNoReal_encode a

/-- The text of a datum that was decoded from any text decodes to this datum, unless a
binary64 number is left in it; so decoding and writing the text once more changes
nothing. -/
theorem decode?_text_of_decode? {kind : DataKind} {shown : String} {a : kind.Data}
    (decoded : Json.decode? kind.decode? shown = some a) (noReal : kind.HasNoReal a) :
    Json.decode? kind.decode? (kind.text a) = some a ∧
      (Json.decode? kind.decode? (kind.text a)).map kind.text = some (kind.text a) := by
  obtain ⟨raw, -, isDatum⟩ := Option.bind_eq_some_iff.mp decoded
  have restored : Json.decode? kind.decode? (kind.text a) = some a :=
    (kind.roundTrips.restores isDatum).decode?_compact (hasNoReal_encode noReal)
  exact ⟨restored, by rw [restored, Option.map_some]⟩

/-- A server with an identifier without groups, a retention beyond all integers, an
escape, a leap second at an offset in the year 12345, and half of a surrogate pair that
nobody reads. -/
def unusualServerText : String :=
  "\x7b\"id\":\"00000000000000000000000000C0FFEE\",\"pollIntervalInSeconds\":15," ++
    "\"workerPoolSize\":4294967295,\"deleteSucceededJobsAfter\":-1e30," ++
    "\"permanentlyDeleteDeletedJobsAfter\":\"P3\\u0044\",\"systemCpuLoad\":null," ++
    "\"lastHeartbeat\":\"+12345-1-2T23:59:60.5+23:59\",\"note\":\"\\ud800\"\x7d"

/-- The server that the text shows. -/
def unusualServer : Server where
  id := ⟨0xc0ffee⟩
  workerPoolSize := 4294967295
  pollIntervalInSeconds := 15
  deleteSucceededJobsAfter := .seconds (-9223372036854775808)
  deleteFailedJobsAfter := none
  permanentlyDeleteDeletedJobsAfter := .text "P3D"
  firstHeartbeat := none
  lastHeartbeat := some ⟨3789392, 59, 1500000000, by decide⟩
  running := false
  systemTotalMemory := none
  systemFreeMemory := none
  systemCpuLoad := none
  processMaxMemory := none
  processFreeMemory := none
  processAllocatedMemory := none
  processCpuLoad := none

/-- The unusual server is written in the usual form, which decodes to it. -/
theorem decode?_text_of_unusualServer :
    Json.decode? server.decode? unusualServerText = some unusualServer ∧
      server.HasNoReal unusualServer ∧
      Json.decode? server.decode? (server.text unusualServer) = some unusualServer := by
  have decoded : Json.decode? Server.decode? unusualServerText = some unusualServer := by
    unfold unusualServerText Json.decode? Raw.ofString?
    rw [String.toList_append, String.toList_append, String.toList_append]
    decide +kernel
  have noReal : Server.HasNoReal unusualServer := ⟨rfl, rfl⟩
  exact ⟨decoded, noReal, (@decode?_text_of_decode? server _ _ decoded noReal).1⟩

end DataKind

end JobConsole
