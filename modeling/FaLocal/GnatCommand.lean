import FaLocal.CommandLine
import FaLocal.GnatEventSchema
import FaLocal.GnatProcesses
import FaLocal.Library.Following

/-!
# The command `gnat-dispatch`

The command runs the pipeline with the default capabilities of FA Local and the subprocess
adapter, prints what came of it, and exits with 0 only if every shard was completed. Its
arguments and files are taken as read.
-/
namespace FaLocal

open GnatWorldEvent (deliveries)
open GnatDispatchPipelineService CortexSubprocessGnatShardAdapter
open GnatDispatchValidator (PlanSurface Dispatchable)

/-! ## What is printed -/

def GnatDispatchAdmissionState.serdeName : GnatDispatchAdmissionState → String
  | .readyForFaLocalDispatch => "ready_for_fa_local_dispatch"
  | .serialFallbackPermitted => "serial_fallback_permitted"

def GnatDispatchAdmission.toValue (admission : GnatDispatchAdmission) : Value := .object [
  ("state", .string admission.state.serdeName),
  ("correlation_id", admission.correlationId.toValue),
  ("run_id", .string admission.runId),
  ("effective_concurrency", natValue admission.effectiveConcurrency.toNat),
  ("admitted_worker_types", .array (admission.admittedWorkerTypes.map GnatWorkerType.toValue)),
  ("cancellation_policy", .string admission.cancellationPolicy.serdeName),
  ("operator_visible_summary", .string admission.operatorVisibleSummary)]

def GnatForensicRecordOutcome.toValue (times : DateTimes) (record : GnatForensicRecordOutcome) :
    Value := .object [
  ("event", record.event.event.toValue times),
  ("export_reference", optionValue .string record.exportReference)]

def shardResultToJson : String × GnatShardDispatchResult → Value
  | (shardId, .completed receipt) => .object [
    ("shard_id", .string shardId), ("outcome", .string "completed"), ("receipt", receipt)]
  | (shardId, .notCompleted receipt) => .object [
    ("shard_id", .string shardId), ("outcome", .string "not_completed"), ("receipt", receipt)]
  | (shardId, .dispatchUnavailable summary) => .object [
    ("shard_id", .string shardId), ("outcome", .string "dispatch_unavailable"),
    ("summary", .string summary)]

def GnatShardDispatchResult.isCompleted : GnatShardDispatchResult → Bool
  | .completed _ => true
  | _ => false

def gnatDispatchResultToJson (times : DateTimes) (result : GnatDispatchRunResult) : Value × Nat :=
  let forensicEvents := ("forensic_events", Value.array (result.forensicEvents.map (·.toValue times)))
  match result.outcome with
  | .denied denial => ((Value.object [("outcome", .string "denied"),
      ("denial", denial.toValue times), forensicEvents]).byName, 1)
  | .serialFallbackPermitted admission => ((Value.object [
      ("outcome", .string "serial_fallback_permitted"), ("admission", admission.toValue),
      forensicEvents]).byName, 1)
  | .dispatched admission shardResults => ((Value.object [("outcome", .string "dispatched"),
      ("admission", admission.toValue),
      ("shard_results", .array (shardResults.map shardResultToJson)), forensicEvents]).byName,
      if shardResults.all (·.2.isCompleted) then 0 else 1)

/-- The end of the command behind its run: what goes to the output or to the error output, and
the exit code. -/
def gnatDispatchEnd (times : DateTimes) :
    FaLocalResult GnatDispatchRunResult → Except Abort Value × Nat
  | .ok result => ((gnatDispatchResultToJson times result).map .ok id)
  | .error error => (.error error, error.exitCode)

/-! ## Success -/

/-- A process of its own sees the shard through: it exits in time behind a receipt whose state is
`complete`. -/
def Serves (config : CortexSubprocessGnatShardAdapterConfig) (host : CortexHost)
    (request : GnatShardDispatchRequest) : Prop :=
  ∃ child receipt, Launches config host request child ∧ child.ExitsInTime request.deadlineMs ∧
    host.fromStr (trim child.stdout) = some receipt ∧ stateText receipt = some "complete"

theorem serves_iff {config : CortexSubprocessGnatShardAdapterConfig} {host : CortexHost}
    {request : GnatShardDispatchRequest} :
    Serves config host request ↔ (deliverShard config host request).1.isCompleted = true := by
  constructor
  · rintro ⟨child, receipt, h⟩
    rw [deliverShard_completed_iff.mpr ⟨child, h⟩]
    rfl
  · intro h
    cases hresult : (deliverShard config host request).1 with
    | completed receipt =>
      obtain ⟨child, hchild⟩ := deliverShard_completed_iff.mp hresult
      exact ⟨child, receipt, hchild⟩
    | notCompleted receipt =>
      rw [hresult] at h
      cases h
    | dispatchUnavailable summary =>
      rw [hresult] at h
      cases h

theorem GnatShardDispatchResult.recognized_of_completed {result : GnatShardDispatchResult}
    (hproduced : result.Produced) (h : result.isCompleted = true) : result.Recognized := by
  cases result with
  | completed receipt =>
    rcases hproduced with ⟨receipt', hclassified⟩ | ⟨summary, ⟨⟩⟩
    obtain ⟨rfl, hstate⟩ := classifyReceipt_completed.mp hclassified.symm
    intro state hs
    rw [GnatShardDispatchResult.stateText, GnatShardDispatchResult.receipt, Option.bind_some,
      hstate] at hs
    cases hs
    exact List.mem_cons_self
  | notCompleted receipt => cases h
  | dispatchUnavailable summary => cases h

namespace GnatMachine

section
variable (machine : GnatMachine) (envelope : GnatDispatchEnvelope)
  (shardEnrichments : String → Option GnatShardEnrichment)

/-- Behind this log, the entry is no call or one that is seen through. -/
def Served (log : List GnatWorldEvent) : GnatWorldEvent → Prop
  | .delivered request _ => Serves machine.config (machine.host log) request
  | _ => True

/-- What the command needs for its exit code to be 0. -/
structure Succeeds (log entries : List GnatWorldEvent) : Prop where
  surface : PlanSurface envelope
  dispatchable : Dispatchable envelope .readyDefault
  runId : RunIdFits envelope.plan.runId
  enriched : ∀ shard ∈ envelope.plan.shards, (shardEnrichments shard.shardId).isSome = true
  served : Traced.Follow machine.Served log entries

end

variable {machine : GnatMachine} {envelope : GnatDispatchEnvelope}
  {sink : Option GnatForensicEventExportAdapter} {now : TimestampUtc}
  {requests : List GnatShardDispatchRequest} {log later entries : List GnatWorldEvent}
  {shardEnrichments : String → Option GnatShardEnrichment}

theorem served_quiet (h : deliveries entries = []) (log : List GnatWorldEvent) :
    Traced.Follow machine.Served log entries := by
  refine Traced.follow_of_forall fun entry hentry log => ?_
  cases entry with
  | delivered request result =>
    exact absurd (List.filterMap_eq_nil_iff.mp h _ hentry) (Option.some_ne_none _)
  | exported event answer => trivial
  | recorded record => trivial

/-- A round is served by its own call. -/
theorem round_served_iff {request : GnatShardDispatchRequest}
    {r : FaLocalResult (GnatForensicRecordOutcome × String × GnatShardDispatchResult)}
    (h : Round machine.environment envelope sink now log request r entries) :
    Traced.Follow machine.Served log entries ↔
      Serves machine.config (machine.host log) request := by
  obtain ⟨tail, rfl, htail⟩ := h.shape
  rw [Traced.follow_cons]
  exact and_iff_left (served_quiet htail _)

theorem rounds_served
    {pushed : List (GnatForensicRecordOutcome × String × GnatShardDispatchResult)}
    (h : Traced.Rounds (Round machine.environment envelope sink now) log requests (.ok pushed)
      later) :
    (∀ served ∈ pushed, served.2.2.isCompleted = true) →
      Traced.Follow machine.Served log later := by
  refine Traced.Rounds.ok_induction (motive := fun log _ pushed later =>
    (∀ served ∈ pushed, served.2.2.isCompleted = true) →
      Traced.Follow machine.Served log later) (fun _ _ => trivial) ?_ h
  intro log request served rest pushed entries later hround ih hall
  obtain ⟨hfirst, hrest⟩ := List.forall_mem_cons.mp hall
  rw [hround.reports.1] at hfirst
  exact Traced.follow_append.mpr
    ⟨(round_served_iff hround).mpr (serves_iff.mpr hfirst), ih hrest⟩

/-- Without a sink, rounds whose calls are all served come to their end. -/
theorem rounds_succeed
    {r : FaLocalResult (List (GnatForensicRecordOutcome × String × GnatShardDispatchResult))}
    (hrun : RunIdFits envelope.plan.runId)
    (h : Traced.Rounds (Round machine.environment envelope none now) log requests r later)
    (hserved : Traced.Follow machine.Served log later) :
    ∃ pushed, r = .ok pushed ∧ ∀ served ∈ pushed, served.2.2.isCompleted = true := by
  induction h with
  | ended log => exact ⟨[], rfl, by simp⟩
  | @next log request served rest r entries later hround _ ih =>
    obtain ⟨hfirst, hrest⟩ := Traced.follow_append.mp hserved
    obtain ⟨pushed, rfl, hpushed⟩ := ih hrest
    refine ⟨served :: pushed, rfl, List.forall_mem_cons.mpr ⟨?_, hpushed⟩⟩
    rw [hround.reports.1]
    exact serves_iff.mp ((round_served_iff hround).mp hfirst)
  | @broken log request rest e entries hround =>
    have hcompleted := serves_iff.mp ((round_served_iff hround).mp hserved)
    have hproduced := deliverShard_produced machine.config (machine.host log) request
    cases hround with
    | @unreported index error he =>
      have hrecognized := GnatShardDispatchResult.recognized_of_completed hproduced hcompleted
      have hbuilt : ∃ v, buildShardEvent machine.plainChar (machine.freshEventId index) envelope
          request _ now = .ok v :=
        (buildShardEvent_returns hproduced).mpr ⟨hrun, hrecognized⟩
      obtain ⟨v, hv⟩ := hbuilt
      exact absurd (he.symm.trans hv) (by simp)
    | refused hp => exact absurd hp not_pushed_none_error

/-- The exit code is 0 only behind a dispatch that completed every shard. -/
theorem gnatDispatchEnd_zero_iff {times : DateTimes} {r : FaLocalResult GnatDispatchRunResult} :
    (gnatDispatchEnd times r).2 = 0 ↔ ∃ admission shardResults forensicEvents,
      r = .ok ⟨.dispatched admission shardResults, forensicEvents⟩ ∧
        ∀ shard ∈ shardResults, shard.2.isCompleted = true := by
  cases r with
  | error error => simp [gnatDispatchEnd, error.exitCode_ne_zero]
  | ok result =>
    obtain ⟨outcome, forensicEvents⟩ := result
    cases outcome with
    | denied denial => simp [gnatDispatchEnd, gnatDispatchResultToJson]
    | serialFallbackPermitted admission => simp [gnatDispatchEnd, gnatDispatchResultToJson]
    | dispatched admission shardResults =>
      simp [gnatDispatchEnd, gnatDispatchResultToJson]

/-- Whatever the sink, an exit code of 0 means that every shard of an admitted plan was seen
through by a process of its own. -/
theorem trail_succeeds {times : DateTimes} {r : FaLocalResult GnatDispatchRunResult}
    (h : Trail machine.environment envelope sink now .readyDefault shardEnrichments log r entries)
    (hzero : (gnatDispatchEnd times r).2 = 0) :
    Succeeds machine envelope shardEnrichments log entries ∧
      List.Forall₂ (DeclaredBy envelope.plan.runId) envelope.plan.shards
        ((deliveries entries).map Prod.fst) := by
  obtain ⟨admission, shardResults, forensicEvents, hr, hcompleted⟩ :=
    gnatDispatchEnd_zero_iff.mp hzero
  cases h with
  | unenriched _ => cases hr
  | unrecorded _ => cases hr
  | refused _ => cases hr
  | settled hsettles _ _ =>
    cases hr
    exact absurd hsettles (not_settles_dispatched _ _)
  | @dispatched requests admission' event record entries later r hrequests hneg hstate hrep hp
      hrounds =>
    cases r with
    | error e => cases hr
    | ok pushed =>
      cases hr
      obtain ⟨hsurface, hdispatchable⟩ :=
        (GnatDispatchValidator.negotiate_classified _ _ _).1.mp ⟨_, hneg, hstate⟩
      have hserved := rounds_served hrounds fun served hmem =>
        hcompleted served.2 (List.mem_map_of_mem hmem)
      refine ⟨⟨hsurface, hdispatchable, runIdFits_of_reports hrep, requests_enriched hrequests,
        Traced.follow_append.mpr ⟨served_quiet hp.no_delivery _, hserved⟩⟩, ?_⟩
      rw [GnatWorldEvent.deliveries_append, hp.no_delivery, List.nil_append, rounds_all hrounds]
      exact requests_declaredBy hrequests

/-- Without a sink, nothing else is needed. -/
theorem succeeds_exits {times : DateTimes} {r : FaLocalResult GnatDispatchRunResult}
    (h : Trail machine.environment envelope none now .readyDefault shardEnrichments log r entries)
    (hsucceeds : Succeeds machine envelope shardEnrichments log entries) :
    (gnatDispatchEnd times r).2 = 0 := by
  have hadmitted : ∃ admission, GnatDispatchValidator.negotiate machine.utcNow envelope
      .readyDefault = .ok admission ∧ admission.state = .readyForFaLocalDispatch :=
    GnatDispatchValidator.negotiate_of_dispatchable hsucceeds.surface hsucceeds.dispatchable
  obtain ⟨admission, hneg, hready⟩ := hadmitted
  cases h with
  | unenriched he =>
    obtain ⟨requests, hr⟩ := buildShardRequests_returns hsucceeds.enriched
    rw [hr] at he
    cases he
  | unrecorded he =>
    obtain ⟨v, hv⟩ := buildNegotiationEvent_returns.mpr hsucceeds.runId
    exact absurd (he.symm.trans hv) (by simp)
  | refused hp => exact absurd hp not_pushed_none_error
  | settled hsettles _ _ =>
    have hneg' : GnatDispatchValidator.negotiate machine.environment.utcNow envelope
        .readyDefault = .ok admission := hneg
    rw [hneg'] at hsettles
    exact absurd hsettles (not_settles_ready hready)
  | @dispatched requests admission' event record entries later r hrequests _ _ _ hp hrounds =>
    obtain ⟨-, hserved⟩ := Traced.follow_append.mp hsucceeds.served
    obtain ⟨pushed, rfl, hpushed⟩ := rounds_succeed hsucceeds.runId hrounds hserved
    refine gnatDispatchEnd_zero_iff.mpr ⟨_, _, _, rfl, fun shard hmem => ?_⟩
    obtain ⟨served, hserved, rfl⟩ := List.mem_map.mp hmem
    exact hpushed served hserved

/-- The command exits with 0 only if FA Local can dispatch the plan and every declared shard has
been seen through in its turn; without a sink, this is all that it takes. -/
theorem gnatDispatch_exits (machine : GnatMachine) (envelope : GnatDispatchEnvelope)
    (sink : Option GnatForensicEventExportAdapter) (now : TimestampUtc)
    (shardEnrichments : String → Option GnatShardEnrichment) (times : DateTimes)
    (log : List GnatWorldEvent) :
    ∃ entries,
      (run machine.environment envelope sink now .readyDefault shardEnrichments log).2 =
        log ++ entries ∧
      ((gnatDispatchEnd times (run machine.environment envelope sink now .readyDefault
          shardEnrichments log).1).2 = 0 →
        Succeeds machine envelope shardEnrichments log entries ∧
          List.Forall₂ (DeclaredBy envelope.plan.runId) envelope.plan.shards
            ((deliveries entries).map Prod.fst)) ∧
      (sink = none → Succeeds machine envelope shardEnrichments log entries →
        (gnatDispatchEnd times (run machine.environment envelope sink now .readyDefault
          shardEnrichments log).1).2 = 0) := by
  obtain ⟨entries, he, htrail⟩ :=
    @run_trail machine.environment envelope sink now .readyDefault shardEnrichments log
  refine ⟨entries, he, trail_succeeds htrail, fun hsink hsucceeds => ?_⟩
  subst hsink
  exact succeeds_exits htrail hsucceeds

end GnatMachine

namespace Fixture

/-- A child that exits between the first two polls. -/
def exitingChild : ChildProcess where
  tryWait := fun i => .ok (if i = 0 then none else some ⟨some 0⟩)
  started := 0
  now := fun i => (i + 1) * pollInterval
  stdout := "\n"
  stderr := ""
  paced := ⟨Nat.zero_le _, fun i => by rw [Nat.succ_mul (i + 1)]⟩

/-- Every process of Cortex completes its shard. -/
def cortexMachine : GnatMachine where
  config := ⟨"python3", "/srv/cortex"⟩
  host := fun _ => {
    isFile := fun _ => true
    tempDir := "/tmp"
    newV4 := (id .request 1).uuid
    write := fun _ _ => .ok ()
    spawn := fun _ => .ok exitingChild
    fromStr := fun _ => some (receiptOf "complete") }
  utcNow := at2030 600
  freshEventId := fun index => id .forensicEvent index.toUInt8
  plainChar := fun _ => true

end Fixture

example : (gnatDispatchEnd Fixture.timeTexts.toDateTimes (run Fixture.cortexMachine.environment
    Fixture.twoShards none (Fixture.at2030 600) .readyDefault Fixture.gnatEnrichments []).1).2 =
    0 := by
  decide +kernel

end FaLocal
