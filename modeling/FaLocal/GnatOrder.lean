import FaLocal.ExecutionGate
import FaLocal.GnatTrail

/-!
# The order of a Gnat run

Shards are delivered in their declared order, only behind a recorded admission, and
each of them behind the records of all shards before it.
-/
namespace FaLocal

open GnatWorldEvent (deliveries records)

namespace GnatDispatchPipelineService

/-! ## Requests -/

theorem buildShardRequests_eq_ok {envelope : GnatDispatchEnvelope}
    {shardEnrichments : String → Option GnatShardEnrichment}
    {requests : List GnatShardDispatchRequest} :
    buildShardRequests envelope shardEnrichments = .ok requests ↔
      List.Forall₂ (fun declared request => ∃ enrichment,
        shardEnrichments declared.shardId = some enrichment ∧
          request = .fromDeclaredShard envelope.plan.runId declared enrichment)
        envelope.plan.shards requests := by
  rw [buildShardRequests]
  generalize envelope.plan.shards = shards
  induction shards generalizing requests with
  | nil => simp [pure, Except.pure, eq_comm]
  | cons declared shards ih =>
    rw [List.mapM_cons]
    cases henrichment : shardEnrichments declared.shardId with
    | none =>
      constructor
      · rintro ⟨⟩
      · rintro (_ | ⟨⟨enrichment, he, -⟩, -⟩)
        rw [henrichment] at he
        cases he
    | some enrichment =>
      constructor
      · intro h
        cases hrest : shards.mapM (m := Except Abort) _ with
        | error e =>
          rw [hrest] at h
          cases h
        | ok rest =>
          rw [hrest] at h
          cases h
          exact .cons ⟨enrichment, henrichment, rfl⟩ (ih.mp hrest)
      · rintro (_ | ⟨⟨enrichment', he, rfl⟩, htail⟩)
        rw [henrichment] at he
        cases he
        rw [ih.mpr htail]
        rfl

theorem fromDeclaredShard_declaredBy (runId : String) (declared : GnatDispatchShard)
    (enrichment : GnatShardEnrichment) :
    DeclaredBy runId declared (.fromDeclaredShard runId declared enrichment) where
  runId := rfl
  shardId := rfl
  ordinal := UInt16.toNat_toUInt32 declared.ordinal
  workerType := rfl
  sourceRef := rfl
  digest := rfl
  deadlineMs := rfl

section
variable {env : GnatRunEnvironment} {envelope : GnatDispatchEnvelope}
  {sink : Option GnatForensicEventExportAdapter} {now : TimestampUtc}
  {faLocalCapabilities : GnatFaLocalCapabilityState}
  {shardEnrichments : String → Option GnatShardEnrichment}
  {requests : List GnatShardDispatchRequest} {log later entries : List GnatWorldEvent}
  {pushed : List (GnatForensicRecordOutcome × String × GnatShardDispatchResult)}

theorem requests_declaredBy (h : buildShardRequests envelope shardEnrichments = .ok requests) :
    List.Forall₂ (DeclaredBy envelope.plan.runId) envelope.plan.shards requests := by
  refine (buildShardRequests_eq_ok.mp h).imp ?_
  rintro declared request ⟨enrichment, -, rfl⟩
  exact fromDeclaredShard_declaredBy _ _ _

theorem requests_enriched (h : buildShardRequests envelope shardEnrichments = .ok requests) :
    ∀ shard ∈ envelope.plan.shards, (shardEnrichments shard.shardId).isSome = true := by
  have hall := buildShardRequests_eq_ok.mp h
  clear h
  generalize envelope.plan.shards = shards at hall
  induction hall with
  | nil => exact fun _ h => absurd h List.not_mem_nil
  | cons hd _ ih =>
    obtain ⟨enrichment, he, -⟩ := hd
    exact List.forall_mem_cons.mpr ⟨by rw [he]; rfl, ih⟩

/-! ## Deliveries and records of the loop -/

theorem requests_of_deliveries (entries : List GnatWorldEvent) :
    (deliveries entries).map Prod.fst =
      entries.filterMap fun entry => entry.delivery.map Prod.fst := by
  rw [GnatWorldEvent.deliveries, List.map_filterMap]

theorem Round.requests_eq {request : GnatShardDispatchRequest}
    {r : FaLocalResult (GnatForensicRecordOutcome × String × GnatShardDispatchResult)}
    (h : Round env envelope sink now log request r entries) :
    (entries.filterMap fun entry => entry.delivery.map Prod.fst) = [id request] := by
  rw [← requests_of_deliveries, h.deliveries_eq]
  rfl

/-- The calls are made for a first part of the requests. -/
theorem rounds_called
    {r : FaLocalResult (List (GnatForensicRecordOutcome × String × GnatShardDispatchResult))}
    (h : Traced.Rounds (Round env envelope sink now) log requests r later) :
    (deliveries later).map Prod.fst <+: requests := by
  rw [requests_of_deliveries]
  simpa using h.inputs fun _ _ _ _ hround => hround.requests_eq

theorem rounds_all (h : Traced.Rounds (Round env envelope sink now) log requests (.ok pushed) later) :
    (deliveries later).map Prod.fst = requests := by
  rw [requests_of_deliveries]
  simpa using h.inputs_of_ok fun _ _ _ _ hround => hround.requests_eq

theorem rounds_records
    (h : Traced.Rounds (Round env envelope sink now) log requests (.ok pushed) later) :
    records later = pushed.map Prod.fst :=
  h.outputs fun _ _ _ _ hround => hround.reports.2.1

theorem rounds_reports
    (h : Traced.Rounds (Round env envelope sink now) log requests (.ok pushed) later) :
    List.Forall₂ (fun delivery record =>
        ReportsShard envelope delivery.1.shardId delivery.2 record.event.event)
      (deliveries later) (records later) :=
  h.paired fun _ _ _ _ hround =>
    ⟨_, _, hround.deliveries_eq, hround.reports.2.1, hround.reports.2.2⟩

/-- The next request is delivered behind completed rounds. -/
theorem rounds_split
    {r : FaLocalResult (List (GnatForensicRecordOutcome × String × GnatShardDispatchResult))}
    (h : Traced.Rounds (Round env envelope sink now) log requests r later)
    {pre post : List GnatWorldEvent} {request : GnatShardDispatchRequest}
    {result : GnatShardDispatchResult} (he : later = pre ++ .delivered request result :: post) :
    ∃ before b after cs, requests = before ++ b :: after ∧
      Traced.Rounds (Round env envelope sink now) log before (.ok cs) pre := by
  have hone : ∀ log b r entries, Round env envelope sink now log b r entries →
      ∃ x tail, entries = x :: tail ∧ ∀ y ∈ tail, ¬ y.delivery ≠ none := by
    intro log b r entries hround
    obtain ⟨tail, rfl, htail⟩ := hround.shape
    exact ⟨_, tail, rfl, fun y hy hne => hne (List.filterMap_eq_nil_iff.mp htail y hy)⟩
  exact h.split hone he (Option.some_ne_none _)

/-! ## Runs -/

/-- A delivery behind entries without one. -/
theorem split_behind {pre post : List GnatWorldEvent} {request : GnatShardDispatchRequest}
    {result : GnatShardDispatchResult} (hquiet : deliveries entries = [])
    (h : entries ++ later = pre ++ .delivered request result :: post) :
    ∃ pre', pre = entries ++ pre' ∧ later = pre' ++ .delivered request result :: post := by
  rcases List.append_eq_append_iff.mp h with ⟨pre', hpre, hlater⟩ | ⟨mid, hentries, hpost⟩
  · exact ⟨pre', hpre, hlater⟩
  · cases mid with
    | nil => exact ⟨[], by simpa using hentries.symm, by simpa using hpost.symm⟩
    | cons entry mid =>
      obtain ⟨rfl, -⟩ := List.cons.inj hpost
      rw [hentries, GnatWorldEvent.deliveries_append, List.append_eq_nil_iff] at hquiet
      exact absurd hquiet.2 (List.cons_ne_nil _ _)

variable (env envelope sink faLocalCapabilities shardEnrichments) in
/-- What the calls of a run rest on, and what is recorded before each of them. -/
structure OrderedCalls (entries : List GnatWorldEvent) : Prop where
  admitted : deliveries entries ≠ [] → ∃ admission,
    GnatDispatchValidator.negotiate env.utcNow envelope faLocalCapabilities = .ok admission ∧
      admission.state = .readyForFaLocalDispatch
  enriched : deliveries entries ≠ [] →
    ∀ shard ∈ envelope.plan.shards, (shardEnrichments shard.shardId).isSome = true
  inOrder : ∃ called, called <+: envelope.plan.shards ∧
    List.Forall₂ (DeclaredBy envelope.plan.runId) called ((deliveries entries).map Prod.fst)
  recordedBefore : ∀ pre request result post,
    entries = pre ++ .delivered request result :: post →
      ∃ negotiation shardRecords, records pre = negotiation :: shardRecords ∧
        ReportsNegotiation envelope .readyForFaLocalDispatch negotiation.event.event ∧
        SunkIn sink pre negotiation ∧
        List.Forall₂ (fun delivery record =>
            ReportsShard envelope delivery.1.shardId delivery.2 record.event.event)
          (deliveries pre) shardRecords

variable (env envelope faLocalCapabilities) in
/-- What a run that returns says of its calls. -/
structure ReturnedTrail (r : GnatDispatchRunResult) (entries : List GnatWorldEvent) : Prop where
  dispatched : ∀ admission shardResults, r.outcome = .dispatched admission shardResults →
    List.Forall₂ (DeclaredBy envelope.plan.runId) envelope.plan.shards
      ((deliveries entries).map Prod.fst)
  recorded : r.forensicEvents = records entries
  events : ∃ negotiation shardRecords, r.forensicEvents = negotiation :: shardRecords ∧
    ReportsNegotiation envelope
      (posture (GnatDispatchValidator.negotiate env.utcNow envelope faLocalCapabilities))
      negotiation.event.event ∧
    List.Forall₂ (fun delivery record =>
        ReportsShard envelope delivery.1.shardId delivery.2 record.event.event)
      (deliveries entries) shardRecords

theorem OrderedCalls.of_quiet (h : deliveries entries = []) :
    OrderedCalls env envelope sink faLocalCapabilities shardEnrichments entries where
  admitted := fun hne => absurd h hne
  enriched := fun hne => absurd h hne
  inOrder := ⟨[], List.nil_prefix, by rw [h]; exact .nil⟩
  recordedBefore := by
    rintro pre request result post rfl
    rw [GnatWorldEvent.deliveries_append, List.append_eq_nil_iff] at h
    exact absurd h.2 (List.cons_ne_nil _ _)

theorem sunkIn_append {record : GnatForensicRecordOutcome} (h : SunkIn sink entries record)
    (more : List GnatWorldEvent) : SunkIn sink (entries ++ more) record := by
  cases sink with
  | none => exact h
  | some adapter =>
    obtain ⟨reference, hmem, href⟩ := h
    exact ⟨reference, List.mem_append_left _ hmem, href⟩

theorem trail_ordered {r : FaLocalResult GnatDispatchRunResult}
    (h : Trail env envelope sink now faLocalCapabilities shardEnrichments log r entries) :
    OrderedCalls env envelope sink faLocalCapabilities shardEnrichments entries := by
  cases h with
  | unenriched _ => exact .of_quiet rfl
  | unrecorded _ => exact .of_quiet rfl
  | refused hp => exact .of_quiet hp.no_delivery
  | settled _ _ hp => exact .of_quiet hp.no_delivery
  | @dispatched requests admission event record entries later r hrequests hneg hstate hrep hp
      hrounds =>
    have hquiet := hp.no_delivery
    refine ⟨fun _ => ⟨admission, hneg, hstate⟩, fun _ => requests_enriched hrequests, ?_, ?_⟩
    · rw [GnatWorldEvent.deliveries_append, hquiet, List.nil_append]
      have hcalls := List.prefix_iff_eq_take.mp (rounds_called hrounds)
      refine ⟨envelope.plan.shards.take ((deliveries later).map Prod.fst).length,
        List.take_prefix _ _, ?_⟩
      rw [hcalls, List.length_take_of_le (rounds_called hrounds).length_le]
      exact List.forall₂_take _ (requests_declaredBy hrequests)
    · intro pre request result post he
      obtain ⟨pre', rfl, hlater⟩ := split_behind hquiet he
      obtain ⟨before, b, after, cs, -, hcompleted⟩ := rounds_split hrounds hlater
      refine ⟨record, records pre', ?_, ?_, sunkIn_append hp.sunkIn _, ?_⟩
      · rw [GnatWorldEvent.records_append, hp.records_eq]
        rfl
      · rw [hp.event_eq]
        exact hrep
      · rw [GnatWorldEvent.deliveries_append, hquiet, List.nil_append]
        exact rounds_reports hcompleted

theorem not_settles_dispatched {negotiated : Except DenialGuard GnatDispatchAdmission}
    (admission : GnatDispatchAdmission) (shardResults : List (String × GnatShardDispatchResult)) :
    ¬ Settles negotiated (.dispatched admission shardResults) := by
  rintro ⟨⟩

theorem trail_returned {r : GnatDispatchRunResult}
    (h : Trail env envelope sink now faLocalCapabilities shardEnrichments log (.ok r) entries) :
    ReturnedTrail env envelope faLocalCapabilities r entries := by
  generalize hr : (.ok r : FaLocalResult GnatDispatchRunResult) = x at h
  cases h with
  | unenriched _ => cases hr
  | unrecorded _ => cases hr
  | refused _ => cases hr
  | @settled outcome event record entries hsettles hrep hp =>
    cases hr
    have hevent : record.event = event := hp.event_eq
    refine ⟨?_, hp.records_eq.symm, record, [], rfl, hevent ▸ hrep, ?_⟩
    · rintro admission shardResults rfl
      exact absurd hsettles (not_settles_dispatched admission shardResults)
    · rw [hp.no_delivery]
      exact .nil
  | @dispatched requests admission event record entries later r hrequests hneg hstate hrep hp
      hrounds =>
    cases r with
    | error e => cases hr
    | ok pushed =>
      cases hr
      have hquiet := hp.no_delivery
      have hevent : record.event = event := hp.event_eq
      refine ⟨fun _ _ _ => ?_, ?_, record, pushed.map Prod.fst, rfl, ?_, ?_⟩
      · rw [GnatWorldEvent.deliveries_append, hquiet, List.nil_append, rounds_all hrounds]
        exact requests_declaredBy hrequests
      · rw [GnatWorldEvent.records_append, hp.records_eq, rounds_records hrounds]
        rfl
      · rw [hneg, posture, hstate, hevent]
        exact hrep
      · rw [GnatWorldEvent.deliveries_append, hquiet, List.nil_append, ← rounds_records hrounds]
        exact rounds_reports hrounds

end

/-- A run calls the shard adapter in order and behind its records, and a run that
dispatches calls it for every declared shard. -/
theorem run_calls_ordered (env : GnatRunEnvironment) (envelope : GnatDispatchEnvelope)
    (sink : Option GnatForensicEventExportAdapter) (now : TimestampUtc)
    (faLocalCapabilities : GnatFaLocalCapabilityState)
    (shardEnrichments : String → Option GnatShardEnrichment) (log : List GnatWorldEvent) :
    ∃ entries,
      (run env envelope sink now faLocalCapabilities shardEnrichments log).2 = log ++ entries ∧
      OrderedCalls env envelope sink faLocalCapabilities shardEnrichments entries ∧
      ∀ r, (run env envelope sink now faLocalCapabilities shardEnrichments log).1 = .ok r →
        ReturnedTrail env envelope faLocalCapabilities r entries := by
  obtain ⟨entries, he, htrail⟩ :=
    @run_trail env envelope sink now faLocalCapabilities shardEnrichments log
  exact ⟨entries, he, trail_ordered htrail, fun r hr => trail_returned (hr ▸ htrail)⟩

end GnatDispatchPipelineService

namespace Fixture

def gnatShard (shardId : String) (ordinal : UInt16) (workerType : GnatWorkerType)
    (sourceRef : String) (digit : Char) : GnatDispatchShard where
  shardId := shardId
  ordinal := ordinal
  workerType := workerType
  sourceRef := sourceRef
  sourceFingerprintDigest := String.ofList (List.replicate 64 digit)
  deadlineMs := 30000

def gnatEnvelope (runId : String) (shards : List GnatDispatchShard) : GnatDispatchEnvelope where
  contractVersion := "GnatDispatchEnvelope.v1"
  correlationId := id .correlation 10
  requesterService := "cortex"
  plan := {
    contractVersion := "GnatRunPlan.v1"
    runId := runId
    planHash := "sha256:" ++ String.ofList (List.replicate 64 'c')
    operation := "syntax_extract"
    expectedReceiptSchema := "gnat-worker-receipt.schema.json"
    shardCount := shards.length.toUInt16
    shards := shards
    executionLimits := ⟨4, 4, 30000⟩
    serialFallbackAllowed := true }
  requiredCapabilities := {
    supportedContractVersions := ["GnatDispatchEnvelope.v1", "GnatRunPlan.v1",
      "GnatWorkerReceipt.v1"]
    workerTypes := [.markdownSyntax, .plainTextSyntax]
    cancellationPolicy := .cancelRemainingShards
    deadlineEnforced := true }
  routePolicy := ⟨true, true, .infrastructureOnly⟩

def twoShards : GnatDispatchEnvelope := gnatEnvelope "gnat-run-fixture-001" [
  gnatShard "gnat-run-fixture-001-shard-0000" 0 .markdownSyntax "chapter-01" 'a',
  gnatShard "gnat-run-fixture-001-shard-0001" 1 .plainTextSyntax "note-plain" 'b']

def gnatEnrichment (localPath : String) : GnatShardEnrichment where
  sourcePathToken := "token"
  mediaType := "text/markdown"
  fingerprintAlgorithm := "sha256"
  fingerprintByteCount := 42
  fingerprintModifiedAt := "2030-01-01T00:00:00Z"
  maxBytes := 20971520
  localPath := localPath

def gnatEnrichments (shardId : String) : Option GnatShardEnrichment :=
  [("gnat-run-fixture-001-shard-0000", gnatEnrichment "/tmp/unused-chapter-01"),
    ("gnat-run-fixture-001-shard-0001", gnatEnrichment "/tmp/unused-note-plain")].lookup shardId

def gnatRun : GnatRunEnvironment where
  utcNow := at2030 600
  freshEventId := fun index => id .forensicEvent index.toUInt8
  deliverShard := fun _ _ =>
    .dispatchUnavailable "no delivery adapter registered for this shard"
  plainChar := fun _ => true

end Fixture

namespace GnatDispatchPipelineService

/-- A run that leaves the shards to Cortex returns and calls no adapter. -/
theorem run_returns_without_calls :
    (run Fixture.gnatRun Fixture.twoShards none (Fixture.at2030 600) .unavailable
        Fixture.gnatEnrichments []).1.toBool = true ∧
      (deliveries (run Fixture.gnatRun Fixture.twoShards none (Fixture.at2030 600) .unavailable
        Fixture.gnatEnrichments []).2).length ≠ Fixture.twoShards.plan.shards.length := by
  decide +kernel

end GnatDispatchPipelineService

end FaLocal
