import FaLocal.GnatDispatch

/-!
# The trail of a Gnat run

What a run leaves behind: its negotiation is recorded before the first shard is
delivered, and every shard is recorded before the next one is.
-/
namespace FaLocal

namespace GnatWorldEvent

def delivery : GnatWorldEvent → Option (GnatShardDispatchRequest × GnatShardDispatchResult)
  | .delivered request result => some (request, result)
  | _ => none

def record : GnatWorldEvent → Option GnatForensicRecordOutcome
  | .recorded record => some record
  | _ => none

/-- The calls of the shard adapter, in order. -/
def deliveries (log : List GnatWorldEvent) :
    List (GnatShardDispatchRequest × GnatShardDispatchResult) :=
  log.filterMap delivery

/-- The records that were kept, in order. -/
def records (log : List GnatWorldEvent) : List GnatForensicRecordOutcome := log.filterMap record

@[simp] theorem deliveries_append (a b : List GnatWorldEvent) :
    deliveries (a ++ b) = deliveries a ++ deliveries b := List.filterMap_append

@[simp] theorem records_append (a b : List GnatWorldEvent) :
    records (a ++ b) = records a ++ records b := List.filterMap_append

end GnatWorldEvent

open GnatWorldEvent (deliveries records)

def GnatReceiptState.serdeName : GnatReceiptState → String
  | .complete => "complete"
  | .denied => "denied"
  | .stale => "stale"
  | .failed => "failed"

def GnatShardDispatchResult.outcome : GnatShardDispatchResult → GnatShardOutcome
  | .completed _ => .completed
  | .notCompleted _ => .notCompleted
  | .dispatchUnavailable _ => .dispatchUnavailable

/-- The receipt that a result carries. -/
def GnatShardDispatchResult.receipt : GnatShardDispatchResult → Option Value
  | .completed receipt => some receipt
  | .notCompleted receipt => some receipt
  | .dispatchUnavailable _ => none

/-- The state that the receipt of a result names. -/
def GnatShardDispatchResult.stateText (result : GnatShardDispatchResult) : Option String :=
  result.receipt.bind GnatDispatchPipelineService.stateText

/-- The fields of a request that the envelope declares. -/
structure DeclaredBy (runId : String) (declared : GnatDispatchShard)
    (request : GnatShardDispatchRequest) : Prop where
  runId : request.runId = runId
  shardId : request.shardId = declared.shardId
  ordinal : request.ordinal.toNat = declared.ordinal.toNat
  workerType : request.workerType = declared.workerType
  sourceRef : request.sourceRef = declared.sourceRef
  digest : request.sourceFingerprint.digest = declared.sourceFingerprintDigest
  deadlineMs : request.deadlineMs = declared.deadlineMs

/-- An event that tells how a run was negotiated. -/
structure ReportsNegotiation (envelope : GnatDispatchEnvelope)
    (negotiationOutcome : GnatNegotiationOutcome) (event : GnatDispatchForensicEvent) :
    Prop where
  eventType : event.eventType = .gnatDispatchNegotiated
  runId : event.runId = envelope.plan.runId
  correlationId : event.correlationId = envelope.correlationId
  negotiationOutcome : event.negotiationOutcome = negotiationOutcome

/-- An event that tells what came of a delivery. -/
structure ReportsShard (envelope : GnatDispatchEnvelope) (shardId : String)
    (result : GnatShardDispatchResult) (event : GnatDispatchForensicEvent) : Prop where
  eventType : event.eventType = .gnatShardDispatched
  runId : event.runId = envelope.plan.runId
  correlationId : event.correlationId = envelope.correlationId
  shardId : event.shardId = some shardId
  shardOutcome : event.shardOutcome = some result.outcome
  receiptState : event.receiptState.map GnatReceiptState.serdeName = result.stateText

/-- A record that went to the sink, if there is one, and carries its reference. -/
def SunkIn (sink : Option GnatForensicEventExportAdapter) (entries : List GnatWorldEvent)
    (record : GnatForensicRecordOutcome) : Prop :=
  match sink with
  | none => record.exportReference = none
  | some _ => ∃ reference, .exported record.event.event (.exported reference) ∈ entries ∧
      record.exportReference = some reference

namespace GnatDispatchForensicEvent

theorem validated_eq_ok {event : GnatDispatchForensicEvent}
    {v : ValidatedGnatDispatchForensicEvent} : event.validated = .ok v ↔ v.event = event := by
  unfold validated
  constructor
  · intro h
    split at h
    · cases h
      rfl
    · cases h
  · rintro rfl
    split
    · rfl
    · rename_i e he
      simp [v.valid] at he

/-- What is built anew is the event itself, if it is valid. -/
theorem new_validated_eq_ok {event : GnatDispatchForensicEvent}
    {v : ValidatedGnatDispatchForensicEvent} :
    (do let event ← GnatDispatchForensicEvent.new event; event.validated) = .ok v ↔
      v.event = event := by
  simp only [GnatDispatchForensicEvent.new, bind_assoc, pure_bind, seq_eq_ok, validated_eq_ok,
    and_iff_right_iff_imp]
  rintro rfl
  exact v.valid

end GnatDispatchForensicEvent

namespace GnatDispatchPipelineService

theorem receiptStateFromReceipt_eq_ok {plainChar : Char → Bool} {receipt : Value}
    {state : GnatReceiptState} :
    receiptStateFromReceipt plainChar receipt = .ok state ↔
      stateText receipt = some state.serdeName := by
  rw [receiptStateFromReceipt]
  split <;> rename_i h <;> rw [h] <;> cases state <;> simp_all [GnatReceiptState.serdeName]

/-- A receipt must name one of the four states. -/
theorem shardReport_eq_ok {plainChar : Char → Bool} {result : GnatShardDispatchResult}
    {report : GnatShardOutcome × Option GnatReceiptState} :
    shardReport plainChar result = .ok report ↔
      report.1 = result.outcome ∧ report.2.isSome = result.receipt.isSome ∧
        report.2.map GnatReceiptState.serdeName = result.stateText := by
  have hreceipt : ∀ (receipt : Value) (outcome : GnatShardOutcome),
      (do let state ← receiptStateFromReceipt plainChar receipt
          return (outcome, some state)) = .ok report ↔
        report.1 = outcome ∧ report.2.isSome = true ∧
          report.2.map GnatReceiptState.serdeName = stateText receipt := by
    intro receipt outcome
    constructor
    · intro h
      cases hs : receiptStateFromReceipt plainChar receipt with
      | error e =>
        rw [hs] at h
        cases h
      | ok state =>
        rw [hs] at h
        cases h
        exact ⟨rfl, rfl, (receiptStateFromReceipt_eq_ok.mp hs).symm⟩
    · obtain ⟨o, receiptState⟩ := report
      rintro ⟨rfl, hsome, hs⟩
      cases receiptState with
      | none => cases hsome
      | some state => rw [receiptStateFromReceipt_eq_ok.mpr hs.symm]; rfl
  cases result with
  | completed receipt => exact hreceipt receipt .completed
  | notCompleted receipt => exact hreceipt receipt .notCompleted
  | dispatchUnavailable summary =>
    obtain ⟨o, receiptState⟩ := report
    cases receiptState <;> simp [shardReport, pure, Except.pure, GnatShardDispatchResult.outcome,
      GnatShardDispatchResult.receipt, GnatShardDispatchResult.stateText, eq_comm]

/-! ## Events -/

section
variable {env : GnatRunEnvironment} {envelope : GnatDispatchEnvelope} {now : TimestampUtc}
  {v : ValidatedGnatDispatchForensicEvent}

theorem buildNegotiationEvent_reports {freshEventId : ForensicEventId}
    {negotiationOutcome : GnatNegotiationOutcome} {summary : String}
    (h : buildNegotiationEvent freshEventId envelope negotiationOutcome summary now = .ok v) :
    ReportsNegotiation envelope negotiationOutcome v.event := by
  rw [buildNegotiationEvent, GnatDispatchForensicEvent.new_validated_eq_ok] at h
  rw [h]
  exact ⟨rfl, rfl, rfl, rfl⟩

theorem buildShardEvent_reports {freshEventId : ForensicEventId} {plainChar : Char → Bool}
    {request : GnatShardDispatchRequest} {result : GnatShardDispatchResult}
    (h : buildShardEvent plainChar freshEventId envelope request result now = .ok v) :
    ReportsShard envelope request.shardId result v.event := by
  rw [buildShardEvent] at h
  cases hr : shardReport plainChar result with
  | error e =>
    rw [hr] at h
    cases h
  | ok report =>
    rw [hr] at h
    have hv := GnatDispatchForensicEvent.new_validated_eq_ok.mp h
    obtain ⟨houtcome, -, hstate⟩ := shardReport_eq_ok.mp hr
    rw [hv]
    exact ⟨rfl, rfl, rfl, rfl, congrArg some houtcome, hstate⟩

/-- What keeping an event appends: its export, if there is a sink, and the record. -/
inductive Pushed (sink : Option GnatForensicEventExportAdapter)
    (event : ValidatedGnatDispatchForensicEvent) :
    FaLocalResult GnatForensicRecordOutcome → List GnatWorldEvent → Prop where
  | kept : sink = none → Pushed sink event (.ok ⟨event, none⟩) [.recorded ⟨event, none⟩]
  | sunk (reference : String) : sink.isSome = true → Pushed sink event
      (.ok ⟨event, some reference⟩)
      [.exported event.event (.exported reference), .recorded ⟨event, some reference⟩]
  | refused (answer : ForensicExportResult) (error : Abort) : sink.isSome = true →
      Pushed sink event (.error error) [.exported event.event answer]

theorem pushForensicEvent_pushed (event : ValidatedGnatDispatchForensicEvent)
    (sink : Option GnatForensicEventExportAdapter) (log : List GnatWorldEvent) :
    ∃ entries, (pushForensicEvent event sink log).2 = log ++ entries ∧
      Pushed sink event (pushForensicEvent event sink log).1 entries := by
  cases sink with
  | none => exact ⟨_, rfl, .kept rfl⟩
  | some adapter =>
    simp only [pushForensicEvent, recordForensicEvent, bind_assoc]
    rw [Traced.bind_of_ok (Traced.perform_apply _ _)]
    cases hm : ForensicService.mapExportResult adapter.adapterId
        (adapter.exportEvent log event.event) with
    | error e => exact ⟨_, rfl, .refused _ e rfl⟩
    | ok receipt =>
      refine ⟨_, (List.append_assoc _ _ _), ?_⟩
      rw [ForensicService.mapExportResult_eq_ok hm]
      exact .sunk receipt.exportReference rfl

theorem Pushed.no_delivery {sink : Option GnatForensicEventExportAdapter}
    {r : FaLocalResult GnatForensicRecordOutcome} {entries : List GnatWorldEvent}
    (h : Pushed sink v r entries) : deliveries entries = [] := by
  cases h <;> rfl

theorem Pushed.records_eq {sink : Option GnatForensicEventExportAdapter}
    {record : GnatForensicRecordOutcome} {entries : List GnatWorldEvent}
    (h : Pushed sink v (.ok record) entries) : records entries = [record] := by
  cases h <;> rfl

theorem Pushed.event_eq {sink : Option GnatForensicEventExportAdapter}
    {record : GnatForensicRecordOutcome} {entries : List GnatWorldEvent}
    (h : Pushed sink v (.ok record) entries) : record.event = v := by
  cases h <;> rfl

theorem Pushed.sunkIn {sink : Option GnatForensicEventExportAdapter}
    {record : GnatForensicRecordOutcome} {entries : List GnatWorldEvent}
    (h : Pushed sink v (.ok record) entries) : SunkIn sink entries record := by
  cases h with
  | kept hsink =>
    subst hsink
    rfl
  | sunk reference hsink =>
    obtain ⟨adapter, rfl⟩ := Option.isSome_iff_exists.mp hsink
    exact ⟨reference, by simp, rfl⟩

end

/-! ## Rounds -/

section
variable (env : GnatRunEnvironment) (envelope : GnatDispatchEnvelope)
  (sink : Option GnatForensicEventExportAdapter) (now : TimestampUtc)

/-- One turn of the loop: the delivery, and what comes of its event. -/
inductive Round (log : List GnatWorldEvent) (request : GnatShardDispatchRequest) :
    FaLocalResult (GnatForensicRecordOutcome × String × GnatShardDispatchResult) →
      List GnatWorldEvent → Prop where
  | served {index : Nat} {event : ValidatedGnatDispatchForensicEvent}
      {record : GnatForensicRecordOutcome} {tail : List GnatWorldEvent} :
      buildShardEvent env.plainChar (env.freshEventId index) envelope request
        (env.deliverShard log request) now = .ok event →
      Pushed sink event (.ok record) tail →
      Round log request (.ok (record, request.shardId, env.deliverShard log request))
        (.delivered request (env.deliverShard log request) :: tail)
  | unreported {index : Nat} {error : Abort} :
      buildShardEvent env.plainChar (env.freshEventId index) envelope request
        (env.deliverShard log request) now = .error error →
      Round log request (.error error) [.delivered request (env.deliverShard log request)]
  | refused {event : ValidatedGnatDispatchForensicEvent} {error : Abort}
      {tail : List GnatWorldEvent} : Pushed sink event (.error error) tail →
      Round log request (.error error)
        (.delivered request (env.deliverShard log request) :: tail)

theorem dispatchShard_round (index : Nat) (request : GnatShardDispatchRequest)
    (log : List GnatWorldEvent) :
    ∃ entries, (dispatchShard env envelope sink now index request log).2 = log ++ entries ∧
      Round env envelope sink now log request
        (dispatchShard env envelope sink now index request log).1 entries := by
  rw [dispatchShard, Traced.bind_of_ok (Traced.perform_apply _ _)]
  cases he : buildShardEvent env.plainChar (env.freshEventId index) envelope request
      (env.deliverShard log request) now with
  | error e => exact ⟨_, rfl, .unreported he⟩
  | ok event =>
    obtain ⟨tail, ht, hp⟩ := pushForensicEvent_pushed event sink
      (log ++ [.delivered request (env.deliverShard log request)])
    rw [Traced.lift_ok_bind, Traced.bind_apply]
    cases hpush : pushForensicEvent event sink
        (log ++ [.delivered request (env.deliverShard log request)]) with
    | mk r out =>
      rw [hpush] at ht hp
      have hout : out = log ++ (.delivered request (env.deliverShard log request) :: tail) := by
        simpa using ht
      cases r with
      | error e => exact ⟨_, hout, .refused hp⟩
      | ok record => exact ⟨_, hout, .served he hp⟩

variable {env envelope sink now}

theorem Round.shape {log : List GnatWorldEvent} {request : GnatShardDispatchRequest}
    {r : FaLocalResult (GnatForensicRecordOutcome × String × GnatShardDispatchResult)}
    {entries : List GnatWorldEvent} (h : Round env envelope sink now log request r entries) :
    ∃ tail, entries = .delivered request (env.deliverShard log request) :: tail ∧
      deliveries tail = [] := by
  cases h with
  | served _ hp => exact ⟨_, rfl, hp.no_delivery⟩
  | unreported _ => exact ⟨[], rfl, rfl⟩
  | refused hp => exact ⟨_, rfl, hp.no_delivery⟩

theorem Round.deliveries_eq {log : List GnatWorldEvent} {request : GnatShardDispatchRequest}
    {r : FaLocalResult (GnatForensicRecordOutcome × String × GnatShardDispatchResult)}
    {entries : List GnatWorldEvent} (h : Round env envelope sink now log request r entries) :
    deliveries entries = [(request, env.deliverShard log request)] := by
  obtain ⟨tail, rfl, ht⟩ := h.shape
  change _ :: deliveries tail = _
  rw [ht]

theorem Round.reports {log : List GnatWorldEvent} {request : GnatShardDispatchRequest}
    {pushed : GnatForensicRecordOutcome × String × GnatShardDispatchResult}
    {entries : List GnatWorldEvent}
    (h : Round env envelope sink now log request (.ok pushed) entries) :
    pushed.2 = (request.shardId, env.deliverShard log request) ∧
      records entries = [pushed.1] ∧
      ReportsShard envelope request.shardId (env.deliverShard log request) pushed.1.event.event := by
  cases h with
  | served he hp =>
    refine ⟨rfl, hp.records_eq, ?_⟩
    rw [hp.event_eq]
    exact buildShardEvent_reports he

end

/-! ## Runs -/

/-- The outcome under which a negotiation is recorded. -/
def posture : Except DenialGuard GnatDispatchAdmission → GnatNegotiationOutcome
  | .error _ => .denied
  | .ok admission =>
    match admission.state with
    | .serialFallbackPermitted => .serialFallbackPermitted
    | .readyForFaLocalDispatch => .readyForFaLocalDispatch

/-- The outcome of a run that delivers nothing. -/
inductive Settles : Except DenialGuard GnatDispatchAdmission → GnatDispatchRunOutcome → Prop where
  | denied (denial : DenialGuard) : Settles (.error denial) (.denied denial)
  | serialFallback (admission : GnatDispatchAdmission) :
      admission.state = .serialFallbackPermitted →
      Settles (.ok admission) (.serialFallbackPermitted admission)

section
variable (env : GnatRunEnvironment) (envelope : GnatDispatchEnvelope)
  (sink : Option GnatForensicEventExportAdapter) (now : TimestampUtc)
  (faLocalCapabilities : GnatFaLocalCapabilityState)
  (shardEnrichments : String → Option GnatShardEnrichment)

/-- How a run can go that finds a log. -/
inductive Trail (log : List GnatWorldEvent) :
    FaLocalResult GnatDispatchRunResult → List GnatWorldEvent → Prop where
  | unenriched {error : Abort} : buildShardRequests envelope shardEnrichments = .error error →
      Trail log (.error error) []
  | unrecorded {negotiationOutcome : GnatNegotiationOutcome} {summary : String} {error : Abort} :
      buildNegotiationEvent (env.freshEventId 0) envelope negotiationOutcome summary now =
        .error error →
      Trail log (.error error) []
  | refused {event : ValidatedGnatDispatchForensicEvent} {error : Abort}
      {entries : List GnatWorldEvent} : Pushed sink event (.error error) entries →
      Trail log (.error error) entries
  | settled {outcome : GnatDispatchRunOutcome} {event : ValidatedGnatDispatchForensicEvent}
      {record : GnatForensicRecordOutcome} {entries : List GnatWorldEvent} :
      Settles (GnatDispatchValidator.negotiate env.utcNow envelope faLocalCapabilities) outcome →
      ReportsNegotiation envelope
        (posture (GnatDispatchValidator.negotiate env.utcNow envelope faLocalCapabilities))
        event.event →
      Pushed sink event (.ok record) entries →
      Trail log (.ok { outcome := outcome, forensicEvents := [record] }) entries
  | dispatched {requests : List GnatShardDispatchRequest} {admission : GnatDispatchAdmission}
      {event : ValidatedGnatDispatchForensicEvent} {record : GnatForensicRecordOutcome}
      {entries later : List GnatWorldEvent}
      {r : FaLocalResult (List (GnatForensicRecordOutcome × String × GnatShardDispatchResult))} :
      buildShardRequests envelope shardEnrichments = .ok requests →
      GnatDispatchValidator.negotiate env.utcNow envelope faLocalCapabilities = .ok admission →
      admission.state = .readyForFaLocalDispatch →
      ReportsNegotiation envelope .readyForFaLocalDispatch event.event →
      Pushed sink event (.ok record) entries →
      Traced.Rounds (Round env envelope sink now) (log ++ entries) requests r later →
      Trail log (r.map fun pushed =>
        { outcome := .dispatched admission (pushed.map Prod.snd),
          forensicEvents := record :: pushed.map Prod.fst }) (entries ++ later)

variable {env envelope sink now faLocalCapabilities shardEnrichments}

/-- A negotiation is recorded before anything else happens. -/
theorem pushNegotiationEvent_bind {β : Type} {log : List GnatWorldEvent}
    {negotiationOutcome : GnatNegotiationOutcome} {summary : String}
    {P : FaLocalResult β → List GnatWorldEvent → Prop}
    {rest : GnatForensicRecordOutcome → GnatTraced β}
    (unrecorded : ∀ error, buildNegotiationEvent (env.freshEventId 0) envelope negotiationOutcome
      summary now = .error error → P (.error error) [])
    (refused : ∀ event error entries, Pushed sink event (.error error) entries →
      P (.error error) entries)
    (pushed : ∀ event record entries, ReportsNegotiation envelope negotiationOutcome event.event →
      Pushed sink event (.ok record) entries →
      ∃ later, (rest record (log ++ entries)).2 = log ++ (entries ++ later) ∧
        P (rest record (log ++ entries)).1 (entries ++ later)) :
    ∃ entries,
      ((pushNegotiationEvent env envelope sink now negotiationOutcome summary >>= rest) log).2 =
        log ++ entries ∧
      P ((pushNegotiationEvent env envelope sink now negotiationOutcome summary >>= rest) log).1
        entries := by
  rw [pushNegotiationEvent, bind_assoc]
  cases he : buildNegotiationEvent (env.freshEventId 0) envelope negotiationOutcome summary now with
  | error e => exact ⟨[], by simp, unrecorded e he⟩
  | ok event =>
    rw [Traced.lift_ok_bind]
    obtain ⟨entries, hout, hp⟩ := pushForensicEvent_pushed event sink log
    cases hpush : pushForensicEvent event sink log with
    | mk r out =>
      rw [hpush] at hout hp
      cases r with
      | error e =>
        rw [Traced.bind_of_error hpush]
        exact ⟨entries, hout, refused event e entries hp⟩
      | ok record =>
        have hmid : out = log ++ entries := hout
        rw [Traced.bind_of_ok hpush, hmid]
        obtain ⟨later, hl⟩ :=
          pushed event record entries (buildNegotiationEvent_reports he) hp
        exact ⟨entries ++ later, hl⟩

/-- Every run goes one of these ways. -/
theorem run_trail (log : List GnatWorldEvent) :
    ∃ entries, (run env envelope sink now faLocalCapabilities shardEnrichments log).2 =
        log ++ entries ∧
      Trail env envelope sink now faLocalCapabilities shardEnrichments log
        (run env envelope sink now faLocalCapabilities shardEnrichments log).1 entries := by
  rw [run]
  cases hrequests : buildShardRequests envelope shardEnrichments with
  | error e => exact ⟨[], by simp, .unenriched hrequests⟩
  | ok requests =>
    rw [Traced.lift_ok_bind]
    cases hneg : GnatDispatchValidator.negotiate env.utcNow envelope faLocalCapabilities with
    | error denial =>
      refine pushNegotiationEvent_bind (fun e he => .unrecorded he)
        (fun event e entries hp => .refused hp) fun event record entries hrep hp =>
          ⟨[], by simp, ?_⟩
      rw [List.append_nil]
      exact .settled (by rw [hneg]; exact .denied denial) (by rw [hneg]; exact hrep) hp
    | ok admission =>
      cases hstate : admission.state with
      | serialFallbackPermitted =>
        simp only [hstate]
        refine pushNegotiationEvent_bind (fun e he => .unrecorded he)
          (fun event e entries hp => .refused hp) fun event record entries hrep hp =>
            ⟨[], by simp, ?_⟩
        rw [List.append_nil]
        refine .settled (by rw [hneg]; exact .serialFallback admission hstate) ?_ hp
        rw [hneg, posture, hstate]
        exact hrep
      | readyForFaLocalDispatch =>
        simp only [hstate]
        refine pushNegotiationEvent_bind (fun e he => .unrecorded he)
          (fun event e entries hp => .refused hp) fun event record entries hrep hp => ?_
        obtain ⟨later, hl, hrounds⟩ := Traced.eachFrom_rounds
          (dispatchShard_round env envelope sink now) 1 requests (log ++ entries)
        refine ⟨later, ?_⟩
        have htrail := Trail.dispatched hrequests hneg hstate hrep hp hrounds
        rw [Traced.bind_apply]
        cases hloop : Traced.eachFrom (dispatchShard env envelope sink now) 1 requests
            (log ++ entries) with
        | mk r out =>
          rw [hloop] at hl htrail
          have hout : out = log ++ (entries ++ later) := by rw [← List.append_assoc]; exact hl
          cases r with
          | error e => exact ⟨hout, htrail⟩
          | ok pushed => exact ⟨hout, htrail⟩

end

end GnatDispatchPipelineService

end FaLocal
