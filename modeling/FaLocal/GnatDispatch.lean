import FaLocal.GnatAdmission
import FaLocal.Library.Rounds
import FaLocal.Pipeline

/-!
# Dispatch of Gnat shards

Requests to and results of the shard adapter, the forensic events of a Gnat run,
and `GnatDispatchPipelineService::run`. The adapters, the clock behind denials and
fresh event identifiers are parameters; an adapter may answer by all that has
happened before.
-/
namespace FaLocal

/-! ## Shards -/

structure GnatSourceFingerprint where
  algorithm : String
  digest : String
  byteCount : UInt64
  modifiedAt : String
  deriving DecidableEq

structure GnatShardEnrichment where
  sourcePathToken : String
  mediaType : String
  fingerprintAlgorithm : String
  fingerprintByteCount : UInt64
  fingerprintModifiedAt : String
  maxBytes : UInt64
  localPath : String
  deriving DecidableEq

structure GnatShardDispatchRequest where
  runId : String
  shardId : String
  ordinal : UInt32
  workerType : GnatWorkerType
  sourceRef : String
  sourcePathToken : String
  mediaType : String
  sourceFingerprint : GnatSourceFingerprint
  deadlineMs : UInt64
  maxBytes : UInt64
  localPath : String
  deriving DecidableEq

def GnatShardDispatchRequest.fromDeclaredShard (runId : String) (declared : GnatDispatchShard)
    (enrichment : GnatShardEnrichment) : GnatShardDispatchRequest where
  runId := runId
  shardId := declared.shardId
  ordinal := declared.ordinal.toUInt32
  workerType := declared.workerType
  sourceRef := declared.sourceRef
  sourcePathToken := enrichment.sourcePathToken
  mediaType := enrichment.mediaType
  sourceFingerprint := {
    algorithm := enrichment.fingerprintAlgorithm
    digest := declared.sourceFingerprintDigest
    byteCount := enrichment.fingerprintByteCount
    modifiedAt := enrichment.fingerprintModifiedAt }
  deadlineMs := declared.deadlineMs
  maxBytes := enrichment.maxBytes
  localPath := enrichment.localPath

inductive GnatShardDispatchResult where
  | completed (receipt : Value)
  | notCompleted (receipt : Value)
  | dispatchUnavailable (summary : String)

/-! ## Forensic events -/

inductive GnatForensicEventType where
  | gnatDispatchNegotiated | gnatShardDispatched
  deriving DecidableEq

inductive GnatNegotiationOutcome where
  | denied | serialFallbackPermitted | readyForFaLocalDispatch
  deriving DecidableEq

inductive GnatShardOutcome where
  | completed | notCompleted | dispatchUnavailable
  deriving DecidableEq

inductive GnatReceiptState where
  | complete | denied | stale | failed
  deriving DecidableEq

inductive GnatForensicRedactionLevel where
  | none | sensitiveFieldsRedacted | linkageOnly
  deriving DecidableEq

structure GnatDispatchForensicEvent where
  forensicEventId : ForensicEventId
  correlationId : CorrelationId
  runId : String
  eventType : GnatForensicEventType
  negotiationOutcome : GnatNegotiationOutcome
  shardId : Option String
  workerType : Option GnatWorkerType
  shardOutcome : Option GnatShardOutcome
  receiptState : Option GnatReceiptState
  timestampUtc : TimestampUtc
  summary : String
  redactionLevel : GnatForensicRedactionLevel
  payloadMinimized : Bool
  deriving DecidableEq

namespace GnatDispatchForensicEvent

def requireNone {β : Type} (value : Option β) (field : String) : FaLocalResult Unit :=
  require value.isNone ("gnat_dispatch_negotiated forensic event must not include " ++ field)

def requireSome {β : Type} (value : Option β) (field : String) : FaLocalResult β :=
  match value with
  | some b => .ok b
  | none => .error (contractInvalid ("gnat_shard_dispatched forensic event must include " ++ field))

/-- The summary is bounded in characters and the run in bytes. -/
def validate (event : GnatDispatchForensicEvent) : FaLocalResult Unit := do
  require (!event.summary.isEmpty && event.summary.toList.length ≤ 160)
    "gnat dispatch forensic event summary must be between 1 and 160 characters"
  require (!event.runId.isEmpty && event.runId.utf8ByteSize ≤ 120)
    "gnat dispatch forensic event run_id must be between 1 and 120 characters"
  require event.payloadMinimized
    "gnat dispatch forensic event payload_minimized must remain true for bounded forensics"
  match event.eventType with
  | .gnatDispatchNegotiated => do
    requireNone event.shardId "shard_id"
    requireNone event.workerType "worker_type"
    requireNone event.shardOutcome "shard_outcome"
    requireNone event.receiptState "receipt_state"
  | .gnatShardDispatched => do
    require (event.negotiationOutcome == .readyForFaLocalDispatch)
      ("gnat_shard_dispatched forensic event requires negotiation_outcome " ++
        "ready_for_fa_local_dispatch")
    let _ ← requireSome event.shardId "shard_id"
    let _ ← requireSome event.workerType "worker_type"
    let shardOutcome ← requireSome event.shardOutcome "shard_outcome"
    match shardOutcome with
    | .dispatchUnavailable =>
      require event.receiptState.isNone
        ("dispatch_unavailable gnat_shard_dispatched forensic event must not include " ++
          "receipt_state")
    | .completed | .notCompleted => do
      let _ ← requireSome event.receiptState "receipt_state"
      return ()

end GnatDispatchForensicEvent

structure ValidatedGnatDispatchForensicEvent where
  event : GnatDispatchForensicEvent
  valid : event.validate = .ok ()

namespace GnatDispatchForensicEvent

def validated (event : GnatDispatchForensicEvent) :
    FaLocalResult ValidatedGnatDispatchForensicEvent :=
  match h : event.validate with
  | .ok () => .ok ⟨event, h⟩
  | .error e => .error e

/-- `GnatDispatchForensicEvent::new` -/
def new (event : GnatDispatchForensicEvent) : FaLocalResult GnatDispatchForensicEvent := do
  event.validate
  return event

end GnatDispatchForensicEvent

/-! ## Runs -/

inductive GnatDispatchRunOutcome where
  | denied (denial : DenialGuard)
  | serialFallbackPermitted (admission : GnatDispatchAdmission)
  | dispatched (admission : GnatDispatchAdmission)
      (shardResults : List (String × GnatShardDispatchResult))

structure GnatForensicRecordOutcome where
  event : ValidatedGnatDispatchForensicEvent
  exportReference : Option String

structure GnatDispatchRunResult where
  outcome : GnatDispatchRunOutcome
  forensicEvents : List GnatForensicRecordOutcome

/-- A call of the shard adapter with its result, an export call with its answer, or
a record that was kept. -/
inductive GnatWorldEvent where
  | delivered (request : GnatShardDispatchRequest) (result : GnatShardDispatchResult)
  | exported (event : GnatDispatchForensicEvent) (answer : ForensicExportResult)
  | recorded (record : GnatForensicRecordOutcome)

/-- `GnatForensicEventExportAdapter` -/
structure GnatForensicEventExportAdapter where
  adapterId : String
  exportEvent : List GnatWorldEvent → GnatDispatchForensicEvent → ForensicExportResult

/-- What a run takes from outside besides its arguments; `plainChar` tells the characters
that are printed as they are when a text is quoted. -/
structure GnatRunEnvironment where
  utcNow : TimestampUtc
  freshEventId : Nat → ForensicEventId
  deliverShard : List GnatWorldEvent → GnatShardDispatchRequest → GnatShardDispatchResult
  plainChar : Char → Bool

abbrev GnatTraced (β : Type) : Type := Traced GnatWorldEvent Abort β

namespace GnatDispatchPipelineService

def recordForensicEvent (event : ValidatedGnatDispatchForensicEvent)
    (exportAdapter : Option GnatForensicEventExportAdapter) :
    GnatTraced GnatForensicRecordOutcome :=
  match exportAdapter with
  | some adapter => do
    let answer ← Traced.perform fun log =>
      (.exported event.event (adapter.exportEvent log event.event),
        adapter.exportEvent log event.event)
    let receipt ← Traced.lift (ForensicService.mapExportResult adapter.adapterId answer)
    return { event := event, exportReference := some receipt.exportReference }
  | none => return { event := event, exportReference := none }

/-- `forensic_events.push(record_forensic_event(event, adapter)?)` -/
def pushForensicEvent (event : ValidatedGnatDispatchForensicEvent)
    (exportAdapter : Option GnatForensicEventExportAdapter) :
    GnatTraced GnatForensicRecordOutcome := do
  let record ← recordForensicEvent event exportAdapter
  Traced.emit [.recorded record]
  return record

def buildShardRequests (envelope : GnatDispatchEnvelope)
    (shardEnrichments : String → Option GnatShardEnrichment) :
    FaLocalResult (List GnatShardDispatchRequest) :=
  envelope.plan.shards.mapM fun declared =>
    match shardEnrichments declared.shardId with
    | some enrichment => .ok
        (GnatShardDispatchRequest.fromDeclaredShard envelope.plan.runId declared enrichment)
    | none => .error (contractInvalid
        ("no shard enrichment supplied for declared shard " ++ declared.shardId))

def boundedSummary (text : String) : String :=
  if text.isEmpty then "(no summary provided)"
  else if text.toList.length ≤ 160 then text
  else String.ofList (text.toList.take 159 ++ ['…'])

theorem boundedSummary_fits (text : String) :
    (boundedSummary text).isEmpty = false ∧ (boundedSummary text).toList.length ≤ 160 := by
  rw [boundedSummary]
  split
  · exact ⟨by decide, by decide⟩
  · rename_i hne
    split
    · rename_i hle
      exact ⟨by simpa using hne, hle⟩
    · constructor
      · rw [Bool.eq_false_iff, ne_eq, String.isEmpty_iff, ← String.toList_inj, String.toList_ofList]
        simp
      · rw [String.toList_ofList, List.length_append, List.length_take]
        simp only [List.length_cons, List.length_nil]
        omega

def buildNegotiationEvent (freshEventId : ForensicEventId) (envelope : GnatDispatchEnvelope)
    (negotiationOutcome : GnatNegotiationOutcome) (summary : String) (now : TimestampUtc) :
    FaLocalResult ValidatedGnatDispatchForensicEvent := do
  let event ← GnatDispatchForensicEvent.new {
    forensicEventId := freshEventId
    correlationId := envelope.correlationId
    runId := envelope.plan.runId
    eventType := .gnatDispatchNegotiated
    negotiationOutcome := negotiationOutcome
    shardId := none
    workerType := none
    shardOutcome := none
    receiptState := none
    timestampUtc := now
    summary := boundedSummary summary
    redactionLevel := .linkageOnly
    payloadMinimized := true }
  event.validated

/-- `receipt.get("state").and_then(Value::as_str)` -/
def stateText (receipt : Value) : Option String :=
  match receipt.get "state" with
  | some (.string state) => some state
  | _ => none

def receiptStateFromReceipt (plainChar : Char → Bool) (receipt : Value) :
    FaLocalResult GnatReceiptState :=
  match stateText receipt with
  | none => .error (contractInvalid "Cortex Gnat receipt missing state field")
  | some "complete" => .ok .complete
  | some "denied" => .ok .denied
  | some "stale" => .ok .stale
  | some "failed" => .ok .failed
  | some other => .error (contractInvalid
      ("Cortex Gnat receipt reported an unrecognized state " ++ debugString plainChar other))

def shardEventSummary (request : GnatShardDispatchRequest) :
    GnatShardDispatchResult → String
  | .completed _ => "Cortex Gnat shard " ++ request.shardId ++ " completed."
  | .notCompleted receipt => "Cortex Gnat shard " ++ request.shardId ++ " did not complete (" ++
      (stateText receipt).getD "unknown" ++ ")."
  | .dispatchUnavailable summary => summary

/-- The outcome and the receipt state that a shard event reports. -/
def shardReport (plainChar : Char → Bool) :
    GnatShardDispatchResult → FaLocalResult (GnatShardOutcome × Option GnatReceiptState)
  | .completed receipt => do
    let state ← receiptStateFromReceipt plainChar receipt
    return (.completed, some state)
  | .notCompleted receipt => do
    let state ← receiptStateFromReceipt plainChar receipt
    return (.notCompleted, some state)
  | .dispatchUnavailable _ => return (.dispatchUnavailable, none)

def buildShardEvent (plainChar : Char → Bool) (freshEventId : ForensicEventId)
    (envelope : GnatDispatchEnvelope) (request : GnatShardDispatchRequest)
    (result : GnatShardDispatchResult) (now : TimestampUtc) :
    FaLocalResult ValidatedGnatDispatchForensicEvent := do
  let (shardOutcome, receiptState) ← shardReport plainChar result
  let event ← GnatDispatchForensicEvent.new {
    forensicEventId := freshEventId
    correlationId := envelope.correlationId
    runId := envelope.plan.runId
    eventType := .gnatShardDispatched
    negotiationOutcome := .readyForFaLocalDispatch
    shardId := some request.shardId
    workerType := some request.workerType
    shardOutcome := some shardOutcome
    receiptState := receiptState
    timestampUtc := now
    summary := boundedSummary (shardEventSummary request result)
    redactionLevel := .linkageOnly
    payloadMinimized := true }
  event.validated

section
variable (env : GnatRunEnvironment) (envelope : GnatDispatchEnvelope)
  (forensicExportAdapter : Option GnatForensicEventExportAdapter) (now : TimestampUtc)

def pushNegotiationEvent (negotiationOutcome : GnatNegotiationOutcome) (summary : String) :
    GnatTraced GnatForensicRecordOutcome := do
  let event ← Traced.lift
    (buildNegotiationEvent (env.freshEventId 0) envelope negotiationOutcome summary now)
  pushForensicEvent event forensicExportAdapter

/-- The body of the loop over the shard requests, with what it pushes on the events and
on the results; `index` counts the events drawn so far. -/
def dispatchShard (index : Nat) (request : GnatShardDispatchRequest) :
    GnatTraced (GnatForensicRecordOutcome × String × GnatShardDispatchResult) := do
  let result ← Traced.perform fun log =>
    (.delivered request (env.deliverShard log request), env.deliverShard log request)
  let event ← Traced.lift
    (buildShardEvent env.plainChar (env.freshEventId index) envelope request result now)
  let record ← pushForensicEvent event forensicExportAdapter
  return (record, request.shardId, result)

def run (faLocalCapabilities : GnatFaLocalCapabilityState)
    (shardEnrichments : String → Option GnatShardEnrichment) :
    GnatTraced GnatDispatchRunResult := do
  let shardRequests ← Traced.lift (buildShardRequests envelope shardEnrichments)
  match GnatDispatchValidator.negotiate env.utcNow envelope faLocalCapabilities with
  | .error denial => do
    let record ← pushNegotiationEvent env envelope forensicExportAdapter now .denied
      denial.summary
    return { outcome := .denied denial, forensicEvents := [record] }
  | .ok admission =>
    match admission.state with
    | .serialFallbackPermitted => do
      let record ← pushNegotiationEvent env envelope forensicExportAdapter now
        .serialFallbackPermitted admission.operatorVisibleSummary
      return { outcome := .serialFallbackPermitted admission, forensicEvents := [record] }
    | .readyForFaLocalDispatch => do
      let record ← pushNegotiationEvent env envelope forensicExportAdapter now
        .readyForFaLocalDispatch admission.operatorVisibleSummary
      let pushed ← Traced.eachFrom
        (dispatchShard env envelope forensicExportAdapter now) 1 shardRequests
      return { outcome := .dispatched admission (pushed.map Prod.snd),
               forensicEvents := record :: pushed.map Prod.fst }

end

end GnatDispatchPipelineService

end FaLocal
