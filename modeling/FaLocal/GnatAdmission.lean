import FaLocal.Vocabulary

/-!
# Admission of Gnat runs

The dispatch envelope of Cortex, the capabilities that FA Local brings to it, and
`GnatDispatchValidator`, which negotiates between them.
-/
namespace FaLocal

/-- In the declared order, which is the order of the worker types. -/
inductive GnatWorkerType where
  | markdownSyntax | plainTextSyntax | pdfTextSyntax | docxTextSyntax | rtfTextSyntax
  | odtTextSyntax | epubTextSyntax
  deriving DecidableEq

inductive GnatCancellationPolicy where
  | cancelRemainingShards | finishInFlightOnly
  deriving DecidableEq

inductive GnatRetryPolicy where
  | none | infrastructureOnly
  deriving DecidableEq

inductive GnatFaLocalState where
  | ready | degraded | unavailable
  deriving DecidableEq

structure GnatDispatchShard where
  shardId : String
  ordinal : UInt16
  workerType : GnatWorkerType
  sourceRef : String
  sourceFingerprintDigest : String
  deadlineMs : UInt64
  deriving DecidableEq

structure GnatExecutionLimits where
  requestedConcurrency : UInt8
  maxConcurrency : UInt8
  deadlineMs : UInt64
  deriving DecidableEq

structure GnatDispatchPlan where
  contractVersion : String
  runId : String
  planHash : String
  operation : String
  expectedReceiptSchema : String
  shardCount : UInt16
  shards : List GnatDispatchShard
  executionLimits : GnatExecutionLimits
  serialFallbackAllowed : Bool
  deriving DecidableEq

structure GnatRequiredCapabilities where
  supportedContractVersions : List String
  workerTypes : List GnatWorkerType
  cancellationPolicy : GnatCancellationPolicy
  deadlineEnforced : Bool
  deriving DecidableEq

structure GnatRoutePolicy where
  faLocalOwnsExecutionRouting : Bool
  cortexValidatesReceipts : Bool
  retryPolicy : GnatRetryPolicy
  deriving DecidableEq

structure GnatDispatchEnvelope where
  contractVersion : String
  correlationId : CorrelationId
  requesterService : String
  plan : GnatDispatchPlan
  requiredCapabilities : GnatRequiredCapabilities
  routePolicy : GnatRoutePolicy
  deriving DecidableEq

structure GnatFaLocalCapabilityState where
  faLocalState : GnatFaLocalState
  supportedContractVersions : List String
  admittedWorkerTypes : List GnatWorkerType
  maxConcurrency : UInt8
  cancellationSupported : Bool
  deriving DecidableEq

namespace GnatFaLocalCapabilityState

def readyDefault : GnatFaLocalCapabilityState where
  faLocalState := .ready
  supportedContractVersions := ["GnatDispatchEnvelope.v1", "GnatRunPlan.v1",
    "GnatWorkerReceipt.v1"]
  admittedWorkerTypes := [.markdownSyntax, .plainTextSyntax, .pdfTextSyntax, .docxTextSyntax,
    .rtfTextSyntax, .odtTextSyntax, .epubTextSyntax]
  maxConcurrency := 4
  cancellationSupported := true

def unavailable : GnatFaLocalCapabilityState where
  faLocalState := .unavailable
  supportedContractVersions := []
  admittedWorkerTypes := []
  maxConcurrency := 0
  cancellationSupported := false

end GnatFaLocalCapabilityState

inductive GnatDispatchAdmissionState where
  | readyForFaLocalDispatch | serialFallbackPermitted
  deriving DecidableEq

structure GnatDispatchAdmission where
  state : GnatDispatchAdmissionState
  correlationId : CorrelationId
  runId : String
  effectiveConcurrency : UInt8
  admittedWorkerTypes : List GnatWorkerType
  cancellationPolicy : GnatCancellationPolicy
  operatorVisibleSummary : String
  deriving DecidableEq

namespace GnatDispatchValidator

variable (utcNow : TimestampUtc)

def contractInvalid (summary : String) : DenialGuard :=
  deny utcNow .contractInvalid .operation .contract summary

/-- `if !condition { return Err(denial) }` -/
def check (condition : Bool) (denial : DenialGuard) : Except DenialGuard Unit :=
  if condition then .ok () else .error denial

def validatePlanSurface (envelope : GnatDispatchEnvelope) : Except DenialGuard Unit := do
  check (envelope.contractVersion == "GnatDispatchEnvelope.v1")
    (contractInvalid utcNow "unsupported Gnat dispatch envelope version")
  check (envelope.requesterService == "cortex")
    (contractInvalid utcNow "Gnat dispatch envelope requester must be cortex")
  check (envelope.plan.contractVersion == "GnatRunPlan.v1")
    (contractInvalid utcNow "unsupported Gnat run plan version")
  check (envelope.plan.operation == "syntax_extract")
    (contractInvalid utcNow "Gnat dispatch admits syntax_extract only")
  check (envelope.plan.expectedReceiptSchema == "gnat-worker-receipt.schema.json")
    (contractInvalid utcNow "Gnat dispatch expected receipt schema mismatch")
  check (envelope.plan.shardCount.toNat == envelope.plan.shards.length)
    (contractInvalid utcNow "Gnat dispatch shard_count does not match shards")
  check envelope.routePolicy.faLocalOwnsExecutionRouting
    (contractInvalid utcNow "FA Local must own Gnat execution routing")
  check envelope.routePolicy.cortexValidatesReceipts
    (contractInvalid utcNow "Cortex must validate Gnat receipts")
  check (envelope.routePolicy.retryPolicy == .infrastructureOnly)
    (contractInvalid utcNow "Gnat dispatch admits infrastructure-only retry policy")
  check envelope.requiredCapabilities.deadlineEnforced
    (contractInvalid utcNow "Gnat dispatch requires enforced deadlines")
  check (envelope.plan.shards.all fun shard =>
      envelope.requiredCapabilities.workerTypes.contains shard.workerType)
    (contractInvalid utcNow "Gnat dispatch shard uses undeclared worker type")

def validateSupportedContracts (envelope : GnatDispatchEnvelope)
    (faLocalCapabilities : GnatFaLocalCapabilityState) : Except DenialGuard Unit :=
  check (envelope.requiredCapabilities.supportedContractVersions.all
      faLocalCapabilities.supportedContractVersions.contains)
    (contractInvalid utcNow "FA Local does not support a required Gnat contract version")

def validateWorkerAdmission (envelope : GnatDispatchEnvelope)
    (faLocalCapabilities : GnatFaLocalCapabilityState) : Except DenialGuard Unit :=
  check (envelope.requiredCapabilities.workerTypes.all
      faLocalCapabilities.admittedWorkerTypes.contains)
    (deny utcNow .capabilityNotAdmitted .capability .policy
      "Gnat worker type is not admitted by FA Local")

def validateCancellation (faLocalCapabilities : GnatFaLocalCapabilityState) :
    Except DenialGuard Unit :=
  check faLocalCapabilities.cancellationSupported
    (deny utcNow .dependencyUnavailable .service .runtimeSafety
      "FA Local Gnat cancellation support is unavailable")

/-- The set of the worker types, in their order. -/
def sortedWorkerTypes (workerTypes : List GnatWorkerType) : List GnatWorkerType :=
  [GnatWorkerType.markdownSyntax, .plainTextSyntax, .pdfTextSyntax, .docxTextSyntax,
    .rtfTextSyntax, .odtTextSyntax, .epubTextSyntax].filter workerTypes.contains

def negotiate (envelope : GnatDispatchEnvelope)
    (faLocalCapabilities : GnatFaLocalCapabilityState) :
    Except DenialGuard GnatDispatchAdmission := do
  validatePlanSurface utcNow envelope
  match faLocalCapabilities.faLocalState with
  | .ready => do
    validateSupportedContracts utcNow envelope faLocalCapabilities
    validateWorkerAdmission utcNow envelope faLocalCapabilities
    validateCancellation utcNow faLocalCapabilities
    let limits := envelope.plan.executionLimits
    return {
      state := .readyForFaLocalDispatch
      correlationId := envelope.correlationId
      runId := envelope.plan.runId
      effectiveConcurrency := max (min (min limits.requestedConcurrency limits.maxConcurrency)
        faLocalCapabilities.maxConcurrency) 1
      admittedWorkerTypes := sortedWorkerTypes envelope.requiredCapabilities.workerTypes
      cancellationPolicy := envelope.requiredCapabilities.cancellationPolicy
      operatorVisibleSummary := "FA Local admitted Cortex Gnat run " ++ envelope.plan.runId ++
        " for bounded dispatch." }
  | .degraded | .unavailable =>
    if envelope.plan.serialFallbackAllowed then
      return {
        state := .serialFallbackPermitted
        correlationId := envelope.correlationId
        runId := envelope.plan.runId
        effectiveConcurrency := 1
        admittedWorkerTypes := []
        cancellationPolicy := envelope.requiredCapabilities.cancellationPolicy
        operatorVisibleSummary := "FA Local Gnat dispatch is unavailable; " ++
          "Cortex serial fallback is permitted by contract." }
    else
      .error (deny utcNow .dependencyUnavailable .service .runtimeSafety
        "FA Local Gnat dispatch is unavailable and serial fallback is not permitted")

end GnatDispatchValidator

end FaLocal
