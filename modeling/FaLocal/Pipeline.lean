import FaLocal.Decision
import FaLocal.ExecutionService

/-!
# The execution pipeline

`ExecutionPipelineService::run`: decide, validate the plan, select a route,
build the adapter registry, deliver, and record forensic evidence. Readings of
the clock, fresh event identifiers and adapter answers are parameters.
-/
namespace FaLocal

namespace ForensicService

def validateAdapterId (adapterId : String) : FaLocalResult Unit :=
  require (!adapterId.isEmpty && adapterId.utf8ByteSize ≤ 64)
    "forensic export adapter_id must be between 1 and 64 characters"

def validateExportReference (exportReference : String) : FaLocalResult Unit :=
  require (isBoundedText exportReference)
    "forensic export adapter must return a bounded export_reference between 1 and 160 characters"

def mapExportResult (adapterId : String) (exportResult : ForensicExportResult) :
    FaLocalResult ForensicExportReceipt := do
  validateAdapterId adapterId
  match exportResult with
  | .exported exportReference => do
    validateExportReference exportReference
    return { adapterId := adapterId, exportReference := exportReference }
  | .dependencyUnavailable summary => do
    validateBoundedDetail summary "forensic export dependency summary"
    .error (contractInvalid ("forensic export dependency unavailable: " ++ summary))
  | .unsupported summary => do
    validateBoundedDetail summary "forensic export unsupported summary"
    .error (contractInvalid ("forensic export unsupported: " ++ summary))

/-- Only an export that an adapter carried out is accepted. -/
theorem mapExportResult_eq_ok {adapterId : String} {result : ForensicExportResult}
    {receipt : ForensicExportReceipt}
    (h : mapExportResult adapterId result = .ok receipt) :
    result = .exported receipt.exportReference := by
  cases result with
  | exported reference =>
    simp only [mapExportResult, seq_eq_ok, pure, Except.pure,
      Except.ok.injEq] at h
    rw [← h.2.2]
  | dependencyUnavailable summary => simp [mapExportResult, seq_eq_ok] at h
  | unsupported summary => simp [mapExportResult, seq_eq_ok] at h

structure ExportedForensicRecord where
  event : ValidatedForensicEvent
  exportReceipt : ForensicExportReceipt

def recordAndExportEventVia {α : Type} (forensicEventId : ForensicEventId)
    (input : ForensicRecordInput) (adapter : ForensicEventExportAdapter α) :
    Coordinated α ExportedForensicRecord := do
  let event ← Traced.lift (recordEvent forensicEventId input)
  let exportResult ← Traced.perform fun log =>
    (.exported event.event (adapter.exportEvent log event.event),
      adapter.exportEvent log event.event)
  let exportReceipt ← Traced.lift (mapExportResult adapter.adapterId exportResult)
  return { event := event, exportReceipt := exportReceipt }

end ForensicService

inductive NmapScanProfile where
  | loopbackTcpConnectV1 | authorizedPrivateSubnetTcpConnectV1
  deriving DecidableEq

inductive AdapterSelection where
  | localFileWrite (deliveryRoot : String)
  | nmapPreflight (nmapBinary : String) (scanProfile : NmapScanProfile)
  deriving DecidableEq

structure CapabilityScopedAdapterSelection where
  capabilityId : CapabilityId
  selection : AdapterSelection
  deriving DecidableEq

inductive DispatchMode where
  | wholeRoute | perStep
  deriving DecidableEq

structure ExecutionPipelineInputs where
  request : Value
  requesterTrust : Value
  policy : Value
  capabilityRegistry : Value
  executionPlan : Option Value

structure ForensicRecordOutcome where
  event : ValidatedForensicEvent
  exportReference : Option String

structure ExecutionPipelineOutcome where
  routeDecision : RouteDecision
  planDenial : Option DenialGuard
  executionTrace : Option ExecutionTrace
  forensicRecords : List ForensicRecordOutcome

/-- A concrete adapter is its selection and the capability it was built for. -/
structure BuiltAdapter where
  selection : AdapterSelection
  supportedCapabilityId : CapabilityId
  deriving DecidableEq

def BuiltAdapter.adapterId (adapter : BuiltAdapter) : String :=
  match adapter.selection with
  | .localFileWrite _ => "local-file-write-delivery"
  | .nmapPreflight _ _ => "nmap-preflight-delivery"

def buildAdapter (selection : AdapterSelection) (supportedCapabilityId : CapabilityId) :
    BuiltAdapter :=
  ⟨selection, supportedCapabilityId⟩

/-- What a run takes from outside besides its arguments. -/
structure RunEnvironment where
  loaders : ContractLoaders
  digest : PlanDigest
  clock : GuardClock
  planClock : TimestampUtc
  freshEventId : Nat → ForensicEventId
  deliverRoute : List (WorldEvent BuiltAdapter) → BuiltAdapter → AdapterDeliveryRequest →
    AdapterDeliveryResult

def RunEnvironment.world (env : RunEnvironment) : DeliveryWorld BuiltAdapter where
  adapterId := BuiltAdapter.adapterId
  deliverRoute := env.deliverRoute

namespace ExecutionPipelineService

/-- `record`; `index` counts the events drawn so far. -/
def record (env : RunEnvironment)
    (exportAdapter : Option (ForensicEventExportAdapter BuiltAdapter)) (index : Nat)
    (kind : ForensicRecordKind) (redactionLevel : RedactionLevel)
    (context : ForensicRecordContext) : Coordinated BuiltAdapter ForensicRecordOutcome := do
  let input ← Traced.lift (ForensicRecordInput.new kind redactionLevel context)
  match exportAdapter with
  | some adapter => do
    let exported ←
      ForensicService.recordAndExportEventVia (env.freshEventId index) input adapter
    return { event := exported.event,
             exportReference := some exported.exportReceipt.exportReference }
  | none => do
    let event ← Traced.lift (ForensicService.recordEvent (env.freshEventId index) input)
    return { event := event, exportReference := none }

/-- One record for every status, in order. -/
def recordStatuses (env : RunEnvironment)
    (exportAdapter : Option (ForensicEventExportAdapter BuiltAdapter))
    (routeDecision : RouteDecision) (context : ForensicRecordContext) :
    Nat → List ValidatedExecutionStatus →
      Coordinated BuiltAdapter (List ForensicRecordOutcome)
  | _, [] => return []
  | index, status :: rest => do
    let outcome ← record env exportAdapter index (.executionStatusObserved routeDecision status)
      .linkageOnly context
    let outcomes ← recordStatuses env exportAdapter routeDecision context (index + 1) rest
    return outcome :: outcomes

/-- The registry of the selected adapter and the additional ones. -/
def buildRegistry (adapterSelection : Option AdapterSelection)
    (additionalAdapters : List CapabilityScopedAdapterSelection)
    (routeCapabilityId : CapabilityId) : FaLocalResult (AdapterRegistry BuiltAdapter) := do
  let registry ← match adapterSelection with
    | none => .ok AdapterRegistry.new
    | some selection =>
      AdapterRegistry.new.register routeCapabilityId (buildAdapter selection routeCapabilityId)
  additionalAdapters.foldlM (fun registry entry =>
    registry.register entry.capabilityId (buildAdapter entry.selection entry.capabilityId)) registry

def coordinationContext (context : RouteResolutionContext) : CoordinationContext where
  coordinatedAtUtc := context.decidedAtUtc
  startedAtUtc := context.decidedAtUtc
  completedAtUtc := context.decidedAtUtc

/-- The delivery call of an admitted run. -/
def deliver (env : RunEnvironment) (dispatchMode : DispatchMode)
    (selectedRoute : SelectedExecutionRoute) (validatedPlan : ValidatedExecutionPlan)
    (registry : AdapterRegistry BuiltAdapter) (context : RouteResolutionContext) :
    Coordinated BuiltAdapter ExecutionTrace :=
  match dispatchMode with
  | .wholeRoute => ExecutionService.deliverSelectedRouteViaRegistry env.world selectedRoute
      registry (coordinationContext context)
  | .perStep => ExecutionService.deliverPlanPerStepViaRegistry env.world selectedRoute
      validatedPlan registry (coordinationContext context)

/-- What an admitted run has prepared when it comes to delivery. -/
structure Prepared where
  validatedPlan : ValidatedExecutionPlan
  selectedRoute : SelectedExecutionRoute
  registry : AdapterRegistry BuiltAdapter

/-- The part of `run` between an admitted decision and delivery; a plan that the
validator denies is returned as its guard. -/
def prepare (env : RunEnvironment) (inputs : ExecutionPipelineInputs)
    (adapterSelection : Option AdapterSelection)
    (additionalAdapters : List CapabilityScopedAdapterSelection)
    (routeDecision : RouteDecision) : FaLocalResult (DenialGuard ⊕ Prepared) := do
  match inputs.executionPlan with
  | none => .error (contractInvalid "admitted route decision requires an execution plan")
  | some planValue => do
    let capabilityRegistry ← loaded (env.loaders.capabilityRegistry inputs.capabilityRegistry)
    let plan ← loaded (env.loaders.executionPlan planValue)
    match ExecutionPlanValidator.validate env.digest env.planClock plan capabilityRegistry with
    | .error denial => return .inl denial
    | .ok validatedPlan => do
      let routingInput ← RoutingInput.new routeDecision (some validatedPlan)
      let selectedRoute ← RoutingService.selectRoute routingInput
      let registry ← buildRegistry adapterSelection additionalAdapters
        routeDecision.capabilityDecisionSummary.requestedCapabilityId
      return .inr { validatedPlan := validatedPlan, selectedRoute := selectedRoute,
                    registry := registry }

def run (env : RunEnvironment) (inputs : ExecutionPipelineInputs)
    (adapterSelection : Option AdapterSelection)
    (additionalAdapters : List CapabilityScopedAdapterSelection) (dispatchMode : DispatchMode)
    (forensicExportAdapter : Option (ForensicEventExportAdapter BuiltAdapter))
    (context : RouteResolutionContext) : Coordinated BuiltAdapter ExecutionPipelineOutcome := do
  let routeDecision ← Traced.lift (DecisionService.resolveRouteDecision env.loaders env.clock
    inputs.request inputs.requesterTrust inputs.policy inputs.capabilityRegistry context)
  let forensicContext : ForensicRecordContext := { recordedAtUtc := context.decidedAtUtc }
  let recordDecision := fun (kind : ForensicRecordKind) => do
    let outcome ← record env forensicExportAdapter 0 kind .sensitiveFieldsRedacted forensicContext
    return { routeDecision := routeDecision, planDenial := none, executionTrace := none,
             forensicRecords := [outcome] : ExecutionPipelineOutcome }
  match routeDecision.resolvedApprovalPosture with
  | .denied => recordDecision (.denialIssued routeDecision)
  | .reviewRequired | .explicitOperatorApproval =>
    recordDecision (.routeDecisionResolved routeDecision)
  | .policyPreapproved | .executeAllowed => do
    let prepared ← Traced.lift
      (prepare env inputs adapterSelection additionalAdapters routeDecision)
    match prepared with
    | .inl denial => return { routeDecision := routeDecision, planDenial := some denial,
                              executionTrace := none, forensicRecords := [] }
    | .inr prepared => do
      let executionTrace ← deliver env dispatchMode prepared.selectedRoute prepared.validatedPlan
        prepared.registry context
      let forensicRecords ← recordStatuses env forensicExportAdapter routeDecision forensicContext
        0 executionTrace.statuses
      return { routeDecision := routeDecision, planDenial := none,
               executionTrace := some executionTrace, forensicRecords := forensicRecords }

end ExecutionPipelineService

end FaLocal
