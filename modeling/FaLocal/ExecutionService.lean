import FaLocal.Delivery

/-!
# The execution service

Status builders, whole-route delivery and per-step delivery of
`ExecutionService`. The step loop keeps the statuses, the outcomes, the stop
flag and the results of fallbacks that were dispatched ahead of their turn.
-/
namespace FaLocal

structure CoordinationContext where
  coordinatedAtUtc : TimestampUtc
  startedAtUtc : TimestampUtc
  completedAtUtc : TimestampUtc

structure ExecutionTrace where
  statuses : List ValidatedExecutionStatus
  nonempty : statuses ≠ []

def ExecutionTrace.new (statuses : List ValidatedExecutionStatus) : FaLocalResult ExecutionTrace :=
  if h : statuses = [] then
    .error (contractInvalid "execution coordinator must emit at least one execution status")
  else .ok ⟨statuses, h⟩

/-- The last status of a trace. -/
def ExecutionTrace.finalStatus (trace : ExecutionTrace) : ValidatedExecutionStatus :=
  trace.statuses.getLast trace.nonempty

inductive StepDeliveryOutcome where
  | completed
  | completedViaFallback (fallbackStepId : String)
  | failed (summary : String)
  | canceled
  | unavailable (summary : String)
  | skipped
  deriving DecidableEq

namespace StepDeliveryOutcome

/-- `Failed`, `Unavailable` or `Canceled`. -/
def uncompleted : StepDeliveryOutcome → Bool
  | .failed _ | .unavailable _ | .canceled => true
  | _ => false

/-- `Completed` or `CompletedViaFallback`. -/
def counts : StepDeliveryOutcome → Bool
  | .completed | .completedViaFallback _ => true
  | _ => false

def fallbackUsed : StepDeliveryOutcome → Option String
  | .completedViaFallback fallbackStepId => some fallbackStepId
  | _ => none

def failureText : StepDeliveryOutcome → Option String
  | .failed summary => some summary
  | _ => none

/-- What a partial success says about the step named as its cause. -/
def incompleteDetail : StepDeliveryOutcome → Option String
  | .failed summary => some summary
  | .unavailable summary => some summary
  | .canceled => some "step was canceled"
  | .skipped => some "step was skipped after an earlier step did not complete"
  | .completed | .completedViaFallback _ => none

end StepDeliveryOutcome

namespace ExecutionService

def validateRequiredSummary (summary fieldName : String) : FaLocalResult Unit :=
  require (isBoundedText summary) (fieldName ++ " must be between 1 and 160 characters")

/-! ## Status builders -/

/-- The plan link that every builder takes from the route. -/
def planLink (route : SelectedExecutionRoute) : FaLocalResult (ExecutionPlanId × String) :=
  match route.executionPlanId with
  | none => .error (contractInvalid "external delivery route must include execution_plan_id")
  | some executionPlanId =>
    match route.stablePlanHash with
    | none => .error (contractInvalid "external delivery route must include stable_plan_hash")
    | some stablePlanHash => .ok (executionPlanId, stablePlanHash)

/-- The fields that all statuses built from a route share; the builders add the others. -/
def routeStatus (route : SelectedExecutionRoute) (link : ExecutionPlanId × String)
    (state : ExecutionState) (updatedAtUtc : TimestampUtc) (summary : String) :
    ExecutionStatus where
  requestId := route.requestId
  correlationId := route.correlationId
  executionPlanId := some link.1
  stablePlanHash := some link.2
  currentPosture := route.resolvedApprovalPosture
  state := state
  degradedSubtype := none
  startedAtUtc := none
  updatedAtUtc := updatedAtUtc
  completedAtUtc := none
  currentStep := none
  completionSummary := none
  failureSummary := none
  truthfulUserVisibleSummary := summary

def buildAdmittedNotStartedStatusFromRoute (route : SelectedExecutionRoute)
    (updatedAtUtc : TimestampUtc) : FaLocalResult ValidatedExecutionStatus := do
  let link ← planLink route
  emitStatus (routeStatus route link .admittedNotStarted updatedAtUtc
    "execution admitted for external bounded delivery")

def inProgressStatus (route : SelectedExecutionRoute) (link : ExecutionPlanId × String)
    (startedAtUtc : TimestampUtc) (stepId : String) : ExecutionStatus :=
  { routeStatus route link .inProgress startedAtUtc
      ("executing externally delivered step " ++ stepId) with
    startedAtUtc := some startedAtUtc
    currentStep := some stepId }

def buildInProgressStatusesFromRoute (route : SelectedExecutionRoute) (stepIds : List String)
    (startedAtUtc : TimestampUtc) : FaLocalResult (List ValidatedExecutionStatus) := do
  let link ← planLink route
  stepIds.mapM fun stepId => emitStatus (inProgressStatus route link startedAtUtc stepId)

def allStepsSummary : String := "external delivery completed for all declared plan steps"

def completedStatus (route : SelectedExecutionRoute) (link : ExecutionPlanId × String)
    (startedAtUtc completedAtUtc : TimestampUtc) : ExecutionStatus :=
  { routeStatus route link .completed completedAtUtc allStepsSummary with
    startedAtUtc := some startedAtUtc
    completedAtUtc := some completedAtUtc
    completionSummary := some allStepsSummary }

def buildCompletedStatusFromRoute (route : SelectedExecutionRoute)
    (startedAtUtc completedAtUtc : TimestampUtc) : FaLocalResult ValidatedExecutionStatus := do
  let link ← planLink route
  emitStatus (completedStatus route link startedAtUtc completedAtUtc)

def completedOf (completedCount totalCount : Nat) : String :=
  toString completedCount ++ " of " ++ toString totalCount ++ " declared plan steps completed"

def partialSuccessFailure (failedStepId failureDetail : String) : String :=
  "step " ++ failedStepId ++ " did not complete: " ++ failureDetail

def partialSuccessStatus (route : SelectedExecutionRoute) (link : ExecutionPlanId × String)
    (startedAtUtc completedAtUtc : TimestampUtc) (completedCount totalCount : Nat)
    (failedStepId failureDetail : String) : ExecutionStatus :=
  { routeStatus route link .partialSuccess completedAtUtc
      (completedOf completedCount totalCount) with
    degradedSubtype := some .degradedPartial
    startedAtUtc := some startedAtUtc
    completedAtUtc := some completedAtUtc
    completionSummary := some (completedOf completedCount totalCount)
    failureSummary := some (partialSuccessFailure failedStepId failureDetail) }

def buildPartialSuccessStatusFromRoute (route : SelectedExecutionRoute)
    (startedAtUtc completedAtUtc : TimestampUtc) (completedCount totalCount : Nat)
    (failedStepId failureDetail : String) : FaLocalResult ValidatedExecutionStatus := do
  let link ← planLink route
  emitStatus (partialSuccessStatus route link startedAtUtc completedAtUtc completedCount totalCount
    failedStepId failureDetail)

def constrainedStatus (route : SelectedExecutionRoute) (link : ExecutionPlanId × String)
    (startedAtUtc completedAtUtc : TimestampUtc) (degradedSubtype : DegradedSubtype)
    (completionSummary : String) : ExecutionStatus :=
  { routeStatus route link .completedWithConstraints completedAtUtc completionSummary with
    degradedSubtype := some degradedSubtype
    startedAtUtc := some startedAtUtc
    completedAtUtc := some completedAtUtc
    completionSummary := some completionSummary }

def buildCompletedWithConstraintsStatusFromRoute (route : SelectedExecutionRoute)
    (startedAtUtc completedAtUtc : TimestampUtc) (degradedSubtype : DegradedSubtype) :
    FaLocalResult ValidatedExecutionStatus := do
  let link ← planLink route
  emitStatus (constrainedStatus route link startedAtUtc completedAtUtc degradedSubtype
    "external delivery completed with declared fallback path")

def fallbackPairs (outcomes : List (String × StepDeliveryOutcome)) : String :=
  String.intercalate ", " (outcomes.filterMap fun outcome =>
    outcome.2.fallbackUsed.map fun fallbackStepId => outcome.1 ++ " -> " ++ fallbackStepId)

def usedFallbackSummary (outcomes : List (String × StepDeliveryOutcome)) : String :=
  "all declared plan steps completed; used declared fallback for: " ++ fallbackPairs outcomes

def buildPlanCompletedViaFallbackStatusFromRoute (route : SelectedExecutionRoute)
    (outcomes : List (String × StepDeliveryOutcome))
    (startedAtUtc completedAtUtc : TimestampUtc) : FaLocalResult ValidatedExecutionStatus := do
  let link ← planLink route
  emitStatus (constrainedStatus route link startedAtUtc completedAtUtc .degradedFallbackLimited
    (usedFallbackSummary outcomes))

def failedStatus (route : SelectedExecutionRoute) (link : ExecutionPlanId × String)
    (startedAtUtc completedAtUtc : TimestampUtc) (failureSummary : String) : ExecutionStatus :=
  { routeStatus route link .failed completedAtUtc failureSummary with
    startedAtUtc := some startedAtUtc
    completedAtUtc := some completedAtUtc
    failureSummary := some failureSummary }

def buildFailedStatusFromRoute (route : SelectedExecutionRoute)
    (startedAtUtc completedAtUtc : TimestampUtc) (failureSummary : String) :
    FaLocalResult ValidatedExecutionStatus := do
  let link ← planLink route
  emitStatus (failedStatus route link startedAtUtc completedAtUtc failureSummary)

def canceledStatus (route : SelectedExecutionRoute) (link : ExecutionPlanId × String)
    (startedAtUtc completedAtUtc : TimestampUtc) (stepId : String) : ExecutionStatus :=
  { routeStatus route link .canceled completedAtUtc
      ("external delivery canceled during declared step " ++ stepId) with
    startedAtUtc := some startedAtUtc
    completedAtUtc := some completedAtUtc }

def buildCanceledStatusFromRoute (route : SelectedExecutionRoute)
    (startedAtUtc completedAtUtc : TimestampUtc) (stepId : String) :
    FaLocalResult ValidatedExecutionStatus := do
  let link ← planLink route
  emitStatus (canceledStatus route link startedAtUtc completedAtUtc stepId)

def unavailableDependencyStatus (route : SelectedExecutionRoute)
    (link : ExecutionPlanId × String) (updatedAtUtc : TimestampUtc) (summary : String) :
    ExecutionStatus :=
  { routeStatus route link .degraded updatedAtUtc summary with
    degradedSubtype := some .unavailableDependencyBlock }

def buildUnavailableDependencyStatusFromRoute (route : SelectedExecutionRoute)
    (updatedAtUtc : TimestampUtc) (summary : String) :
    FaLocalResult ValidatedExecutionStatus := do
  let link ← planLink route
  emitStatus (unavailableDependencyStatus route link updatedAtUtc summary)

def noneRegisteredSummary : String := "no delivery adapter registered for any declared step"

/-- One truthful status for the whole plan. -/
def buildPlanOutcomeStatusFromRoute (route : SelectedExecutionRoute)
    (outcomes : List (String × StepDeliveryOutcome))
    (startedAtUtc completedAtUtc : TimestampUtc) : FaLocalResult ValidatedExecutionStatus :=
  let completedCount := (outcomes.filter fun outcome => outcome.2.counts).length
  if completedCount = outcomes.length then
    if outcomes.any fun outcome => outcome.2.fallbackUsed.isSome then
      buildPlanCompletedViaFallbackStatusFromRoute route outcomes startedAtUtc completedAtUtc
    else buildCompletedStatusFromRoute route startedAtUtc completedAtUtc
  else if 0 < completedCount then do
    let (failedStepId, failureSummary) ← expect
      "mixed outcome always has at least one non-completed step"
      (outcomes.findSome? fun outcome =>
        outcome.2.incompleteDetail.map fun detail => (outcome.1, detail))
    buildPartialSuccessStatusFromRoute route startedAtUtc completedAtUtc completedCount
      outcomes.length failedStepId failureSummary
  else
    let attempted := outcomes.filter fun outcome => outcome.2 != .skipped
    match attempted.findSome? fun outcome => outcome.2.failureText with
    | some summary => buildFailedStatusFromRoute route startedAtUtc completedAtUtc summary
    | none =>
      match attempted.find? fun outcome => outcome.2 == .canceled with
      | some (stepId, _) => buildCanceledStatusFromRoute route startedAtUtc completedAtUtc stepId
      | none =>
        buildUnavailableDependencyStatusFromRoute route completedAtUtc noneRegisteredSummary

def validateSelectedRouteForDelivery (route : SelectedExecutionRoute) : FaLocalResult Unit :=
  match route.routePathKind with
  | .nonExecutableDenied | .nonExecutableReviewRequired =>
    .error (contractInvalid "non-executable route must not reach adapter delivery")
  | .awaitExplicitApproval =>
    .error (contractInvalid "explicit approval route must not reach adapter delivery")
  | .externalAdapterBoundedExecution => do
    require (route.executable && !route.explicitApprovalRequired)
      "external adapter route is inconsistent with delivery expectations"
    require route.resolvedApprovalPosture.admitted
      "external adapter delivery requires admitted posture"
    require (route.executionPlanId.isSome && route.stablePlanHash.isSome)
      "external adapter delivery route must include execution_plan_id and stable_plan_hash"
    require (!route.declaredStepIds.isEmpty && !route.declaredCapabilityIds.isEmpty)
      "external adapter delivery route must include declared steps and capabilities"
    require (route.declaredCapabilityIds.contains route.requestedCapabilityId)
      "external adapter delivery route must remain capability-scoped to declared capability set"

section
variable {α : Type} (world : DeliveryWorld α) (route : SelectedExecutionRoute)

/-- `adapter.deliver_route(&request)` -/
def deliverRoute (adapter : α) (request : AdapterDeliveryRequest) :
    Coordinated α AdapterDeliveryResult :=
  Traced.perform fun log =>
    (.called adapter request (world.deliverRoute log adapter request),
      world.deliverRoute log adapter request)

/-- `statuses.extend(build_in_progress_statuses_from_route(..)?)` -/
def pushInProgress (stepIds : List String) (startedAtUtc : TimestampUtc) :
    Coordinated α (List ValidatedExecutionStatus) := do
  let statuses ← Traced.lift (buildInProgressStatusesFromRoute route stepIds startedAtUtc)
  Traced.emit (stepIds.map .inProgress)
  return statuses

/-! ## Whole-route delivery -/

def adapterRequestFor : FaLocalResult AdapterDeliveryRequest := do
  validateSelectedRouteForDelivery route
  match route.executionPlanId with
  | none => .error (contractInvalid
      "external adapter delivery route must include execution_plan_id")
  | some executionPlanId =>
    match route.stablePlanHash with
    | none => .error (contractInvalid
        "external adapter delivery route must include stable_plan_hash")
    | some stablePlanHash =>
      return {
          routeDecisionId := route.routeDecisionId
          correlationId := route.correlationId
          requestId := route.requestId
          resolvedApprovalPosture := route.resolvedApprovalPosture
          requestedCapabilityId := route.requestedCapabilityId
          executionPlanId := executionPlanId
          stablePlanHash := stablePlanHash
          declaredStepIds := route.declaredStepIds
          declaredCapabilityIds := route.declaredCapabilityIds
          declaredFallbackReferences := route.declaredFallbackReferences }

def declaredStepsThroughRoute (targetStepId errorMessage : String) : FaLocalResult (List String) :=
  match route.declaredStepIds.idxOf? targetStepId with
  | none => .error (contractInvalid errorMessage)
  | some targetIndex => .ok (route.declaredStepIds.take (targetIndex + 1))

def validateFallbackResult (stepId fallbackStepId : String) (degradedSubtype : DegradedSubtype) :
    FaLocalResult Unit := do
  require (isExplicitFallbackSubtype (some degradedSubtype))
    "adapter fallback completion must use an explicit fallback degraded_subtype"
  require (route.declaredStepIds.contains stepId)
    "adapter reported primary step that is not declared in execution route"
  require (route.declaredFallbackReferences.any fun reference =>
      reference.stepId == stepId && reference.fallbackStepId == fallbackStepId)
    "adapter reported fallback that is not declared in execution route"

def deliverViaAdapter (adapter : α) (context : CoordinationContext) :
    Coordinated α ExecutionTrace := do
  Traced.lift (validateSelectedRouteForDelivery route)
  let request ← Traced.lift (adapterRequestFor route)
  let admitted ← Traced.lift
    (buildAdmittedNotStartedStatusFromRoute route context.coordinatedAtUtc)
  let result ← deliverRoute world adapter request
  match result with
  | .deliveredAllSteps => do
    let inProgress ← pushInProgress route route.declaredStepIds context.startedAtUtc
    let completed ← Traced.lift
      (buildCompletedStatusFromRoute route context.startedAtUtc context.completedAtUtc)
    Traced.lift (ExecutionTrace.new (admitted :: inProgress ++ [completed]))
  | .completedWithDeclaredFallback stepId fallbackStepId degradedSubtype => do
    Traced.lift (validateFallbackResult route stepId fallbackStepId degradedSubtype)
    let stepIds ← Traced.lift (declaredStepsThroughRoute route fallbackStepId
      "adapter reported fallback step that is not declared in execution route")
    let inProgress ← pushInProgress route stepIds context.startedAtUtc
    let completed ← Traced.lift (buildCompletedWithConstraintsStatusFromRoute route
      context.startedAtUtc context.completedAtUtc degradedSubtype)
    Traced.lift (ExecutionTrace.new (admitted :: inProgress ++ [completed]))
  | .failedAtDeclaredStep stepId failureSummary => do
    Traced.lift (validateRequiredSummary failureSummary "adapter delivery failure_summary")
    let stepIds ← Traced.lift (declaredStepsThroughRoute route stepId
      "adapter reported step that is not declared in execution route")
    let inProgress ← pushInProgress route stepIds context.startedAtUtc
    let failed ← Traced.lift (buildFailedStatusFromRoute route context.startedAtUtc
      context.completedAtUtc failureSummary)
    Traced.lift (ExecutionTrace.new (admitted :: inProgress ++ [failed]))
  | .canceledAtDeclaredStep stepId => do
    let stepIds ← Traced.lift (declaredStepsThroughRoute route stepId
      "adapter reported step that is not declared in execution route")
    let inProgress ← pushInProgress route stepIds context.startedAtUtc
    let canceled ← Traced.lift (buildCanceledStatusFromRoute route context.startedAtUtc
      context.completedAtUtc stepId)
    Traced.lift (ExecutionTrace.new (admitted :: inProgress ++ [canceled]))
  | .dependencyUnavailable summary => do
    Traced.lift (validateRequiredSummary summary "adapter delivery dependency summary")
    let unavailable ← Traced.lift
      (buildUnavailableDependencyStatusFromRoute route context.completedAtUtc summary)
    Traced.lift (ExecutionTrace.new [admitted, unavailable])
  | .unsupported summary => do
    Traced.lift (validateRequiredSummary summary "adapter delivery unsupported summary")
    Traced.lift (.error (contractInvalid
      ("unsupported adapter condition from " ++ world.adapterId adapter ++ ": " ++ summary)))

def noAdapterSummary (capabilityId : CapabilityId) : String :=
  "no delivery adapter registered for capability " ++ capabilityId.display

def deliverSelectedRouteViaRegistry (registry : AdapterRegistry α)
    (context : CoordinationContext) : Coordinated α ExecutionTrace := do
  Traced.lift (validateSelectedRouteForDelivery route)
  match registry.resolve route.requestedCapabilityId with
  | some adapter => deliverViaAdapter world route adapter context
  | none => do
    let admitted ← Traced.lift
      (buildAdmittedNotStartedStatusFromRoute route context.coordinatedAtUtc)
    let unavailable ← Traced.lift (buildUnavailableDependencyStatusFromRoute route
      context.completedAtUtc (noAdapterSummary route.requestedCapabilityId))
    Traced.lift (ExecutionTrace.new [admitted, unavailable])

/-! ## Per-step delivery -/

/-- The answers that a per-step call understands. -/
def perStepOutcome (adapterId : String) : AdapterDeliveryResult →
    FaLocalResult StepDeliveryOutcome
  | .deliveredAllSteps => .ok .completed
  | .failedAtDeclaredStep _ failureSummary => do
    validateRequiredSummary failureSummary "adapter delivery failure_summary"
    return .failed failureSummary
  | .canceledAtDeclaredStep _ => .ok .canceled
  | .dependencyUnavailable summary => do
    validateRequiredSummary summary "adapter delivery dependency summary"
    return .unavailable summary
  | .completedWithDeclaredFallback _ _ _ => .error (contractInvalid
      "declared fallback completion is not supported in per-step delivery")
  | .unsupported summary => .error (contractInvalid
      ("unsupported adapter condition from " ++ adapterId ++ ": " ++ summary))

variable (validatedPlan : ValidatedExecutionPlan) (registry : AdapterRegistry α)
  (context : CoordinationContext)

def stepRequest (step : ExecutionPlanStep) : AdapterDeliveryRequest where
  routeDecisionId := route.routeDecisionId
  correlationId := route.correlationId
  requestId := route.requestId
  resolvedApprovalPosture := route.resolvedApprovalPosture
  requestedCapabilityId := step.capabilityId
  executionPlanId := validatedPlan.plan.executionPlanId
  stablePlanHash := validatedPlan.stablePlanHash
  declaredStepIds := [step.stepId]
  declaredCapabilityIds := [step.capabilityId]
  declaredFallbackReferences := []

def dispatchOneStep (step : ExecutionPlanStep) : Coordinated α StepDeliveryOutcome :=
  match registry.resolve step.capabilityId with
  | none => return .unavailable (noAdapterSummary step.capabilityId)
  | some adapter => do
    let result ← deliverRoute world adapter (stepRequest route validatedPlan step)
    Traced.lift (perStepOutcome (world.adapterId adapter) result)

def declaredFallbackStep (stepId : String)
    (alreadyConsumed : String → Option StepDeliveryOutcome) : Option ExecutionPlanStep :=
  match validatedPlan.plan.fallbackReferences.find? fun reference => reference.stepId == stepId with
  | none => none
  | some fallbackReference =>
    if (alreadyConsumed fallbackReference.fallbackStepId).isSome then none
    else validatedPlan.plan.steps.find? fun step =>
      step.stepId == fallbackReference.fallbackStepId

/-- The mutable state of the step loop. -/
structure LoopState where
  statuses : List ValidatedExecutionStatus
  outcomes : List (String × StepDeliveryOutcome)
  stopDispatching : Bool
  fallbackResults : String → Option StepDeliveryOutcome

/-- An `InProgress` status for the step, then its dispatch. -/
def attemptStep (step : ExecutionPlanStep) :
    Coordinated α (List ValidatedExecutionStatus × StepDeliveryOutcome) := do
  let inProgress ← pushInProgress route [step.stepId] context.startedAtUtc
  let outcome ← dispatchOneStep world route validatedPlan registry step
  return (inProgress, outcome)

/-- The fallback that an outcome calls for. -/
def fallbackFor (st : LoopState) (step : ExecutionPlanStep) (outcome : StepDeliveryOutcome) :
    Option ExecutionPlanStep :=
  if outcome.uncompleted then declaredFallbackStep validatedPlan step.stepId st.fallbackResults
  else none

/-- The turn of a step that is dispatched, with its fallback where it does not complete. -/
def dispatchTurn (st : LoopState) (step : ExecutionPlanStep) : Coordinated α LoopState := do
  let (inProgress, outcome) ← attemptStep world route validatedPlan registry context step
  let stops := fun (outcome : StepDeliveryOutcome) => outcome.uncompleted &&
    validatedPlan.plan.cancellationPolicy == .cancelRemainingSteps
  match fallbackFor validatedPlan st step outcome with
  | none =>
    return {
      statuses := st.statuses ++ inProgress
      outcomes := st.outcomes ++ [(step.stepId, outcome)]
      stopDispatching := stops outcome
      fallbackResults := st.fallbackResults }
  | some fallbackStep => do
    let (fallbackInProgress, fallbackOutcome) ←
      attemptStep world route validatedPlan registry context fallbackStep
    let outcome := if fallbackOutcome = .completed then
      .completedViaFallback fallbackStep.stepId else outcome
    return {
      statuses := st.statuses ++ inProgress ++ fallbackInProgress
      outcomes := st.outcomes ++ [(step.stepId, outcome)]
      stopDispatching := stops outcome
      fallbackResults :=
        Function.update st.fallbackResults fallbackStep.stepId (some fallbackOutcome) }

/-- The body of the step loop. -/
def stepTurn (st : LoopState) (step : ExecutionPlanStep) : Coordinated α LoopState :=
  match st.fallbackResults step.stepId with
  | some outcome =>
    -- already dispatched as another step's fallback: its real result is reused
    return { st with
      outcomes := st.outcomes ++ [(step.stepId, outcome)]
      fallbackResults := Function.update st.fallbackResults step.stepId none }
  | none =>
    if st.stopDispatching then
      return { st with outcomes := st.outcomes ++ [(step.stepId, .skipped)] }
    else dispatchTurn world route validatedPlan registry context st step

/-- The checks in front of the step loop, and the first status. -/
def enterStepLoop : FaLocalResult ValidatedExecutionStatus := do
  validateSelectedRouteForDelivery route
  require (some validatedPlan.plan.executionPlanId == route.executionPlanId &&
      some validatedPlan.stablePlanHash == route.stablePlanHash)
    "per-step delivery plan does not match the selected route's plan"
  buildAdmittedNotStartedStatusFromRoute route context.coordinatedAtUtc

def LoopState.start (admitted : ValidatedExecutionStatus) : LoopState where
  statuses := [admitted]
  outcomes := []
  stopDispatching := false
  fallbackResults := fun _ => none

/-- The trace after the step loop, closed by the aggregated status. -/
def concludeStepLoop (st : LoopState) : FaLocalResult ExecutionTrace := do
  let final ← buildPlanOutcomeStatusFromRoute route st.outcomes context.startedAtUtc
    context.completedAtUtc
  ExecutionTrace.new (st.statuses ++ [final])

def deliverPlanPerStepViaRegistry : Coordinated α ExecutionTrace := do
  let admitted ← Traced.lift (enterStepLoop route validatedPlan context)
  let st ← validatedPlan.plan.steps.foldlM
    (stepTurn world route validatedPlan registry context) (.start admitted)
  Traced.lift (concludeStepLoop route context st)

end

end ExecutionService

end FaLocal
