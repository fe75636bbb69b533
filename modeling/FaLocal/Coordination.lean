import FaLocal.PostureOrder

/-!
# Coordination

`CoordinationInput::new` and `ExecutionService::coordinate`: the statuses that a
decision, its plan and a directive lead to when no adapter is asked.
-/
namespace FaLocal

inductive CoordinationDirective where
  | noExecution
  | completeDeclaredPlan
  | failAtDeclaredStep (stepId failureSummary : String)
  | cancelInFlight (stepId : String)
  | unsupportedRuntimeCondition (summary : String)
  deriving DecidableEq

def CoordinationDirective.requiresAdmittedExecution : CoordinationDirective → Bool
  | .noExecution => false
  | _ => true

structure CoordinationInput where
  routeDecision : RouteDecision
  validatedPlan : Option ValidatedExecutionPlan
  directive : CoordinationDirective
  context : CoordinationContext

namespace CoordinationInput

def validatePlanMatchesRoute (routeDecision : RouteDecision)
    (validatedPlan : ValidatedExecutionPlan) : FaLocalResult Unit := do
  require (validatedPlan.plan.correlationId == routeDecision.correlationId)
    "execution coordinator plan correlation_id does not match route decision"
  require (validatedPlan.plan.originatingRequestId == routeDecision.requestId)
    "execution coordinator plan request_id does not match route decision"

/-- The match in `new`: which plan and which directive a posture admits. -/
def validatePlanAndDirective (routeDecision : RouteDecision)
    (validatedPlan : Option ValidatedExecutionPlan) (directive : CoordinationDirective) :
    FaLocalResult Unit :=
  match routeDecision.resolvedApprovalPosture with
  | .denied | .reviewRequired => do
    require validatedPlan.isNone
      "pre-execution denied or review routes must not enter coordinator with execution plan"
    require (!directive.requiresAdmittedExecution)
      "route posture does not admit execution coordination"
  | .explicitOperatorApproval =>
    match validatedPlan with
    | none => .error (contractInvalid
        "explicit approval coordination requires validated execution plan")
    | some plan => do
      validatePlanMatchesRoute routeDecision plan
      require (!directive.requiresAdmittedExecution)
        "explicit approval route cannot enter execution progression without approval"
  | .policyPreapproved | .executeAllowed =>
    match validatedPlan with
    | none => .error (contractInvalid
        "admitted execution coordination requires validated execution plan")
    | some plan => validatePlanMatchesRoute routeDecision plan

def new (routeDecision : RouteDecision) (validatedPlan : Option ValidatedExecutionPlan)
    (directive : CoordinationDirective) (context : CoordinationContext) :
    FaLocalResult CoordinationInput := do
  ExecutionService.validateRouteDecisionSurface routeDecision
  validatePlanAndDirective routeDecision validatedPlan directive
  return { routeDecision, validatedPlan, directive, context }

/-- An accepted input holds what it was made of. -/
theorem new_fields {routeDecision : RouteDecision} {validatedPlan : Option ValidatedExecutionPlan}
    {directive : CoordinationDirective} {context : CoordinationContext}
    {input : CoordinationInput}
    (h : new routeDecision validatedPlan directive context = .ok input) :
    input = ⟨routeDecision, validatedPlan, directive, context⟩ := by
  rw [new, seq_eq_ok, seq_eq_ok] at h
  obtain ⟨-, -, hinput⟩ := h
  cases hinput
  rfl

end CoordinationInput

namespace ExecutionService

/-! ## Status builders -/

/-- The fields that all statuses built from a decision share; the builders add the others. -/
def decisionStatus (routeDecision : RouteDecision) (link : Option (ExecutionPlanId × String))
    (currentPosture : ApprovalPosture) (state : ExecutionState) (updatedAtUtc : TimestampUtc)
    (summary : String) : ExecutionStatus where
  requestId := routeDecision.requestId
  correlationId := routeDecision.correlationId
  executionPlanId := link.map (·.1)
  stablePlanHash := link.map (·.2)
  currentPosture := currentPosture
  state := state
  degradedSubtype := none
  startedAtUtc := none
  updatedAtUtc := updatedAtUtc
  completedAtUtc := none
  currentStep := none
  completionSummary := none
  failureSummary := none
  truthfulUserVisibleSummary := summary

def buildDeniedStatus (routeDecision : RouteDecision) (updatedAtUtc : TimestampUtc) :
    FaLocalResult ValidatedExecutionStatus :=
  emitStatus (decisionStatus routeDecision none .denied .denied updatedAtUtc
    routeDecision.operatorVisibleSummary)

def buildReviewRequiredStatus (routeDecision : RouteDecision) (updatedAtUtc : TimestampUtc) :
    FaLocalResult ValidatedExecutionStatus :=
  emitStatus (decisionStatus routeDecision none .reviewRequired .reviewRequired updatedAtUtc
    routeDecision.operatorVisibleSummary)

def buildWaitingApprovalStatus (routeDecision : RouteDecision) (updatedAtUtc : TimestampUtc) :
    FaLocalResult ValidatedExecutionStatus :=
  emitStatus (decisionStatus routeDecision none .explicitOperatorApproval .waitingExplicitApproval
    updatedAtUtc "waiting for explicit operator approval")

/-- The status of an admitted decision and its plan. -/
def plannedStatus (routeDecision : RouteDecision) (validatedPlan : ValidatedExecutionPlan)
    (state : ExecutionState) (updatedAtUtc : TimestampUtc) (summary : String) : ExecutionStatus :=
  decisionStatus routeDecision
    (some (validatedPlan.plan.executionPlanId, validatedPlan.stablePlanHash))
    routeDecision.resolvedApprovalPosture state updatedAtUtc summary

section
variable (routeDecision : RouteDecision) (validatedPlan : ValidatedExecutionPlan)

def plannedAdmittedStatus (updatedAtUtc : TimestampUtc) : ExecutionStatus :=
  plannedStatus routeDecision validatedPlan .admittedNotStarted updatedAtUtc
    "execution admitted and bounded plan is ready to start"

def buildAdmittedNotStartedStatus (updatedAtUtc : TimestampUtc) :
    FaLocalResult ValidatedExecutionStatus :=
  emitStatus (plannedAdmittedStatus routeDecision validatedPlan updatedAtUtc)

def plannedInProgressStatus (startedAtUtc : TimestampUtc) (stepId : String) : ExecutionStatus :=
  { plannedStatus routeDecision validatedPlan .inProgress startedAtUtc
      ("executing declared step " ++ stepId) with
    startedAtUtc := some startedAtUtc
    currentStep := some stepId }

def buildInProgressStatuses (stepIds : List String) (startedAtUtc : TimestampUtc) :
    FaLocalResult (List ValidatedExecutionStatus) :=
  stepIds.mapM fun stepId =>
    emitStatus (plannedInProgressStatus routeDecision validatedPlan startedAtUtc stepId)

def plannedCompletedStatus (startedAtUtc completedAtUtc : TimestampUtc) : ExecutionStatus :=
  { plannedStatus routeDecision validatedPlan .completed completedAtUtc
      "execution completed for all declared plan steps" with
    startedAtUtc := some startedAtUtc
    completedAtUtc := some completedAtUtc
    completionSummary := some "execution completed for all declared plan steps" }

def buildCompletedStatus (startedAtUtc completedAtUtc : TimestampUtc) :
    FaLocalResult ValidatedExecutionStatus :=
  emitStatus (plannedCompletedStatus routeDecision validatedPlan startedAtUtc completedAtUtc)

def buildFailedStatus (startedAtUtc completedAtUtc : TimestampUtc) (failureSummary : String) :
    FaLocalResult ValidatedExecutionStatus :=
  emitStatus { plannedStatus routeDecision validatedPlan .failed completedAtUtc failureSummary with
    startedAtUtc := some startedAtUtc
    completedAtUtc := some completedAtUtc
    failureSummary := some failureSummary }

def buildCanceledStatus (startedAtUtc completedAtUtc : TimestampUtc) (stepId : String) :
    FaLocalResult ValidatedExecutionStatus :=
  emitStatus { plannedStatus routeDecision validatedPlan .canceled completedAtUtc
      ("execution canceled during declared step " ++ stepId) with
    startedAtUtc := some startedAtUtc
    completedAtUtc := some completedAtUtc }

/-! ## The coordinator -/

def declaredStepsThrough (targetStepId errorMessage : String) : FaLocalResult (List String) :=
  match validatedPlan.plan.steps.findIdx? fun step => step.stepId == targetStepId with
  | none => .error (contractInvalid errorMessage)
  | some targetIndex =>
    .ok ((validatedPlan.plan.steps.take (targetIndex + 1)).map (·.stepId))

def undeclaredStep : String := "execution coordinator step is not declared in execution plan"

def coordinateAdmittedRoute (directive : CoordinationDirective) (context : CoordinationContext) :
    FaLocalResult ExecutionTrace := do
  let admitted ← buildAdmittedNotStartedStatus routeDecision validatedPlan
    context.coordinatedAtUtc
  match directive with
  | .noExecution => ExecutionTrace.new [admitted]
  | .completeDeclaredPlan => do
    let inProgress ← buildInProgressStatuses routeDecision validatedPlan
      (validatedPlan.plan.steps.map (·.stepId)) context.startedAtUtc
    let completed ← buildCompletedStatus routeDecision validatedPlan context.startedAtUtc
      context.completedAtUtc
    ExecutionTrace.new (admitted :: inProgress ++ [completed])
  | .failAtDeclaredStep stepId failureSummary => do
    validateRequiredSummary failureSummary "execution coordinator failure_summary"
    let stepIds ← declaredStepsThrough validatedPlan stepId undeclaredStep
    let inProgress ← buildInProgressStatuses routeDecision validatedPlan stepIds
      context.startedAtUtc
    let failed ← buildFailedStatus routeDecision validatedPlan context.startedAtUtc
      context.completedAtUtc failureSummary
    ExecutionTrace.new (admitted :: inProgress ++ [failed])
  | .cancelInFlight stepId => do
    let stepIds ← declaredStepsThrough validatedPlan stepId undeclaredStep
    let inProgress ← buildInProgressStatuses routeDecision validatedPlan stepIds
      context.startedAtUtc
    let canceled ← buildCanceledStatus routeDecision validatedPlan context.startedAtUtc
      context.completedAtUtc stepId
    ExecutionTrace.new (admitted :: inProgress ++ [canceled])
  | .unsupportedRuntimeCondition summary => do
    validateRequiredSummary summary "execution coordinator unsupported runtime summary"
    .error (contractInvalid ("unsupported runtime condition: " ++ summary))

end

def coordinate (input : CoordinationInput) : FaLocalResult ExecutionTrace :=
  match input.routeDecision.resolvedApprovalPosture with
  | .denied => do
    let status ← buildDeniedStatus input.routeDecision input.context.coordinatedAtUtc
    ExecutionTrace.new [status]
  | .reviewRequired => do
    let status ← buildReviewRequiredStatus input.routeDecision input.context.coordinatedAtUtc
    ExecutionTrace.new [status]
  | .explicitOperatorApproval => do
    let status ← buildWaitingApprovalStatus input.routeDecision input.context.coordinatedAtUtc
    ExecutionTrace.new [status]
  | .policyPreapproved | .executeAllowed =>
    match input.validatedPlan with
    | none => .error (.panicked
        "validated plan required for admitted coordination after input validation")
    | some validatedPlan =>
      coordinateAdmittedRoute input.routeDecision validatedPlan input.directive input.context

section
variable {d : RouteDecision} {v : ValidatedExecutionPlan} {context : CoordinationContext}
  {trace : ExecutionTrace}

theorem traceNew_statuses {statuses : List ValidatedExecutionStatus}
    (h : ExecutionTrace.new statuses = .ok trace) : trace.statuses = statuses := by
  unfold ExecutionTrace.new at h
  split at h
  · cases h
  · cases h
    rfl

theorem coordinate_of_admitted (hp : d.resolvedApprovalPosture.admitted = true)
    (directive : CoordinationDirective) :
    coordinate ⟨d, some v, directive, context⟩ = coordinateAdmittedRoute d v directive context := by
  cases hpos : d.resolvedApprovalPosture <;> simp [hpos, ApprovalPosture.admitted] at hp <;>
    simp [coordinate, hpos]

/-- The statuses of a plan that is completed as declared. -/
theorem completed_statuses
    (h : coordinateAdmittedRoute d v .completeDeclaredPlan context = .ok trace) :
    trace.statuses.map (·.status) = plannedAdmittedStatus d v context.coordinatedAtUtc ::
      (v.plan.steps.map (·.stepId)).map (plannedInProgressStatus d v context.startedAtUtc) ++
      [plannedCompletedStatus d v context.startedAtUtc context.completedAtUtc] := by
  simp only [coordinateAdmittedRoute, bind_eq_ok] at h
  obtain ⟨admitted, hadmitted, inProgress, hinProgress, completed, hcompleted, htrace⟩ := h
  rw [traceNew_statuses htrace, List.map_append, List.map_cons, emitStatus_eq_ok.mp hadmitted,
    mapM_emitStatus_ok hinProgress, List.map_singleton, emitStatus_eq_ok.mp hcompleted]

/-- The states of a trace, with the steps that are under way in them. -/
def traceStates (trace : ExecutionTrace) : List (ExecutionState × Option String) :=
  trace.statuses.map fun status => (status.status.state, status.status.currentStep)

theorem completed_states
    (h : coordinateAdmittedRoute d v .completeDeclaredPlan context = .ok trace) :
    traceStates trace = (.admittedNotStarted, none) ::
      (v.plan.steps.map (·.stepId)).map (fun stepId => (.inProgress, some stepId)) ++
      [(.completed, none)] := by
  have hmap := congrArg (List.map fun status : ExecutionStatus =>
    (status.state, status.currentStep)) (completed_statuses h)
  simpa [traceStates, Function.comp_def, plannedAdmittedStatus, plannedInProgressStatus,
    plannedCompletedStatus, plannedStatus, decisionStatus] using hmap

end

end ExecutionService

end FaLocal
