import FaLocal.PlanValidation
import FaLocal.PostureLaws

/-!
# Route selection

`RoutingInput::new` and `RoutingService::select_route`.
-/
namespace FaLocal

inductive RoutePathKind where
  | nonExecutableDenied | nonExecutableReviewRequired | awaitExplicitApproval
  | externalAdapterBoundedExecution
  deriving DecidableEq

structure RoutingInput where
  routeDecision : RouteDecision
  validatedPlan : Option ValidatedExecutionPlan

structure SelectedExecutionRoute where
  routePathKind : RoutePathKind
  routeDecisionId : RouteDecisionId
  correlationId : CorrelationId
  requestId : RequestId
  resolvedApprovalPosture : ApprovalPosture
  requestedCapabilityId : CapabilityId
  executionPlanId : Option ExecutionPlanId
  stablePlanHash : Option String
  declaredStepIds : List String
  declaredCapabilityIds : List CapabilityId
  declaredFallbackReferences : List FallbackReference
  executable : Bool
  explicitApprovalRequired : Bool
  operatorVisibleSummary : String
  deriving DecidableEq

namespace RoutingInput

def validateRouteDecisionSurface (routeDecision : RouteDecision) : FaLocalResult Unit :=
  routeDecisionSurface "routing expectations" routeDecision

def validatePlanMatchesRoute (routeDecision : RouteDecision)
    (validatedPlan : ValidatedExecutionPlan) : FaLocalResult Unit := do
  require (validatedPlan.plan.correlationId == routeDecision.correlationId)
    "routing plan correlation_id does not match route decision"
  require (validatedPlan.plan.originatingRequestId == routeDecision.requestId)
    "routing plan request_id does not match route decision"
  require (validatedPlan.plan.referencedCapabilities.contains
      routeDecision.capabilityDecisionSummary.requestedCapabilityId)
    "routing plan does not include route decision requested capability"

def new (routeDecision : RouteDecision) (validatedPlan : Option ValidatedExecutionPlan) :
    FaLocalResult RoutingInput := do
  validateRouteDecisionSurface routeDecision
  match routeDecision.resolvedApprovalPosture with
  | .denied | .reviewRequired =>
    require validatedPlan.isNone
      "non-executable routing input must not include validated execution plan"
  | .explicitOperatorApproval | .policyPreapproved | .executeAllowed =>
    match validatedPlan with
    | none => .error (contractInvalid "routable execution input requires validated execution plan")
    | some validatedPlan => validatePlanMatchesRoute routeDecision validatedPlan
  return { routeDecision := routeDecision, validatedPlan := validatedPlan }

end RoutingInput

namespace RoutingService

def nonExecutableRoute (routeDecision : RouteDecision) (routePathKind : RoutePathKind)
    (explicitApprovalRequired : Bool) : SelectedExecutionRoute where
  routePathKind := routePathKind
  routeDecisionId := routeDecision.routeDecisionId
  correlationId := routeDecision.correlationId
  requestId := routeDecision.requestId
  resolvedApprovalPosture := routeDecision.resolvedApprovalPosture
  requestedCapabilityId := routeDecision.capabilityDecisionSummary.requestedCapabilityId
  executionPlanId := none
  stablePlanHash := none
  declaredStepIds := []
  declaredCapabilityIds := []
  declaredFallbackReferences := []
  executable := false
  explicitApprovalRequired := explicitApprovalRequired
  operatorVisibleSummary := routeDecision.operatorVisibleSummary

def routablePlanSelection (routeDecision : RouteDecision) (validatedPlan : ValidatedExecutionPlan)
    (routePathKind : RoutePathKind) (executable explicitApprovalRequired : Bool) :
    SelectedExecutionRoute where
  routePathKind := routePathKind
  routeDecisionId := routeDecision.routeDecisionId
  correlationId := routeDecision.correlationId
  requestId := routeDecision.requestId
  resolvedApprovalPosture := routeDecision.resolvedApprovalPosture
  requestedCapabilityId := routeDecision.capabilityDecisionSummary.requestedCapabilityId
  executionPlanId := some validatedPlan.plan.executionPlanId
  stablePlanHash := some validatedPlan.stablePlanHash
  declaredStepIds := validatedPlan.plan.steps.map (·.stepId)
  declaredCapabilityIds := validatedPlan.plan.referencedCapabilities
  declaredFallbackReferences := validatedPlan.plan.fallbackReferences
  executable := executable
  explicitApprovalRequired := explicitApprovalRequired
  operatorVisibleSummary := routeDecision.operatorVisibleSummary

def selectRoute (input : RoutingInput) : FaLocalResult SelectedExecutionRoute :=
  match input.routeDecision.resolvedApprovalPosture with
  | .denied => .ok (nonExecutableRoute input.routeDecision .nonExecutableDenied false)
  | .reviewRequired =>
    .ok (nonExecutableRoute input.routeDecision .nonExecutableReviewRequired false)
  | .explicitOperatorApproval =>
    match input.validatedPlan with
    | none => .error (contractInvalid
        "explicit approval route selection requires validated plan")
    | some validatedPlan =>
      .ok (routablePlanSelection input.routeDecision validatedPlan .awaitExplicitApproval false true)
  | .policyPreapproved | .executeAllowed =>
    match input.validatedPlan with
    | none => .error (contractInvalid "admitted route selection requires validated plan")
    | some validatedPlan =>
      .ok (routablePlanSelection input.routeDecision validatedPlan
        .externalAdapterBoundedExecution true false)

end RoutingService

/-! ## What a selected route says -/

/-- What a plan and a decision have shown when they entered routing together. -/
structure Matches (d : RouteDecision) (v : ValidatedExecutionPlan) : Prop where
  flags : ApprovalPostureResolver.FlagsFit d
  correlationId : v.plan.correlationId = d.correlationId
  requestId : v.plan.originatingRequestId = d.requestId
  requested : d.capabilityDecisionSummary.requestedCapabilityId ∈ v.plan.referencedCapabilities

section
variable {d : RouteDecision} {v : ValidatedExecutionPlan} {route : SelectedExecutionRoute}

theorem RoutingInput.validatePlanMatchesRoute_eq_ok :
    validatePlanMatchesRoute d v = .ok () ↔
      v.plan.correlationId = d.correlationId ∧ v.plan.originatingRequestId = d.requestId ∧
      d.capabilityDecisionSummary.requestedCapabilityId ∈ v.plan.referencedCapabilities := by
  simp [validatePlanMatchesRoute, seq_eq_ok]

/-- An admitted decision and a plan enter routing exactly when they match. -/
theorem RoutingInput.new_eq_ok (hp : d.resolvedApprovalPosture.admitted = true)
    {input : RoutingInput} :
    new d (some v) = .ok input ↔ Matches d v ∧ input = ⟨d, some v⟩ := by
  have hiff : Matches d v ↔ validateRouteDecisionSurface d = .ok () ∧
      validatePlanMatchesRoute d v = .ok () := by
    rw [validateRouteDecisionSurface, routeDecisionSurface_eq_ok, validatePlanMatchesRoute_eq_ok]
    exact ⟨fun h => ⟨h.flags, h.correlationId, h.requestId, h.requested⟩,
      fun h => ⟨h.1, h.2.1, h.2.2.1, h.2.2.2⟩⟩
  have hpure : (.ok ⟨d, some v⟩ : FaLocalResult RoutingInput) = .ok input ↔
      input = ⟨d, some v⟩ := by
    rw [Except.ok.injEq, eq_comm]
  rw [hiff]
  cases hpos : d.resolvedApprovalPosture with
  | denied => simp [hpos, ApprovalPosture.admitted] at hp
  | reviewRequired => simp [hpos, ApprovalPosture.admitted] at hp
  | explicitOperatorApproval => simp [hpos, ApprovalPosture.admitted] at hp
  | policyPreapproved =>
    simp only [new, hpos, seq_eq_ok, and_assoc, pure, Except.pure, hpure]
  | executeAllowed =>
    simp only [new, hpos, seq_eq_ok, and_assoc, pure, Except.pure, hpure]

theorem RoutingService.selectRoute_of_admitted (hp : d.resolvedApprovalPosture.admitted = true) :
    selectRoute ⟨d, some v⟩ =
      .ok (routablePlanSelection d v .externalAdapterBoundedExecution true false) := by
  cases hpos : d.resolvedApprovalPosture <;> simp [hpos, ApprovalPosture.admitted] at hp <;>
    simp [selectRoute, hpos]

end

end FaLocal
