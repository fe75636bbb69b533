import FaLocal.PostureLaws

/-!
# Route decisions

`DecisionService::resolve_route_decision`. A request or registry that does not
load is an error; an envelope or policy that is refused becomes a guard of the
decision.
-/
namespace FaLocal

structure IntakeValidationResult where
  request : ExecutionRequest

def IntakeService.validateRequest (loaders : ContractLoaders) (value : Value) :
    FaLocalResult IntakeValidationResult := do
  let request ← loaded (loaders.executionRequest value)
  return { request := request }

/-- The clock readings of the guards that carry their own time. -/
structure GuardClock where
  trust : TimestampUtc
  policy : TimestampUtc
  admission : TimestampUtc

namespace DecisionService

def prerequisiteUnavailableDenial (utcNow : TimestampUtc) : DenialGuard :=
  deny utcNow .capabilityNotAdmitted .capability .contract
    "capability admission requires successful requester trust and policy evaluation"

/-- The outcomes of the three gates. -/
def routeResolutionInput (loaders : ContractLoaders) (clock : GuardClock)
    (request : ExecutionRequest) (requesterTrust policy : Value)
    (capabilityRegistry : CapabilityRegistry) (context : RouteResolutionContext) :
    RouteResolutionInput :=
  let trustContext : TrustEvaluationContext :=
    { expectedEnvironment := request.environmentMode, now := context.decidedAtUtc }
  let requesterTrustOutcome :=
    RequesterTrustEngine.loadAndEvaluate loaders clock.trust requesterTrust trustContext
  let policyOutcome := PolicyArtifactLoader.loadRequiredValue loaders clock.policy (some policy)
  let capabilityAdmissionOutcome := match requesterTrustOutcome, policyOutcome with
    | .ok requester, .ok policy =>
      CapabilityRegistryLoader.admitExecutionRequest clock.admission capabilityRegistry policy
        requester request
    | _, _ => .error (prerequisiteUnavailableDenial clock.admission)
  { request := request
    requesterTrustOutcome := requesterTrustOutcome
    policyOutcome := policyOutcome
    capabilityAdmissionOutcome := capabilityAdmissionOutcome }

def resolveRouteDecision (loaders : ContractLoaders) (clock : GuardClock)
    (request requesterTrust policy capabilityRegistry : Value)
    (context : RouteResolutionContext) : FaLocalResult RouteDecision := do
  let capabilityRegistry ← loaded (loaders.capabilityRegistry capabilityRegistry)
  let intake ← IntakeService.validateRequest loaders request
  ApprovalPostureResolver.resolve
    (routeResolutionInput loaders clock intake.request requesterTrust policy capabilityRegistry
      context) context

end DecisionService

namespace DecisionService

variable {loaders : ContractLoaders} {clock : GuardClock} {context : RouteResolutionContext}
  {request trust policy registry : Value}

theorem resolveRouteDecision_of_loaded {typedRequest : ExecutionRequest}
    {typedRegistry : CapabilityRegistry}
    (hg : loaders.capabilityRegistry registry = .ok typedRegistry)
    (hr : loaders.executionRequest request = .ok typedRequest) :
    resolveRouteDecision loaders clock request trust policy registry context =
      ApprovalPostureResolver.resolve
        (routeResolutionInput loaders clock typedRequest trust policy typedRegistry context)
        context := by
  simp [resolveRouteDecision, IntakeService.validateRequest, hg, hr, loaded, Except.mapError,
    bind, Except.bind, pure, Except.pure]

theorem resolveRouteDecision_eq_ok {d : RouteDecision}
    (h : resolveRouteDecision loaders clock request trust policy registry context = .ok d) :
    ∃ typedRequest typedRegistry, loaders.capabilityRegistry registry = .ok typedRegistry ∧
      loaders.executionRequest request = .ok typedRequest ∧
      ApprovalPostureResolver.resolve
        (routeResolutionInput loaders clock typedRequest trust policy typedRegistry context)
        context = .ok d := by
  simp only [resolveRouteDecision, IntakeService.validateRequest, bind_eq_ok] at h
  obtain ⟨typedRegistry, hg, intake, ⟨typedRequest, hr, hintake⟩, hres⟩ := h
  cases hintake
  exact ⟨typedRequest, typedRegistry, loaded_eq_ok.mp hg, loaded_eq_ok.mp hr, hres⟩

end DecisionService

end FaLocal
