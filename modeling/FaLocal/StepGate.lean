import FaLocal.RunGate

/-!
# The capability of a call

What the registry says of the capabilities that calls are made for: all of them
are referenced by the accepted plan. When a capability out of service is kept
from admission, plans and calls; and what a call for a step rests on.
-/
namespace FaLocal

open ExecutionPlanValidator (Accepted CapabilityUsable accepted_of_validate)
open WorldEvent (calls)

namespace ExecutionPipelineService

open Fixture (twoStepRun plannedInputs)

/-! ## The capability of a call -/

section
variable {env : RunEnvironment} {inputs : ExecutionPipelineInputs}
  {adapterSelection : Option AdapterSelection}
  {additionalAdapters : List CapabilityScopedAdapterSelection} {d : RouteDecision}
  {prepared : Prepared} {plan : ExecutionPlan} {capabilities : CapabilityRegistry}

/-- What the validator has shown about a declared step and the capability it uses. -/
structure StepGoverned (capabilities : CapabilityRegistry) (plan : ExecutionPlan)
    (step : ExecutionPlanStep) (capability : CapabilityRecord) : Prop where
  usable : CapabilityUsable capabilities step.capabilityId capability
  declared : step.capabilityId ∈ plan.referencedCapabilities
  effect : capability.sideEffectClass = step.declaredSideEffectClass
  timeout : step.timeoutBudgetMs ≤ capability.timeoutBudgetMs

theorem stepGoverned_of_accepted {digest : PlanDigest} (h : Accepted digest plan capabilities)
    {step : ExecutionPlanStep} (hs : step ∈ plan.steps) :
    ∃ capability, StepGoverned capabilities plan step capability := by
  have hfit := h.fits step hs
  obtain ⟨capability, husable⟩ := h.usable _ hfit.declared
  obtain ⟨capability', hc, heffect, htimeout⟩ := hfit.capability
  cases husable.registered.symm.trans hc
  exact ⟨capability, husable, hfit.declared, heffect, htimeout⟩

/-- Every capability that a call carries is referenced by the accepted plan. -/
theorem Addressed.referenced
    (hfrom : PreparedFrom env inputs adapterSelection additionalAdapters d prepared plan
      capabilities) {dispatchMode : DispatchMode} {adapter : BuiltAdapter}
    {request : AdapterDeliveryRequest} (h : Addressed dispatchMode prepared adapter request) :
    ∀ c ∈ request.requestedCapabilityId :: request.declaredCapabilityIds,
      c ∈ prepared.validatedPlan.plan.referencedCapabilities := by
  obtain ⟨-, hacc⟩ := accepted_of_validate hfrom.validated
  cases dispatchMode with
  | wholeRoute =>
    obtain ⟨-, link, -, rfl⟩ := h
    intro c hc
    rw [hfrom.route] at hc
    rcases List.mem_cons.mp hc with rfl | hc
    · exact hfrom.matching.requested
    · exact hc
  | perStep =>
    obtain ⟨step, hs, -, rfl⟩ := h
    have hdeclared := (hacc.fits step hs).declared
    intro c hc
    rcases List.mem_cons.mp hc with rfl | hc
    · exact hdeclared
    · rw [List.mem_singleton.mp hc]
      exact hdeclared

end

/-- A capability in service: enabled, and neither disabled nor revoked. -/
structure InService (capability : CapabilityRecord) : Prop where
  enabled : capability.enabledState = .enabled
  active : capability.revocationState = .active

/-- Nothing is admitted, planned or called for a capability out of service. -/
structure WithdrawnRefused (registry : CapabilityRegistry) : Prop where
  admission : ∀ utcNow policy requester request capability,
    CapabilityRegistryLoader.admitExecutionRequest utcNow registry policy requester request =
      .ok capability → InService capability
  plans : ∀ digest utcNow plan v,
    ExecutionPlanValidator.validate digest utcNow plan registry = .ok v →
    ∀ c capability, c ∈ plan.referencedCapabilities ∨ c ∈ plan.steps.map (·.capabilityId) →
      registry.capabilityFor c = some capability → InService capability
  runs : ∀ env inputs adapterSelection additionalAdapters dispatchMode exportAdapter context log,
    env.loaders.capabilityRegistry inputs.capabilityRegistry = .ok registry →
    ∃ events, (run env inputs adapterSelection additionalAdapters dispatchMode exportAdapter
        context log).2 = log ++ events ∧
      ∀ call ∈ calls events, ∀ c ∈ call.2.1.requestedCapabilityId :: call.2.1.declaredCapabilityIds,
        ∀ capability, registry.capabilityFor c = some capability → InService capability

/-- No record in use (the first of its capability, enabled, and owned by fa-local)
has the revocation state `disabled`. -/
def NoneRevocationDisabled (registry : CapabilityRegistry) : Prop :=
  ∀ c capability, registry.capabilityFor c = some capability →
    capability.enabledState = .enabled → capability.ownerService = serviceId →
    capability.revocationState ≠ .disabled

theorem inService_of_usable {registry : CapabilityRegistry} (hr : NoneRevocationDisabled registry)
    {c : CapabilityId} {capability : CapabilityRecord}
    (h : CapabilityUsable registry c capability) : InService capability := by
  have henabled : capability.enabledState = .enabled := by
    cases he : capability.enabledState with
    | enabled => rfl
    | disabled => exact absurd he h.enabled
  have hdisabled := hr c capability h.registered henabled h.owned
  refine ⟨henabled, ?_⟩
  cases hs : capability.revocationState with
  | active => rfl
  | disabled => exact absurd hs hdisabled
  | revoked => exact absurd hs h.unrevoked

theorem referenced_inService {registry : CapabilityRegistry} (hr : NoneRevocationDisabled registry)
    {digest : PlanDigest} {plan : ExecutionPlan} (hacc : Accepted digest plan registry)
    {c : CapabilityId} (hc : c ∈ plan.referencedCapabilities) {capability : CapabilityRecord}
    (hcap : registry.capabilityFor c = some capability) : InService capability := by
  obtain ⟨capability', husable⟩ := hacc.usable c hc
  cases husable.registered.symm.trans hcap
  exact inService_of_usable hr husable

/-- The plan of one step that uses a capability. -/
def probePlan (digest : PlanDigest) (capability : CapabilityRecord) : ExecutionPlan :=
  let plan := fun hash =>
    { executionPlanId := ⟨⟨Vector.replicate 16 0⟩⟩
      correlationId := ⟨⟨Vector.replicate 16 0⟩⟩
      originatingRequestId := ⟨⟨Vector.replicate 16 0⟩⟩
      steps := [{ stepId := "probe", capabilityId := capability.capabilityId,
                  declaredSideEffectClass := capability.sideEffectClass, timeoutBudgetMs := 0 }]
      referencedCapabilities := [capability.capabilityId]
      declaredMaxStepCount := 1
      declaredSideEffectClasses := [capability.sideEffectClass]
      fallbackReferences := []
      cancellationPolicy := .cancelRemainingSteps
      completionPolicy := .allStepsMustSucceed
      maxDurationBudgetMs := 0
      stablePlanHash := hash
      plannedAtUtc := 0 : ExecutionPlan }
  plan (ExecutionPlanValidator.computeStablePlanHash digest (plan ""))

/-- It is accepted whatever the capability's revocation state, if that is not `revoked`. -/
theorem probePlan_accepted (digest : PlanDigest) {registry : CapabilityRegistry}
    {capability : CapabilityRecord}
    (h : CapabilityUsable registry capability.capabilityId capability) :
    Accepted digest (probePlan digest capability) registry where
  nonempty := by simp [probePlan]
  bounded := by
    simp only [probePlan, List.length_singleton]
    decide
  usable := by
    simp only [probePlan, List.mem_singleton, forall_eq]
    exact ⟨capability, h⟩
  distinct := by simp [probePlan]
  fits := by
    simp only [probePlan, List.mem_singleton, forall_eq]
    exact ⟨by simp, by simp, capability, h.registered, rfl, by simp⟩
  budget := by simp [probePlan, ExecutionPlanValidator.timeoutSum]
  aware := by simp [probePlan]
  later := by simp [probePlan]
  hashed := rfl

/-! ## Capabilities out of service -/

/-- Capabilities out of service are refused exactly when no record in use is disabled
by its revocation state. -/
theorem withdrawnRefused_iff (registry : CapabilityRegistry) :
    WithdrawnRefused registry ↔ NoneRevocationDisabled registry := by
  constructor
  · intro h c capability hc henabled howned hdisabled
    have husable : CapabilityUsable registry capability.capabilityId capability := by
      rw [registry.capabilityFor_id hc]
      exact ⟨hc, by simp [henabled], by simp [hdisabled], howned⟩
    have hok : ExecutionPlanValidator.validate Fixture.fallbackDigest 0
        (probePlan Fixture.fallbackDigest capability) registry = .ok ⟨_, _⟩ :=
      ExecutionPlanValidator.validate_eq_ok.mpr
        ⟨probePlan_accepted Fixture.fallbackDigest husable, rfl⟩
    have hin := h.plans _ _ _ _ hok capability.capabilityId capability
      (.inl (by simp [probePlan])) husable.registered
    rw [hin.active] at hdisabled
    cases hdisabled
  · intro hr
    refine ⟨?_, ?_, ?_⟩
    · intro utcNow policy requester request capability h
      obtain ⟨rule, hadm⟩ := CapabilityRegistryLoader.admitted_of_ok h
      exact inService_of_usable hr
        ⟨hadm.registered, by simp [hadm.enabled], hadm.unrevoked, hadm.owned⟩
    · intro digest utcNow plan v h c capability hc hcap
      obtain ⟨hplan, hacc⟩ := accepted_of_validate h
      rw [hplan] at hacc
      refine referenced_inService hr hacc ?_ hcap
      rcases hc with hc | hc
      · exact hc
      · obtain ⟨step, hs, rfl⟩ := List.mem_map.mp hc
        exact (hacc.fits step hs).declared
    · intro env inputs adapterSelection additionalAdapters dispatchMode exportAdapter context log
        hreg
      obtain ⟨events, hreached, he⟩ := run_calls env inputs adapterSelection additionalAdapters
        dispatchMode exportAdapter context log
      refine ⟨events, he, fun call hcall c hc capability hcap => ?_⟩
      obtain ⟨d, prepared, hr', haddr⟩ := hreached call hcall
      obtain ⟨plan, capabilities, hfrom⟩ := prepare_eq_inr hr'.admitted hr'.prepared
      cases hreg.symm.trans hfrom.registry
      exact referenced_inService hr (accepted_of_validate hfrom.validated).2
        (haddr.referenced hfrom c hc) hcap

/-- With every revocation state `disabled` the request is admitted, and both steps
of its plan are called. -/
theorem withdrawn_called :
    (∀ capability ∈ Fixture.withdrawnCapabilities.capabilities,
      capability.revocationState = .disabled) ∧
    (CapabilityRegistryLoader.admitExecutionRequest 0 Fixture.withdrawnCapabilities Fixture.policy
      Fixture.envelope Fixture.request).isOk = true ∧
    Fixture.calledCapabilities (twoStepRun Fixture.withdrawnCapabilities) =
      [Fixture.id .capability 4, Fixture.id .capability 8] ∧
    ¬ WithdrawnRefused Fixture.withdrawnCapabilities := by
  have hok : (CapabilityRegistryLoader.admitExecutionRequest 0 Fixture.withdrawnCapabilities
      Fixture.policy Fixture.envelope Fixture.request).isOk = true := by decide +kernel
  have hall : ∀ r ∈ Fixture.withdrawnCapabilities.capabilities,
      r.revocationState = .disabled := by decide
  refine ⟨hall, hok, Fixture.withdrawnRun_calls, fun h => ?_⟩
  obtain ⟨capability, hadm⟩ := exists_of_isOk hok
  obtain ⟨rule, ha⟩ := CapabilityRegistryLoader.admitted_of_ok hadm
  have hmem := List.mem_of_find?_eq_some ha.registered
  have hactive := (h.admission _ _ _ _ _ hadm).active
  rw [hall capability hmem] at hactive
  cases hactive

/-! ## Calls for a step -/

/-- What stands behind the call of a step: the requested capability is admissible,
the step's own capability is one that the accepted plan may use. -/
structure GovernedCall (env : RunEnvironment) (inputs : ExecutionPipelineInputs)
    (context : RouteResolutionContext) (adapter : BuiltAdapter)
    (adapterRequest : AdapterDeliveryRequest) (request : ExecutionRequest)
    (envelope : RequesterTrustEnvelope) (policy : PolicyArtifact)
    (capabilities : CapabilityRegistry) (plan : ExecutionPlan)
    (requested capability : CapabilityRecord) (rule : CapabilityRule) (approval : ApprovalRule)
    (step : ExecutionPlanStep) : Prop where
  intake : env.loaders.executionRequest inputs.request = .ok request
  trust : env.loaders.requesterTrust inputs.requesterTrust = .ok envelope
  artifact : env.loaders.policyArtifact inputs.policy = .ok policy
  registry : env.loaders.capabilityRegistry inputs.capabilityRegistry = .ok capabilities
  supplied : ∃ value, inputs.executionPlan = some value ∧
    env.loaders.executionPlan value = .ok plan
  admissible : Admissible request envelope policy capabilities context.decidedAtUtc requested rule
    approval
  declared : step ∈ plan.steps
  calledFor : adapterRequest.declaredStepIds = [step.stepId] ∧
    adapterRequest.requestedCapabilityId = step.capabilityId
  adapter : adapter.supportedCapabilityId = step.capabilityId
  governed : StepGoverned capabilities plan step capability
  own : step.capabilityId = request.requestedCapabilityId → capability = requested

/-- In per-step mode the step's capability is one that the plan may use. The policy
has only been asked about the requested one. -/
theorem run_step_governed (env : RunEnvironment) (inputs : ExecutionPipelineInputs)
    (adapterSelection : Option AdapterSelection)
    (additionalAdapters : List CapabilityScopedAdapterSelection)
    (exportAdapter : Option (ForensicEventExportAdapter BuiltAdapter))
    (context : RouteResolutionContext) (log : List (WorldEvent BuiltAdapter)) :
    ∃ events, (run env inputs adapterSelection additionalAdapters .perStep exportAdapter context
        log).2 = log ++ events ∧
      ∀ call ∈ calls events, ∃ request envelope policy capabilities plan requested capability rule
        approval step, GovernedCall env inputs context call.1 call.2.1 request envelope policy
          capabilities plan requested capability rule approval step := by
  obtain ⟨events, hreached, he⟩ := run_calls env inputs adapterSelection additionalAdapters
    .perStep exportAdapter context log
  refine ⟨events, he, fun call hc => ?_⟩
  obtain ⟨d, prepared, hr, step, hs, hres, hreq⟩ := hreached call hc
  obtain ⟨request, capabilities, envelope, policy, requested, rule, approval, hrequest, hregistry,
    henvelope, hpolicy, hadm⟩ := DecisionService.admissible_of_allowed hr.decided hr.flags.2
  obtain ⟨plan, capabilities', hfrom⟩ := prepare_eq_inr hr.admitted hr.prepared
  cases hregistry.symm.trans hfrom.registry
  obtain ⟨hplan, hacc⟩ := accepted_of_validate hfrom.validated
  rw [hplan] at hacc hs
  obtain ⟨capability, hgov⟩ := stepGoverned_of_accepted hacc hs
  refine ⟨request, envelope, policy, capabilities, plan, requested, capability, rule, approval,
    step, {
      intake := hrequest
      trust := henvelope
      artifact := hpolicy
      registry := hregistry
      supplied := hfrom.supplied
      admissible := hadm
      declared := hs
      calledFor := by
        rw [hreq]
        exact ⟨rfl, rfl⟩
      adapter := buildRegistry_supported hfrom.adapters hres
      governed := hgov
      own := fun hown => ?_ }⟩
  have hc := hgov.usable.registered
  rw [hown] at hc
  exact Option.some.inj (hc.symm.trans hadm.registered)

/-- The second step of the two-step run is called, and the policy has no rule for
its capability. -/
theorem run_step_unruled :
    Fixture.id .capability 8 ∈ Fixture.calledCapabilities (twoStepRun Fixture.capabilities) ∧
    (twoStepRun Fixture.capabilities).loaders.policyArtifact plannedInputs.policy =
      .ok Fixture.policy ∧
    Fixture.policy.capabilityRuleFor (Fixture.id .capability 8) = none := by
  refine ⟨?_, rfl, by decide⟩
  rw [Fixture.twoStepRun_calls]
  simp

end ExecutionPipelineService

end FaLocal
