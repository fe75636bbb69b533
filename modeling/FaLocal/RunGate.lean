import FaLocal.DenialEvidence
import FaLocal.RunCalls

/-!
# The gates in front of a call

What the decision, the validator, routing and registration have established
whenever a run calls an adapter, for the requested capability and for the
capability that the call is made for.
-/
namespace FaLocal

open ApprovalPostureResolver (FlagsFit)
open ExecutionPlanValidator (accepted_of_validate)
open WorldEvent (calls)

namespace DecisionService

/-- A decision that allows execution was made about an admissible request. -/
theorem admissible_of_allowed {loaders : ContractLoaders} {clock : GuardClock}
    {context : RouteResolutionContext} {request trust policy registry : Value} {d : RouteDecision}
    (h : resolveRouteDecision loaders clock request trust policy registry context = .ok d)
    (hx : d.executionAllowed = true) :
    ∃ typedRequest typedRegistry envelope artifact capability rule approval,
      loaders.executionRequest request = .ok typedRequest ∧
      loaders.capabilityRegistry registry = .ok typedRegistry ∧
      loaders.requesterTrust trust = .ok envelope ∧ loaders.policyArtifact policy = .ok artifact ∧
      Admissible typedRequest envelope artifact typedRegistry context.decidedAtUtc capability rule
        approval := by
  obtain ⟨typedRequest, typedRegistry, hg, hr, hres⟩ := resolveRouteDecision_eq_ok h
  obtain ⟨envelope, artifact, capability, ht, hp, hc, hv, hf⟩ :=
    ApprovalPostureResolver.resolve_allowed_iff.mp ⟨d, hres, hx⟩
  simp only [routeResolutionInput] at ht hp hc hv hf
  rw [ht, hp] at hc
  obtain ⟨-, -, htrust, htrusted⟩ := RequesterTrustEngine.loadAndEvaluate_eq_ok.mp ht
  obtain ⟨rule, hadm⟩ := CapabilityRegistryLoader.admitted_of_ok hc
  have hpolicy : loaders.policyArtifact policy = .ok artifact := by
    rw [PolicyArtifactLoader.loadRequiredValue] at hp
    cases hl : loaders.policyArtifact policy with
    | error e => simp [hl] at hp
    | ok artifact' => simpa [hl] using hp
  obtain ⟨rule', approval, hadmissible⟩ := admissible_of_gates htrusted hadm
    (ApprovalPostureResolver.validateConsistency_eq_nil.mp hv) hf
  exact ⟨typedRequest, typedRegistry, envelope, artifact, capability, rule', approval, hr, hg,
    htrust, hpolicy, hadmissible⟩

end DecisionService

namespace ExecutionPipelineService

section
variable (env : RunEnvironment) (inputs : ExecutionPipelineInputs)
  (adapterSelection : Option AdapterSelection)
  (additionalAdapters : List CapabilityScopedAdapterSelection) (context : RouteResolutionContext)

/-- The decision that the inputs lead to. -/
def decided : FaLocalResult RouteDecision :=
  DecisionService.resolveRouteDecision env.loaders env.clock inputs.request inputs.requesterTrust
    inputs.policy inputs.capabilityRegistry context

/-- Everything that a run has established when it calls an adapter. -/
structure CallGate (d : RouteDecision) (request : ExecutionRequest) (plan : ExecutionPlan)
    (capabilities : CapabilityRegistry) : Prop where
  decided : decided env inputs context = .ok d
  posture : d.resolvedApprovalPosture = .policyPreapproved ∨
    d.resolvedApprovalPosture = .executeAllowed
  executionAllowed : d.executionAllowed = true
  noReview : d.reviewRequired = false
  noApproval : d.explicitApprovalRequired = false
  intake : env.loaders.executionRequest inputs.request = .ok request
  supplied : ∃ value, inputs.executionPlan = some value ∧
    env.loaders.executionPlan value = .ok plan
  registry : env.loaders.capabilityRegistry inputs.capabilityRegistry = .ok capabilities
  accepted : ∃ v, ExecutionPlanValidator.validate env.digest env.planClock plan capabilities = .ok v
  hashed : plan.stablePlanHash = ExecutionPlanValidator.computeStablePlanHash env.digest plan
  correlationId : plan.correlationId = request.correlationId
  requestId : plan.originatingRequestId = request.requestId
  requested : request.requestedCapabilityId ∈ plan.referencedCapabilities
  adapters : (registeredCapabilities adapterSelection additionalAdapters
    request.requestedCapabilityId).Nodup

/-- The ways in which a run is kept from every adapter. -/
inductive Barred : Prop where
  | unadmitted (d : RouteDecision) : decided env inputs context = .ok d →
      d.resolvedApprovalPosture = .denied ∨ d.resolvedApprovalPosture = .reviewRequired ∨
        d.resolvedApprovalPosture = .explicitOperatorApproval → Barred
  | planless : inputs.executionPlan = none → Barred
  | planDenied (value : Value) (plan : ExecutionPlan) (capabilities : CapabilityRegistry)
      (denial : DenialGuard) : inputs.executionPlan = some value →
      env.loaders.executionPlan value = .ok plan →
      env.loaders.capabilityRegistry inputs.capabilityRegistry = .ok capabilities →
      ExecutionPlanValidator.validate env.digest env.planClock plan capabilities =
        .error denial → Barred
  | conflicting (request : ExecutionRequest) :
      env.loaders.executionRequest inputs.request = .ok request →
      ¬ (registeredCapabilities adapterSelection additionalAdapters
        request.requestedCapabilityId).Nodup → Barred

end

section
variable {env : RunEnvironment} {inputs : ExecutionPipelineInputs}
  {adapterSelection : Option AdapterSelection}
  {additionalAdapters : List CapabilityScopedAdapterSelection} {context : RouteResolutionContext}
  {d : RouteDecision} {prepared : Prepared} {request : ExecutionRequest} {plan : ExecutionPlan}
  {capabilities : CapabilityRegistry}

theorem admitted_iff {posture : ApprovalPosture} :
    posture.admitted = true ↔ posture = .policyPreapproved ∨ posture = .executeAllowed := by
  cases posture <;> simp [ApprovalPosture.admitted]

/-- The decision of a run that comes to delivery, and its flags. -/
theorem Reached.flags
    (h : Reached env inputs adapterSelection additionalAdapters context d prepared) :
    FlagsFit d ∧ d.executionAllowed = true := by
  obtain ⟨_, _, -, -, hres⟩ := DecisionService.resolveRouteDecision_eq_ok h.decided
  obtain ⟨-, hflags, -⟩ := ApprovalPostureResolver.resolve_spec hres
  refine ⟨hflags, ?_⟩
  rw [hflags.execution, executionAllowedFor_iff_or]
  exact admitted_iff.mp h.admitted

theorem Reached.gate
    (h : Reached env inputs adapterSelection additionalAdapters context d prepared) :
    ∃ request plan capabilities, PreparedFrom env inputs adapterSelection additionalAdapters d
        prepared plan capabilities ∧
      CallGate env inputs adapterSelection additionalAdapters context d request plan
        capabilities := by
  obtain ⟨plan, capabilities, hfrom⟩ := prepare_eq_inr h.admitted h.prepared
  obtain ⟨request, _, -, hr, hres⟩ := DecisionService.resolveRouteDecision_eq_ok h.decided
  obtain ⟨hstamp, hflags, -⟩ := ApprovalPostureResolver.resolve_spec hres
  obtain ⟨hplan, hacc⟩ := accepted_of_validate hfrom.validated
  have hposture := admitted_iff.mp h.admitted
  refine ⟨request, plan, capabilities, hfrom, {
    decided := h.decided
    posture := hposture
    executionAllowed := h.flags.2
    noReview := ?_
    noApproval := ?_
    intake := hr
    supplied := hfrom.supplied
    registry := hfrom.registry
    accepted := ⟨_, hfrom.validated⟩
    hashed := hplan ▸ hacc.hashed
    correlationId := ?_
    requestId := ?_
    requested := ?_
    adapters := ?_ }⟩
  · rw [hflags.review]
    rcases hposture with hp | hp <;> simp [hp]
  · rw [hflags.approval]
    rcases hposture with hp | hp <;> simp [hp]
  · rw [← hplan, hfrom.matching.correlationId, hstamp.correlationId]
    rfl
  · rw [← hplan, hfrom.matching.requestId, hstamp.requestId]
    rfl
  · have hreq := hfrom.matching.requested
    rw [hplan, hstamp.capability] at hreq
    exact hreq
  · have hnodup := buildRegistry_nodup hfrom.adapters
    rw [hstamp.capability] at hnodup
    exact hnodup

/-- A barred run has no gate to pass. -/
theorem CallGate.unbarred (h : CallGate env inputs adapterSelection additionalAdapters context d
    request plan capabilities) :
    ¬ Barred env inputs adapterSelection additionalAdapters context := by
  intro hb
  cases hb with
  | unadmitted d' hd' hp =>
    cases h.decided.symm.trans hd'
    rcases h.posture with he | he <;> simp [he] at hp
  | planless hn =>
    obtain ⟨value, hv, -⟩ := h.supplied
    rw [hn] at hv
    cases hv
  | planDenied value plan' capabilities' denial hv hl hc he =>
    obtain ⟨value', hv', hl'⟩ := h.supplied
    cases hv.symm.trans hv'
    cases hl.symm.trans hl'
    cases hc.symm.trans h.registry
    obtain ⟨v, hok⟩ := h.accepted
    cases he.symm.trans hok
  | conflicting request' hr hn =>
    cases hr.symm.trans h.intake
    exact hn h.adapters

end

/-- Any call of a run is behind all of its gates; a barred run calls no adapter. -/
theorem run_call_gate (env : RunEnvironment) (inputs : ExecutionPipelineInputs)
    (adapterSelection : Option AdapterSelection)
    (additionalAdapters : List CapabilityScopedAdapterSelection) (dispatchMode : DispatchMode)
    (exportAdapter : Option (ForensicEventExportAdapter BuiltAdapter))
    (context : RouteResolutionContext) (log : List (WorldEvent BuiltAdapter)) :
    ∃ events, (run env inputs adapterSelection additionalAdapters dispatchMode exportAdapter
        context log).2 = log ++ events ∧
      (calls events ≠ [] → ∃ d request plan capabilities,
        CallGate env inputs adapterSelection additionalAdapters context d request plan
          capabilities) ∧
      (Barred env inputs adapterSelection additionalAdapters context → calls events = []) := by
  obtain ⟨events, hreached, he⟩ := run_calls env inputs adapterSelection additionalAdapters
    dispatchMode exportAdapter context log
  have hgate : calls events ≠ [] → ∃ d request plan capabilities, CallGate env inputs
      adapterSelection additionalAdapters context d request plan capabilities := by
    intro hne
    obtain ⟨call, hc⟩ := List.exists_mem_of_ne_nil _ hne
    obtain ⟨d, prepared, hr, -⟩ := hreached call hc
    obtain ⟨request, plan, capabilities, -, hg⟩ := hr.gate
    exact ⟨d, request, plan, capabilities, hg⟩
  refine ⟨events, he, hgate, fun hb => ?_⟩
  by_contra hne
  obtain ⟨d, request, plan, capabilities, hg⟩ := hgate hne
  exact hg.unbarred hb

end ExecutionPipelineService

/-! A run that dispatches the two-step plan of the tests to one adapter a step. -/

namespace Fixture

open ExecutionPipelineService (Prepared Reached prepare deliver)

/-- The fixture files with a registry and a plan. -/
def planLoaders (capabilities : CapabilityRegistry) (plan : ExecutionPlan) : ContractLoaders :=
  { loaders with
    capabilityRegistry := fun _ => .ok capabilities
    executionPlan := fun _ => .ok plan }

def twoStepRun (capabilities : CapabilityRegistry) : RunEnvironment :=
  environment (planLoaders capabilities twoStepPlan) twoStepDigest fun _ => .deliveredAllSteps

def plannedInputs : ExecutionPipelineInputs := inputs envelopeValue (some .null)

def fileWrite : AdapterSelection := .localFileWrite "exports"

def secondAdapter : List CapabilityScopedAdapterSelection := [⟨id .capability 8, fileWrite⟩]

/-- The decision about the fixture request, at the time of the fixture context. -/
def admittedDecision : RouteDecision := { decision with decidedAtUtc := at2030 600 }

/-- The capabilities that a delivery of the prepared plan calls for. -/
def deliveredCapabilities (env : RunEnvironment) : FaLocalResult (DenialGuard ⊕ Prepared) →
    List CapabilityId
  | .ok (.inr prepared) => (calls (deliver env .perStep prepared.selectedRoute
      prepared.validatedPlan prepared.registry context []).2).map (·.2.1.requestedCapabilityId)
  | _ => []

/-- The capabilities that a run with one adapter a step calls for. -/
def calledCapabilities (env : RunEnvironment) : List CapabilityId :=
  (calls (ExecutionPipelineService.run env plannedInputs (some fileWrite) secondAdapter .perStep
    none context []).2).map (·.2.1.requestedCapabilityId)

/-- With a decision and a plan that is prepared, the calls of a run are those of its delivery. -/
theorem calledCapabilities_of_delivered {env : RunEnvironment} {d : RouteDecision}
    {ids : List CapabilityId}
    (hd : ExecutionPipelineService.decided env plannedInputs context = .ok d)
    (hp : d.resolvedApprovalPosture.admitted = true) (hne : ids ≠ [])
    (h : deliveredCapabilities env
      (prepare env plannedInputs (some fileWrite) secondAdapter d) = ids) :
    calledCapabilities env = ids := by
  cases hprep : prepare env plannedInputs (some fileWrite) secondAdapter d with
  | error e => simp [hprep, deliveredCapabilities, hne.symm] at h
  | ok r =>
    cases r with
    | inl denial => simp [hprep, deliveredCapabilities, hne.symm] at h
    | inr prepared =>
      rw [hprep] at h
      have hr : Reached env plannedInputs (some fileWrite) secondAdapter context d prepared :=
        ⟨hd, hp, hprep⟩
      rw [calledCapabilities, hr.calls_eq]
      exact h

theorem twoStepRun_decided :
    ExecutionPipelineService.decided (twoStepRun capabilities) plannedInputs context =
      .ok admittedDecision := by
  decide

theorem twoStepRun_calls :
    calledCapabilities (twoStepRun capabilities) = [id .capability 4, id .capability 8] :=
  calledCapabilities_of_delivered twoStepRun_decided rfl (by simp) (by decide)

/-- The fixture registry with every revocation state set to `disabled`. -/
def withdrawnCapabilities : CapabilityRegistry :=
  { capabilities with capabilities :=
      capabilities.capabilities.map fun r => { r with revocationState := .disabled } }

theorem withdrawnRun_calls :
    calledCapabilities (twoStepRun withdrawnCapabilities) = [id .capability 4, id .capability 8] :=
  calledCapabilities_of_delivered (d := admittedDecision) (by decide) rfl (by simp) (by decide)

end Fixture

namespace ExecutionPipelineService

open Fixture (twoStepRun plannedInputs fileWrite secondAdapter)

/-- The gates of the two-step run, which makes two calls. -/
theorem run_call_gate_two_steps : ∃ events, (run (twoStepRun Fixture.capabilities) plannedInputs
      (some fileWrite) secondAdapter .perStep none Fixture.context []).2 = events ∧
    ∃ d request plan capabilities, CallGate (twoStepRun Fixture.capabilities) plannedInputs
      (some fileWrite) secondAdapter Fixture.context d request plan capabilities := by
  obtain ⟨events, he, hgate, -⟩ := run_call_gate (twoStepRun Fixture.capabilities) plannedInputs
    (some fileWrite) secondAdapter .perStep none Fixture.context []
  have hcalls : calls events ≠ [] := by
    intro hnil
    have h := Fixture.twoStepRun_calls
    rw [Fixture.calledCapabilities, he, List.nil_append, hnil] at h
    cases h
  exact ⟨events, by simpa using he, hgate hcalls⟩

end ExecutionPipelineService

end FaLocal
