import FaLocal.Decision
import FaLocal.ExecutionGate
import FaLocal.Library.Keyed

/-!
# The order of written rules

Policies and registries are looked up by key, and the first entry of a key
decides. Rewriting them in another order that keeps these first entries leaves
posture and permission as they are; a repeated key lets the order decide.
-/
namespace FaLocal

open Keyed (Rearranged)

/-- The part of a decision that grants or refuses execution. -/
def RouteDecision.verdict (d : RouteDecision) : ApprovalPosture × Bool :=
  (d.resolvedApprovalPosture, d.executionAllowed)

/-- Two policies with the same rules and conditions, written in another order in
which every rule that comes first for its key still does. -/
structure PolicyRearranged (policy policy' : PolicyArtifact) : Prop where
  serviceId : policy'.scope.serviceId = policy.scope.serviceId
  environments : policy'.scope.environmentModes.Perm policy.scope.environmentModes
  conditions : policy'.environmentConditions.Perm policy.environmentConditions
  readiness : policy'.dependencyReadinessConditions.Perm policy.dependencyReadinessConditions
  capabilityRules : Rearranged CapabilityRule.capabilityId policy.capabilityRules
    policy'.capabilityRules
  sideEffectRules : Rearranged SideEffectRule.sideEffectClass policy.sideEffectRules
    policy'.sideEffectRules
  approvalRules : Rearranged ApprovalRule.requesterClass policy.approvalRules policy'.approvalRules
  identity : policy'.policyId = policy.policyId ∧ policy'.policyVersion = policy.policyVersion ∧
    policy'.failureBehavior = policy.failureBehavior ∧
    policy'.policyProvenance = policy.policyProvenance

/-- Two registries with the same records, in another such order. -/
structure RegistryRearranged (registry registry' : CapabilityRegistry) : Prop where
  version : registry'.registryVersion = registry.registryVersion
  capabilities : Rearranged CapabilityRecord.capabilityId registry.capabilities
    registry'.capabilities

section
variable {policy policy' : PolicyArtifact} {registry registry' : CapabilityRegistry}

theorem PolicyRearranged.capabilityRule (h : PolicyRearranged policy policy')
    (capabilityId : CapabilityId) :
    policy'.capabilityRuleFor capabilityId = policy.capabilityRuleFor capabilityId :=
  h.capabilityRules.find? capabilityId

theorem PolicyRearranged.sideEffectRule (h : PolicyRearranged policy policy')
    (sideEffectClass : SideEffectClass) :
    ApprovalPostureResolver.sideEffectRuleFor policy' sideEffectClass =
      ApprovalPostureResolver.sideEffectRuleFor policy sideEffectClass :=
  h.sideEffectRules.find? sideEffectClass

theorem PolicyRearranged.approvalRule (h : PolicyRearranged policy policy')
    (requester : RequesterTrustEnvelope) :
    ApprovalPostureResolver.approvalRuleFor policy' requester =
      ApprovalPostureResolver.approvalRuleFor policy requester :=
  h.approvalRules.find? requester.requesterClass

theorem RegistryRearranged.capability (h : RegistryRearranged registry registry')
    (capabilityId : CapabilityId) :
    registry'.capabilityFor capabilityId = registry.capabilityFor capabilityId :=
  h.capabilities.find? capabilityId

/-! ## Admission -/

/-- The same record, or a refusal with the same text. -/
inductive Agree {β γ : Type} (R : β → γ → Prop) :
    Except DenialGuard β → Except DenialGuard γ → Prop where
  | ok {b : β} {c : γ} : R b c → Agree R (.ok b) (.ok c)
  | error {g g' : DenialGuard} : g'.summary = g.summary → Agree R (.error g) (.error g')

theorem Agree.ite {β γ : Type} {R : β → γ → Prop} {c : Prop} [Decidable c]
    {x y : Except DenialGuard β} {x' y' : Except DenialGuard γ} (h : Agree R x x')
    (h' : Agree R y y') : Agree R (if c then x else y) (if c then x' else y') := by
  split
  · exact h
  · exact h'

theorem evaluate_agree (utcNow utcNow' : TimestampUtc) (envelope : RequesterTrustEnvelope)
    (context : TrustEvaluationContext) :
    Agree Eq (RequesterTrustEngine.evaluate utcNow envelope context)
      (RequesterTrustEngine.evaluate utcNow' envelope context) :=
  .ite (.error rfl) (.ite (.error rfl) (.ite (.error rfl) (.ite (.error rfl)
    (.ite (.error rfl) (.ok rfl)))))

/-- The clock of a gate shows in its refusals only, and not in their text. -/
theorem loadAndEvaluate_agree (loaders : ContractLoaders) (utcNow utcNow' : TimestampUtc)
    (value : Value) (context : TrustEvaluationContext) :
    Agree Eq (RequesterTrustEngine.loadAndEvaluate loaders utcNow value context)
      (RequesterTrustEngine.loadAndEvaluate loaders utcNow' value context) := by
  refine .ite (.error rfl) (.ite (.error rfl) ?_)
  cases loaders.requesterTrust value with
  | error e => exact .error rfl
  | ok envelope =>
    have h := evaluate_agree utcNow utcNow' envelope context
    simp only
    revert h
    generalize RequesterTrustEngine.evaluate utcNow envelope context = x
    generalize RequesterTrustEngine.evaluate utcNow' envelope context = y
    intro h
    cases h with
    | ok _ => exact .ok rfl
    | error h => exact .error h

theorem admitExecutionRequest_agree (utcNow utcNow' : TimestampUtc)
    (hp : PolicyRearranged policy policy') (hr : RegistryRearranged registry registry')
    (requester : RequesterTrustEnvelope) (request : ExecutionRequest) :
    Agree Eq
      (CapabilityRegistryLoader.admitExecutionRequest utcNow registry policy requester request)
      (CapabilityRegistryLoader.admitExecutionRequest utcNow' registry' policy' requester
        request) := by
  simp only [CapabilityRegistryLoader.admitExecutionRequest, hr.capability, hp.capabilityRule,
    hp.environments.mem_iff, hp.conditions.mem_iff]
  cases registry.capabilityFor request.requestedCapabilityId with
  | none => exact .error rfl
  | some capability =>
    refine .ite (.error rfl) (.ite (.error rfl) (.ite (.error rfl) (.ite (.error rfl)
      (.ite (.error rfl) ?_))))
    cases policy.capabilityRuleFor capability.capabilityId with
    | none => exact .error rfl
    | some rule =>
      exact .ite (.error rfl) (.ite (.error rfl) (.ite (.error rfl) (.ite (.error rfl)
        (.ok rfl))))

/-! ## Resolution -/

/-- The same request with gates that agree. -/
structure InputsAgree (input input' : RouteResolutionInput) : Prop where
  request : input'.request = input.request
  requester : Agree Eq input.requesterTrustOutcome input'.requesterTrustOutcome
  policy : Agree PolicyRearranged input.policyOutcome input'.policyOutcome
  capability : Agree Eq input.capabilityAdmissionOutcome input'.capabilityAdmissionOutcome

namespace ApprovalPostureResolver

variable {input input' : RouteResolutionInput} {context : RouteResolutionContext}

theorem denialsOf_agree {β γ : Type} {R : β → γ → Prop} {x : Except DenialGuard β}
    {y : Except DenialGuard γ} (h : Agree R x y) :
    (denialsOf y).map (·.summary) = (denialsOf x).map (·.summary) := by
  cases h with
  | ok _ => rfl
  | error h => simp [denialsOf, h]

theorem validateConsistency_rearranged (hp : PolicyRearranged policy policy')
    (request : ExecutionRequest) (requester : RequesterTrustEnvelope)
    (capability : CapabilityRecord) (decidedAtUtc : TimestampUtc) :
    validateConsistency request requester policy' capability decidedAtUtc =
      validateConsistency request requester policy capability decidedAtUtc := by
  simp only [validateConsistency, hp.serviceId, hp.environments.mem_iff, hp.conditions.mem_iff,
    hp.capabilityRule, hp.approvalRule, hp.sideEffectRule]

/-- Gates that agree lead to guards with the same texts. -/
theorem collectedDenials_agree (h : InputsAgree input input') :
    (collectedDenials input' context).map (·.summary) =
      (collectedDenials input context).map (·.summary) := by
  obtain ⟨hrequest, hrequester, hpolicy, hcapability⟩ := h
  simp only [collectedDenials, List.map_append, denialsOf_agree hrequester,
    denialsOf_agree hpolicy, denialsOf_agree hcapability, hrequest]
  congr 1
  revert hrequester hpolicy hcapability
  generalize input.requesterTrustOutcome = x, input'.requesterTrustOutcome = x',
    input.policyOutcome = y, input'.policyOutcome = y', input.capabilityAdmissionOutcome = z,
    input'.capabilityAdmissionOutcome = z'
  intro hq hp hc
  cases hq with
  | error _ => rfl
  | ok hq =>
    cases hp with
    | error _ => rfl
    | ok hp =>
      cases hc with
      | error _ => rfl
      | ok hc =>
        subst hq
        subst hc
        simp only [Except.toOption, validateConsistency_rearranged hp]

theorem deniedDecision_verdict (request : ExecutionRequest) (reference : Option PolicyReference)
    (summary : CapabilityDecisionSummary) (guards : List DenialGuard) :
    (deniedDecision request reference summary guards context).map (·.verdict) =
      (boundedSummary ("request denied: " ++ firstDenialSummary guards)).map
        fun _ => (.denied, false) := by
  rw [deniedDecision]
  cases boundedSummary ("request denied: " ++ firstDenialSummary guards) <;> rfl

theorem firstDenialSummary_eq (guards : List DenialGuard) :
    firstDenialSummary guards = (guards.map (·.summary)).headD "request denied" := by
  cases guards <;> rfl

/-- The factors do not see the order. -/
theorem resolveFactors_verdict (hp : PolicyRearranged policy policy') (request : ExecutionRequest)
    (requester : RequesterTrustEnvelope) (capability : CapabilityRecord)
    (reference reference' : Option PolicyReference) (summary summary' : CapabilityDecisionSummary) :
    (resolveFactors request requester policy' capability reference' summary' context).map
        (·.verdict) =
      (resolveFactors request requester policy capability reference summary context).map
        (·.verdict) := by
  simp only [resolveFactors, hp.capabilityRule, hp.approvalRule]
  cases policy.capabilityRuleFor capability.capabilityId with
  | none => rfl
  | some rule =>
    cases approvalRuleFor policy requester with
    | none => rfl
    | some approval =>
      simp only [expect, bind, Except.bind]
      cases minByKey postureRank (postureFactors request requester capability approval rule) with
      | none => rfl
      | some posture =>
        simp only
        split
        · rw [deniedDecision_verdict, deniedDecision_verdict]
        · cases operatorSummary posture request.requestedCapabilityId.display <;> rfl

/-- The resolver does not see the order. -/
theorem resolve_verdict (h : InputsAgree input input') :
    (resolve input' context).map (·.verdict) = (resolve input context).map (·.verdict) := by
  have htexts : (collectedDenials input' context).map (·.summary) =
      (collectedDenials input context).map (·.summary) := collectedDenials_agree h
  by_cases hd : collectedDenials input context = []
  · have hd' : collectedDenials input' context = [] := by simpa [hd] using htexts
    obtain ⟨requester, policy, capability, ht, hpo, hc, hv⟩ := collectedDenials_eq_nil hd
    obtain ⟨requester', policy', capability', ht', hpo', hc', hv'⟩ := collectedDenials_eq_nil hd'
    have hq := h.requester
    have hp := h.policy
    have ha := h.capability
    rw [ht, ht'] at hq
    rw [hpo, hpo'] at hp
    rw [hc, hc'] at ha
    cases hq with | ok hq => ?_
    cases hp with | ok hp => ?_
    cases ha with | ok ha => ?_
    subst hq
    subst ha
    obtain ⟨reference, summary, -, he⟩ := resolve_of_clean ht hpo hc hv
    obtain ⟨reference', summary', -, he'⟩ := resolve_of_clean ht' hpo' hc' hv'
    rw [he, he', h.request, resolveFactors_verdict hp]
  · have hd' : collectedDenials input' context ≠ [] := by
      intro hnil
      rw [hnil] at htexts
      exact hd (List.map_eq_nil_iff.mp htexts.symm)
    obtain ⟨reference, summary, -, he⟩ := resolve_of_denials hd
    obtain ⟨reference', summary', -, he'⟩ := resolve_of_denials hd'
    rw [he, he', deniedDecision_verdict, deniedDecision_verdict, firstDenialSummary_eq,
      firstDenialSummary_eq, htexts]

end ApprovalPostureResolver

namespace DecisionService

variable {loaders : ContractLoaders} {context : RouteResolutionContext}

/-- The gates agree on rearranged artifacts, whenever they are asked. -/
theorem routeResolutionInput_agree (clock clock' : GuardClock) {written written' : Value}
    (hl : loaders.policyArtifact written = .ok policy)
    (hl' : loaders.policyArtifact written' = .ok policy') (hp : PolicyRearranged policy policy')
    (hr : RegistryRearranged registry registry') (request : ExecutionRequest) (trust : Value) :
    InputsAgree (routeResolutionInput loaders clock request trust written registry context)
      (routeResolutionInput loaders clock' request trust written' registry' context) := by
  have hloaded : PolicyArtifactLoader.loadRequiredValue loaders clock.policy (some written) =
      .ok policy := by rw [PolicyArtifactLoader.loadRequiredValue, hl]
  have hloaded' : PolicyArtifactLoader.loadRequiredValue loaders clock'.policy (some written') =
      .ok policy' := by rw [PolicyArtifactLoader.loadRequiredValue, hl']
  have htrust := loadAndEvaluate_agree loaders clock.trust clock'.trust trust
    { expectedEnvironment := request.environmentMode, now := context.decidedAtUtc }
  refine ⟨rfl, htrust, ?_, ?_⟩
  · simp only [routeResolutionInput, hloaded, hloaded']
    exact .ok hp
  · simp only [routeResolutionInput, hloaded, hloaded']
    revert htrust
    generalize RequesterTrustEngine.loadAndEvaluate loaders clock.trust trust _ = x
    generalize RequesterTrustEngine.loadAndEvaluate loaders clock'.trust trust _ = y
    intro htrust
    cases htrust with
    | error _ => exact .error rfl
    | ok he =>
      subst he
      exact admitExecutionRequest_agree _ _ hp hr _ _

/-- Posture and permission of a decision do not depend on the order in which rules and
records are written, while the first entry of every key stays the first. -/
theorem resolveRouteDecision_rearranged (loaders : ContractLoaders) (clock clock' : GuardClock)
    (context : RouteResolutionContext) (request trust : Value) {written written' : Value}
    {listed listed' : Value} {policy policy' : PolicyArtifact}
    {registry registry' : CapabilityRegistry} (hl : loaders.policyArtifact written = .ok policy)
    (hl' : loaders.policyArtifact written' = .ok policy')
    (hg : loaders.capabilityRegistry listed = .ok registry)
    (hg' : loaders.capabilityRegistry listed' = .ok registry')
    (hp : PolicyRearranged policy policy') (hr : RegistryRearranged registry registry') :
    (resolveRouteDecision loaders clock' request trust written' listed' context).map
        (·.verdict) =
      (resolveRouteDecision loaders clock request trust written listed context).map
        (·.verdict) := by
  cases hrequest : loaders.executionRequest request with
  | error e =>
    simp [resolveRouteDecision, IntakeService.validateRequest, hg, hg', hrequest, loaded,
      Except.mapError, bind, Except.bind]
  | ok typedRequest =>
    rw [resolveRouteDecision_of_loaded hg hrequest, resolveRouteDecision_of_loaded hg' hrequest]
    exact ApprovalPostureResolver.resolve_verdict
      (routeResolutionInput_agree clock clock' hl hl' hp hr typedRequest trust)

end DecisionService

end

/-! Policies of two rules: about two capabilities, and twice about one. -/

namespace Fixture

def policyOf (rules : List CapabilityRule) : PolicyArtifact :=
  { policy with capabilityRules := rules }

def registryOf (records : List CapabilityRecord) : CapabilityRegistry :=
  { registry with capabilities := records }

/-- The fixture files, with an object for the rules and records in reverse order. -/
def writtenBothWays (rules : List CapabilityRule) (records : List CapabilityRecord) :
    ContractLoaders :=
  { loaders with
    policyArtifact := fun value => .ok (policyOf (if value.isObject then rules.reverse else rules))
    capabilityRegistry := fun value =>
      .ok (registryOf (if value.isObject then records.reverse else records)) }

def twoRules : List CapabilityRule :=
  [policyRule, { policyRule with capabilityId := id .capability 8, allowed := false }]

def twoRecords : List CapabilityRecord := [record, { record with capabilityId := id .capability 8 }]

def contradictingRules : List CapabilityRule := [policyRule, { policyRule with allowed := false }]

theorem policyOf_rearranged {rules rules' : List CapabilityRule}
    (h : Rearranged CapabilityRule.capabilityId rules rules') :
    PolicyRearranged (policyOf rules) (policyOf rules') where
  serviceId := rfl
  environments := .refl _
  conditions := .refl _
  readiness := .refl _
  capabilityRules := h
  sideEffectRules := .refl _
  approvalRules := .refl _
  identity := ⟨rfl, rfl, rfl, rfl⟩

end Fixture

namespace DecisionService

open Fixture (twoRules twoRecords contradictingRules writtenBothWays)

theorem resolveRouteDecision_reversed :
    (resolveRouteDecision (writtenBothWays twoRules twoRecords) Fixture.clock .null
        Fixture.envelopeValue (.object []) (.object []) Fixture.context).map (·.verdict) =
      (resolveRouteDecision (writtenBothWays twoRules twoRecords) Fixture.clock .null
        Fixture.envelopeValue .null .null Fixture.context).map (·.verdict) :=
  resolveRouteDecision_rearranged (writtenBothWays twoRules twoRecords) Fixture.clock Fixture.clock
    Fixture.context .null Fixture.envelopeValue rfl rfl rfl rfl
    (Fixture.policyOf_rearranged (Keyed.rearranged_of_nodup (by decide) (List.reverse_perm _)))
    ⟨rfl, Keyed.rearranged_of_nodup (by decide) (List.reverse_perm _)⟩

/-- Two rules about one capability are read in their order. -/
theorem resolveRouteDecision_contradicted :
    (Fixture.policyOf contradictingRules.reverse).capabilityRules.Perm
      (Fixture.policyOf contradictingRules).capabilityRules ∧
    (resolveRouteDecision (writtenBothWays contradictingRules twoRecords) Fixture.clock .null
        Fixture.envelopeValue .null .null Fixture.context).map (·.verdict) =
      .ok (.policyPreapproved, true) ∧
    (resolveRouteDecision (writtenBothWays contradictingRules twoRecords) Fixture.clock .null
        Fixture.envelopeValue (.object []) .null Fixture.context).map (·.verdict) =
      .ok (.denied, false) :=
  ⟨List.reverse_perm _, by decide +kernel, by decide +kernel⟩

end DecisionService

end FaLocal
