import FaLocal.DecisionSchema

/-!
# Decisions that can be reloaded

When a decision of the service passes its own schema. The gates issue at most
eight guards, but the errors of two loaders are put into guards at any length,
and the version of a policy has no bound of its own.
-/
namespace FaLocal

namespace ApprovalPostureResolver

variable {input : RouteResolutionInput} {context : RouteResolutionContext} {d : RouteDecision}

/-- The data that every decision takes from its input. -/
structure Copied (reference : Option PolicyReference) (summary : CapabilityDecisionSummary)
    (context : RouteResolutionContext) (d : RouteDecision) : Prop where
  reference : d.policyReference = reference
  summary : d.capabilityDecisionSummary = summary
  decided : d.decidedAtUtc = context.decidedAtUtc

theorem deniedDecision_copied {request : ExecutionRequest} {reference : Option PolicyReference}
    {summary : CapabilityDecisionSummary} {guards : List DenialGuard}
    (h : deniedDecision request reference summary guards context = .ok d) :
    Copied reference summary context d := by
  simp only [deniedDecision, bind, Except.bind] at h
  split at h
  · cases h
  · cases h
    exact ⟨rfl, rfl, rfl⟩

theorem resolveFactors_copied {request : ExecutionRequest} {requester : RequesterTrustEnvelope}
    {policy : PolicyArtifact} {capability : CapabilityRecord} {reference : Option PolicyReference}
    {summary : CapabilityDecisionSummary}
    (h : resolveFactors request requester policy capability reference summary context = .ok d) :
    Copied reference summary context d := by
  simp only [resolveFactors, bind, Except.bind] at h
  split at h
  · cases h
  split at h
  · cases h
  split at h
  · cases h
  split at h
  · exact deniedDecision_copied h
  · split at h
    · cases h
    · cases h
      exact ⟨rfl, rfl, rfl⟩

theorem resolve_copied (h : resolve input context = .ok d) :
    Copied (input.policyOutcome.toOption.map fun policy => ⟨policy.policyId, policy.policyVersion⟩)
      (buildCapabilityDecisionSummary input.request input.requesterTrustOutcome.toOption
        input.policyOutcome.toOption input.capabilityAdmissionOutcome.toOption) context d := by
  by_cases hne : collectedDenials input context = []
  · obtain ⟨requester, policy, capability, ht, hp, hc, hv⟩ := collectedDenials_eq_nil hne
    simp only [resolve, ht, hp, hc, Except.toOption, denialsOf, hv, List.append_nil, ne_eq,
      not_true_eq_false, if_false] at h
    rw [ht, hp, hc]
    exact resolveFactors_copied h
  · have hr : resolve input context = deniedDecision input.request _ _
        (collectedDenials input context) context := if_pos hne
    exact deniedDecision_copied (hr ▸ h)

/-- The guards of a decision: those that were collected, or the one for a factor that denies. -/
theorem resolve_guards (h : resolve input context = .ok d) :
    d.denialGuards = collectedDenials input context ∨
      d.denialGuards = [stampedDenial .policyDenied .operation .contractAndPolicy
        (deniedSummary input.request) context.decidedAtUtc] ∧
        collectedDenials input context = [] := by
  by_cases hne : collectedDenials input context = []
  · obtain ⟨requester, policy, capability, ht, hp, hc, hv⟩ := collectedDenials_eq_nil hne
    obtain ⟨reference, summary, hs, hr⟩ := resolve_of_clean ht hp hc hv
    rw [hr] at h
    by_cases hd : d.resolvedApprovalPosture = .denied
    · refine .inr ⟨?_, hne⟩
      simp only [resolveFactors, bind, Except.bind] at h
      split at h
      · cases h
      split at h
      · cases h
      split at h
      · cases h
      split at h
      · exact (deniedDecision_spec hs (by simp) h).2.2.2
      · rename_i hp'
        split at h
        · cases h
        · cases h
          exact absurd hd hp'
    · exact .inl ((resolveFactors_undenied h hd).1.trans hne.symm)
  · obtain ⟨reference, summary, hs, hr⟩ := resolve_of_denials hne
    exact .inl (deniedDecision_spec hs hne (hr ▸ h)).2.2.2

end ApprovalPostureResolver

namespace DecisionService

open ApprovalPostureResolver RouteDecisionSchema

variable {loaders : ContractLoaders} {clock : GuardClock} {context : RouteResolutionContext}
  {request : ExecutionRequest} {trust policy : Value} {registry : CapabilityRegistry}

/-- The guard of an envelope that does not load. -/
def EnvelopeError (loaders : ContractLoaders) (trust : Value) (text : String) : Prop :=
  trust.isObject = true ∧ (trust.get "trust_basis").isSome = true ∧
    ∃ error, loaders.requesterTrust trust = .error error ∧
      text = "malformed requester envelope: " ++ error.display loaders.plainChar

/-- The guard of a policy that does not load. -/
def PolicyError (loaders : ContractLoaders) (policy : Value) (text : String) : Prop :=
  ∃ error, loaders.policyArtifact policy = .error error ∧
    text = "invalid policy artifact: " ++ error.display loaders.plainChar

/-! ## Guards of the gates -/

theorem trust_guard {utcNow : TimestampUtc} {trustContext : TrustEvaluationContext}
    {g : DenialGuard}
    (h : RequesterTrustEngine.loadAndEvaluate loaders utcNow trust trustContext = .error g) :
    (g.summary ∈ fixedRefusals ∨ EnvelopeError loaders trust g.summary) ∧
      g.timestampUtc = utcNow := by
  obtain ⟨ht, ⟨-, hg⟩ | ⟨hroot, ⟨error, he, hg⟩ | ⟨envelope, he, hev⟩⟩⟩ :=
    RequesterTrustEngine.loadAndEvaluate_error h
  · exact ⟨.inl hg, ht⟩
  · obtain ⟨hobj, hbasis⟩ := Bool.and_eq_true_iff.mp hroot
    exact ⟨.inr ⟨hobj, hbasis, error, he, hg⟩, ht⟩
  · exact ⟨.inl (RequesterTrustEngine.evaluate_error hev), ht⟩

theorem admission_stamped {utcNow : TimestampUtc} {artifact : PolicyArtifact}
    {requester : RequesterTrustEnvelope} {g : DenialGuard}
    (h : CapabilityRegistryLoader.admitExecutionRequest utcNow registry artifact requester request =
      .error g) : g.timestampUtc = utcNow := by
  rw [CapabilityRegistryLoader.admitExecutionRequest] at h
  split at h
  · cases h
    rfl
  · rename_i capability hc
    cases hr : artifact.capabilityRuleFor capability.capabilityId with
    | none =>
      simp only [hr] at h
      split_ifs at h <;> cases h <;> rfl
    | some rule =>
      simp only [hr] at h
      split_ifs at h <;> cases h <;> rfl

theorem validateConsistency_stamped {requester : RequesterTrustEnvelope} {artifact : PolicyArtifact}
    {capability : CapabilityRecord} {decidedAtUtc : TimestampUtc} {g : DenialGuard}
    (h : g ∈ validateConsistency request requester artifact capability decidedAtUtc) :
    g.timestampUtc = decidedAtUtc := by
  simp only [validateConsistency, List.mem_append] at h
  obtain ((((((((h | h) | h) | h) | h) | h) | h) | h) | h) | h := h <;>
    · rw [mem_pushIf h]
      rfl

/-- Where the text and the time of a guard come from. -/
structure Issued (loaders : ContractLoaders) (clock : GuardClock) (trust policy : Value)
    (context : RouteResolutionContext) (g : DenialGuard) : Prop where
  summary : g.summary ∈ fixedRefusals ∨
    g.summary = (prerequisiteUnavailableDenial clock.admission).summary ∨
    EnvelopeError loaders trust g.summary ∨ PolicyError loaders policy g.summary
  stamped : g.timestampUtc ∈ [clock.trust, clock.policy, clock.admission, context.decidedAtUtc]

/-- The guards that the gates and the checks collect. -/
structure GateGuards (loaders : ContractLoaders) (clock : GuardClock) (trust policy : Value)
    (context : RouteResolutionContext) (guards : List DenialGuard) : Prop where
  count : guards.length ≤ 8
  issued : ∀ g ∈ guards, Issued loaders clock trust policy context g
  envelope : ∀ text, EnvelopeError loaders trust text → ∃ g ∈ guards, g.summary = text
  policy : ∀ text, PolicyError loaders policy text → ∃ g ∈ guards, g.summary = text

theorem not_envelopeError_of_ok {trustContext : TrustEvaluationContext} {utcNow : TimestampUtc}
    {envelope : RequesterTrustEnvelope}
    (h : RequesterTrustEngine.loadAndEvaluate loaders utcNow trust trustContext = .ok envelope)
    (text : String) : ¬ EnvelopeError loaders trust text := by
  rintro ⟨-, -, error, he, -⟩
  obtain ⟨-, -, hok, -⟩ := RequesterTrustEngine.loadAndEvaluate_eq_ok.mp h
  cases he.symm.trans hok

theorem not_policyError_of_ok {utcNow : TimestampUtc} {artifact : PolicyArtifact}
    (h : PolicyArtifactLoader.loadRequiredValue loaders utcNow (some policy) = .ok artifact)
    (text : String) : ¬ PolicyError loaders policy text := by
  rintro ⟨error, he, -⟩
  rw [PolicyArtifactLoader.loadRequiredValue, he] at h
  cases h

theorem envelopeError_eq {trustContext : TrustEvaluationContext} {utcNow : TimestampUtc}
    {g : DenialGuard}
    (h : RequesterTrustEngine.loadAndEvaluate loaders utcNow trust trustContext = .error g)
    {text : String} (he : EnvelopeError loaders trust text) : g.summary = text := by
  obtain ⟨hobj, hbasis, error, hload, rfl⟩ := he
  have hnone : (trust.get "trust_basis").isNone = false := by
    simpa [Option.isSome_iff_ne_none] using hbasis
  simp only [RequesterTrustEngine.loadAndEvaluate, hobj, hnone, hload] at h
  cases h
  rfl

theorem policyError_eq {utcNow : TimestampUtc} {g : DenialGuard}
    (h : PolicyArtifactLoader.loadRequiredValue loaders utcNow (some policy) = .error g)
    {text : String} (he : PolicyError loaders policy text) : g.summary = text := by
  obtain ⟨error, hload, rfl⟩ := he
  rw [PolicyArtifactLoader.loadRequiredValue, hload] at h
  cases h
  rfl

theorem pushIf_length_le (condition : Prop) [Decidable condition] (denial : DenialGuard) :
    (pushIf condition denial).length ≤ 1 := by
  rw [pushIf]
  split <;> simp

/-- An admitted capability cannot fail the checks of its owner and its effect again. -/
theorem validateConsistency_length {utcNow decidedAtUtc : TimestampUtc}
    {requester : RequesterTrustEnvelope} {artifact : PolicyArtifact} {capability : CapabilityRecord}
    (h : CapabilityRegistryLoader.admitExecutionRequest utcNow registry artifact requester request =
      .ok capability) :
    (validateConsistency request requester artifact capability decidedAtUtc).length ≤ 8 := by
  obtain ⟨rule, hadm⟩ := CapabilityRegistryLoader.admitted_of_ok h
  have howner : ¬ capability.ownerService ≠ serviceId := not_not.mpr hadm.owned
  have heffect : ¬ capability.sideEffectClass ≠ request.requestedSideEffectClass :=
    not_not.mpr hadm.recordEffect
  simp only [validateConsistency, pushIf_eq_nil.mpr howner, pushIf_eq_nil.mpr heffect,
    List.append_nil, List.length_append]
  have hle := fun (condition : Prop) [Decidable condition] => pushIf_length_le condition
  refine Nat.le_trans (Nat.add_le_add (Nat.add_le_add (Nat.add_le_add (Nat.add_le_add
    (Nat.add_le_add (Nat.add_le_add (Nat.add_le_add (hle _ _) (hle _ _)) (hle _ _)) (hle _ _))
    (hle _ _)) (hle _ _)) (hle _ _)) (hle _ _)) (Nat.le_refl 8)

theorem prerequisite_issued : Issued loaders clock trust policy context
    (prerequisiteUnavailableDenial clock.admission) :=
  ⟨.inr (.inl rfl), by simp [prerequisiteUnavailableDenial, deny]⟩

theorem trust_issued {trustContext : TrustEvaluationContext} {g : DenialGuard}
    (h : RequesterTrustEngine.loadAndEvaluate loaders clock.trust trust trustContext = .error g) :
    Issued loaders clock trust policy context g := by
  obtain ⟨hg, hstamp⟩ := trust_guard h
  exact ⟨hg.imp_right fun he => .inr (.inl he), by simp [hstamp]⟩

theorem policy_issued {g : DenialGuard}
    (h : PolicyArtifactLoader.loadRequiredValue loaders clock.policy (some policy) = .error g) :
    Issued loaders clock trust policy context g := by
  obtain ⟨hg, hstamp⟩ := policy_error h
  exact ⟨.inr (.inr (.inr hg)), by simp [hstamp]⟩

/-- What the gates of the service issue. -/
theorem collected_gateGuards (loaders : ContractLoaders) (clock : GuardClock)
    (request : ExecutionRequest) (trust policy : Value) (registry : CapabilityRegistry)
    (context : RouteResolutionContext) :
    GateGuards loaders clock trust policy context
      (collectedDenials (routeResolutionInput loaders clock request trust policy registry context)
        context) := by
  have hinput : routeResolutionInput loaders clock request trust policy registry context =
    { request := request
      requesterTrustOutcome := RequesterTrustEngine.loadAndEvaluate loaders clock.trust trust
        { expectedEnvironment := request.environmentMode, now := context.decidedAtUtc }
      policyOutcome := PolicyArtifactLoader.loadRequiredValue loaders clock.policy (some policy)
      capabilityAdmissionOutcome := _ } := rfl
  rw [hinput]
  generalize ht : RequesterTrustEngine.loadAndEvaluate loaders clock.trust trust
    { expectedEnvironment := request.environmentMode, now := context.decidedAtUtc } = trustOutcome
  generalize hp : PolicyArtifactLoader.loadRequiredValue loaders clock.policy (some policy) =
    policyOutcome
  cases trustOutcome with
  | error g =>
    have hissued : Issued loaders clock trust policy context g := trust_issued ht
    cases policyOutcome with
    | error g' =>
      have hissued' : Issued loaders clock trust policy context g' := policy_issued hp
      change GateGuards loaders clock trust policy context
        [g, g', prerequisiteUnavailableDenial clock.admission]
      refine ⟨by simp, ?_, fun text he => ⟨g, by simp, envelopeError_eq ht he⟩,
        fun text he => ⟨g', by simp, policyError_eq hp he⟩⟩
      simp [hissued, hissued', prerequisite_issued]
    | ok artifact =>
      change GateGuards loaders clock trust policy context
        [g, prerequisiteUnavailableDenial clock.admission]
      refine ⟨by simp, ?_, fun text he => ⟨g, by simp, envelopeError_eq ht he⟩,
        fun text he => absurd he (not_policyError_of_ok hp text)⟩
      simp [hissued, prerequisite_issued]
  | ok requester =>
    have henvelope := not_envelopeError_of_ok ht
    cases policyOutcome with
    | error g' =>
      have hissued' : Issued loaders clock trust policy context g' := policy_issued hp
      change GateGuards loaders clock trust policy context
        [g', prerequisiteUnavailableDenial clock.admission]
      refine ⟨by simp, ?_, fun text he => absurd he (henvelope text),
        fun text he => ⟨g', by simp, policyError_eq hp he⟩⟩
      simp [hissued', prerequisite_issued]
    | ok artifact =>
      have hpolicy := not_policyError_of_ok hp
      dsimp only
      generalize ha : CapabilityRegistryLoader.admitExecutionRequest clock.admission registry
        artifact requester request = admission
      cases admission with
      | error g =>
        change GateGuards loaders clock trust policy context [g]
        refine ⟨by simp, ?_, fun text he => absurd he (henvelope text),
          fun text he => absurd he (hpolicy text)⟩
        intro g' hg
        rw [List.mem_singleton.mp hg]
        exact ⟨.inl (CapabilityRegistryLoader.admitExecutionRequest_error ha),
          by simp [admission_stamped ha]⟩
      | ok capability =>
        change GateGuards loaders clock trust policy context
          (validateConsistency request requester artifact capability context.decidedAtUtc)
        exact ⟨validateConsistency_length ha, fun g hg => ⟨.inl (validateConsistency_mem hg),
          by simp [validateConsistency_stamped hg]⟩, fun text he => absurd he (henvelope text),
          fun text he => absurd he (hpolicy text)⟩

/-- The guards of a returned decision are issued like those that were collected. -/
theorem returned_gateGuards {d : RouteDecision}
    (h : resolve (routeResolutionInput loaders clock request trust policy registry context)
      context = .ok d) : GateGuards loaders clock trust policy context d.denialGuards := by
  have hcollected := collected_gateGuards loaders clock request trust policy registry context
  rcases resolve_guards h with he | ⟨he, hnil⟩
  · rw [he]
    exact hcollected
  · rw [hnil] at hcollected
    rw [he]
    refine ⟨by simp, ?_, fun text ht => ?_, fun text ht => ?_⟩
    · intro g hg
      rw [List.mem_singleton.mp hg]
      exact ⟨.inl (deniedSummary_mem _), by simp [stampedDenial, deny]⟩
    · obtain ⟨g, hg, -⟩ := hcollected.envelope text ht
      cases hg
    · obtain ⟨g, hg, -⟩ := hcollected.policy text ht
      cases hg

/-! ## Acceptance -/

/-- The identifiers of a request, as its schema has them. -/
structure RequestShaped (request : ExecutionRequest) : Prop where
  requestId : request.requestId.Versioned
  correlationId : request.correlationId.Versioned
  capabilityId : request.requestedCapabilityId.Versioned

/-- The identifier and the version of a policy, as its schema has them. -/
structure PolicyShaped (artifact : PolicyArtifact) : Prop where
  policyId : artifact.policyId.Versioned
  versioned : artifact.policyVersion ≠ ""

/-- The inputs whose decisions pass their schema. -/
structure Reloadable (loaders : ContractLoaders) (times : DateTimes) (trust policy : Value)
    (context : RouteResolutionContext) : Prop where
  decisionId : context.routeDecisionId.Versioned
  decided : times.Printable context.decidedAtUtc
  envelopeError : ∀ text, EnvelopeError loaders trust text → text.toList.length ≤ 160
  policyError : ∀ text, PolicyError loaders policy text → text.toList.length ≤ 160
  policyVersion : ∀ artifact, loaders.policyArtifact policy = .ok artifact →
    artifact.policyVersion.toList.length ≤ 32

theorem fixedRefusals_nonempty : ∀ text ∈ fixedRefusals, text ≠ "" := by
  decide +kernel

theorem length_pos_of_ne {text : String} (h : text ≠ "") : 1 ≤ text.toList.length :=
  List.length_pos_iff.mpr fun hnil => h (String.toList_eq_nil_iff.mp hnil)

/-- An issued guard fits exactly when its text is not too long. -/
theorem Issued.fits_iff {times : DateTimes} {g : DenialGuard}
    (h : Issued loaders clock trust policy context g)
    (hclock : ∀ t ∈ [clock.trust, clock.policy, clock.admission], times.Printable t)
    (hdecided : times.Printable context.decidedAtUtc) :
    GuardFits times g ↔ g.summary.toList.length ≤ 160 := by
  refine ⟨GuardFits.short, fun hshort => ⟨length_pos_of_ne ?_, hshort, ?_⟩⟩
  · rcases h.summary with hf | he | ⟨-, -, error, -, he⟩ | ⟨error, -, he⟩
    · exact fixedRefusals_nonempty _ hf
    · rw [he]
      simp [prerequisiteUnavailableDenial, deny]
    · intro hnil
      exact toList_append_ne_nil (by decide) _ (he ▸ String.toList_eq_nil_iff.mpr hnil)
    · intro hnil
      exact toList_append_ne_nil (by decide) _ (he ▸ String.toList_eq_nil_iff.mpr hnil)
  · have hstamped : g.timestampUtc ∈
        [clock.trust, clock.policy, clock.admission] ++ [context.decidedAtUtc] := h.stamped
    rcases List.mem_append.mp hstamped with hm | hm
    · exact hclock _ hm
    · rw [List.mem_singleton.mp hm]
      exact hdecided

theorem prerequisite_short (utcNow : TimestampUtc) :
    (prerequisiteUnavailableDenial utcNow).summary.toList.length ≤ 160 :=
  toList_length_le (by decide)

/-- The guards of the gates fit exactly when the loader errors do. -/
theorem GateGuards.fit_iff {times : DateTimes} {guards : List DenialGuard}
    (h : GateGuards loaders clock trust policy context guards)
    (hclock : ∀ t ∈ [clock.trust, clock.policy, clock.admission], times.Printable t)
    (hdecided : times.Printable context.decidedAtUtc) :
    (∀ g ∈ guards, GuardFits times g) ↔
      (∀ text, EnvelopeError loaders trust text → text.toList.length ≤ 160) ∧
        ∀ text, PolicyError loaders policy text → text.toList.length ≤ 160 := by
  constructor
  · intro hfit
    refine ⟨fun text he => ?_, fun text he => ?_⟩
    · obtain ⟨g, hg, rfl⟩ := h.envelope text he
      exact (hfit g hg).short
    · obtain ⟨g, hg, rfl⟩ := h.policy text he
      exact (hfit g hg).short
  · rintro ⟨henvelope, hpolicy⟩ g hg
    rw [(h.issued g hg).fits_iff hclock hdecided]
    rcases (h.issued g hg).summary with hf | he | he | he
    · exact Nat.le_trans (fixedRefusals_length _ hf) (by decide)
    · rw [he]
      exact prerequisite_short _
    · exact henvelope _ he
    · exact hpolicy _ he

section
variable {times : DateTimes} {d : RouteDecision}

theorem returned_reference
    (h : resolve (routeResolutionInput loaders clock request trust policy registry context)
      context = .ok d)
    (hpolicy : ∀ value artifact, loaders.policyArtifact value = .ok artifact →
      PolicyShaped artifact) :
    (∀ reference, d.policyReference = some reference → ReferenceFits reference) ↔
      ∀ artifact, loaders.policyArtifact policy = .ok artifact →
        artifact.policyVersion.toList.length ≤ 32 := by
  rw [(resolve_copied h).reference]
  cases hload : loaders.policyArtifact policy with
  | error e =>
    simp [routeResolutionInput, PolicyArtifactLoader.loadRequiredValue, hload, Except.toOption]
  | ok artifact =>
    have hshaped := hpolicy policy artifact hload
    have houtcome : (routeResolutionInput loaders clock request trust policy registry
        context).policyOutcome = .ok artifact := by
      simp [routeResolutionInput, PolicyArtifactLoader.loadRequiredValue, hload]
    rw [houtcome]
    constructor
    · rintro hfit _ ⟨⟩
      exact (hfit _ rfl).short
    · rintro hlen _ ⟨⟩
      exact ⟨hshaped.policyId, length_pos_of_ne hshaped.versioned, hlen artifact rfl⟩

theorem returned_capability
    (h : resolve (routeResolutionInput loaders clock request trust policy registry context)
      context = .ok d) (hrequest : RequestShaped request) :
    CapabilityFits d.capabilityDecisionSummary := by
  rw [(resolve_copied h).summary]
  refine ⟨hrequest.capabilityId, fun owner ho => ?_⟩
  obtain ⟨capability, hc, rfl⟩ := Option.map_eq_some_iff.mp ho
  have hadmitted : capability.ownerService = serviceId := by
    simp only [routeResolutionInput] at hc
    split at hc
    · cases ha : CapabilityRegistryLoader.admitExecutionRequest clock.admission registry _ _
          request with
      | error g =>
        rw [ha] at hc
        cases hc
      | ok c =>
        rw [ha] at hc
        cases hc
        obtain ⟨rule, hadm⟩ := CapabilityRegistryLoader.admitted_of_ok ha
        exact hadm.owned
    · cases hc
  rw [hadmitted]
  decide

end

/-- A decision of the service, serialised, passes its schema exactly when the inputs
are reloadable. -/
theorem resolveRouteDecision_reloadable_iff (loaders : ContractLoaders) (clock : GuardClock)
    (times : DateTimes) (requestValue trust policy registryValue : Value)
    (context : RouteResolutionContext) {d : RouteDecision}
    (hrequest : ∀ value request, loaders.executionRequest value = .ok request →
      RequestShaped request)
    (hpolicy : ∀ value artifact, loaders.policyArtifact value = .ok artifact →
      PolicyShaped artifact)
    (hclock : ∀ t ∈ [clock.trust, clock.policy, clock.admission], times.Printable t)
    (h : resolveRouteDecision loaders clock requestValue trust policy registryValue context =
      .ok d) :
    routeDecision times (d.toValue times) = true ↔
      Reloadable loaders times trust policy context := by
  obtain ⟨request, registry, -, hload, hres⟩ := resolveRouteDecision_eq_ok h
  have hshaped := hrequest requestValue request hload
  obtain ⟨hst, hflags, -⟩ := resolve_spec hres
  have hkept := resolve_kept hres
  have hguards := returned_gateGuards hres
  have hreference := returned_reference hres hpolicy
  have hdecided := (resolve_copied hres).decided
  rw [routeDecision_accepted_iff]
  constructor
  · intro hfit
    have hprint : times.Printable context.decidedAtUtc := hdecided ▸ hfit.decided
    obtain ⟨henvelope, hpolicyError⟩ := (hguards.fit_iff hclock hprint).mp hfit.guards
    exact ⟨hst.routeDecisionId ▸ hfit.routeDecisionId, hprint, henvelope, hpolicyError,
      hreference.mp hfit.reference⟩
  · intro hreload
    exact {
      routeDecisionId := hst.routeDecisionId ▸ hreload.decisionId
      correlationId := hst.correlationId ▸ hshaped.correlationId
      requestId := hst.requestId ▸ hshaped.requestId
      guardCount := hguards.count
      guards := (hguards.fit_iff hclock hreload.decided).mpr
        ⟨hreload.envelopeError, hreload.policyError⟩
      reference := hreference.mpr hreload.policyVersion
      capability := returned_capability hres hshaped
      nonempty := hkept.nonempty
      short := hkept.short
      decided := hdecided ▸ hreload.decided
      flags := hflags
      guarded := guarded_iff hres }

end DecisionService

/-! The basic inputs, and an envelope that lacks both of its times. -/

namespace Fixture

/-- The times of the fixtures all pass. -/
def times : DateTimes := ⟨fun _ => "2030-01-01T00:10:00Z", fun text => text.toList.length == 20⟩

def timeless : ContractLoaders :=
  { loaders with
    requesterTrust := fun _ => .error (.schemaValidation "requester-trust.schema.json"
      ["\"issued_at\" is a required property", "\"expires_at\" is a required property"]) }

end Fixture

namespace DecisionService

open RouteDecisionSchema

theorem resolveRouteDecision_reloadable_basic : ∃ d,
    resolveRouteDecision Fixture.loaders Fixture.clock .null Fixture.envelopeValue .null .null
      Fixture.context = .ok d ∧
    (routeDecision Fixture.times (d.toValue Fixture.times) = true ↔
      Reloadable Fixture.loaders Fixture.times Fixture.envelopeValue .null Fixture.context) := by
  have hok : (resolveRouteDecision Fixture.loaders Fixture.clock .null Fixture.envelopeValue .null
      .null Fixture.context).isOk = true := by
    decide +kernel
  obtain ⟨d, h⟩ := exists_of_isOk hok
  refine ⟨d, h, resolveRouteDecision_reloadable_iff Fixture.loaders Fixture.clock Fixture.times
    .null Fixture.envelopeValue .null .null Fixture.context ?_ ?_ ?_ h⟩
  · rintro _ _ ⟨⟩
    exact ⟨by decide +kernel, by decide +kernel, by decide +kernel⟩
  · rintro _ _ ⟨⟩
    exact ⟨by decide +kernel, by decide⟩
  · intro t _
    simp [DateTimes.Printable, Fixture.times]

/-- The denial of that envelope does not pass the schema of decisions. -/
theorem resolveRouteDecision_not_reloadable : ∃ d,
    resolveRouteDecision Fixture.timeless Fixture.clock .null Fixture.envelopeValue .null .null
      Fixture.context = .ok d ∧
    routeDecision Fixture.times (d.toValue Fixture.times) = false := by
  have hok : (resolveRouteDecision Fixture.timeless Fixture.clock .null Fixture.envelopeValue .null
      .null Fixture.context).isOk = true := by
    decide +kernel
  obtain ⟨d, h⟩ := exists_of_isOk hok
  refine ⟨d, h, ?_⟩
  obtain ⟨request, registry, -, -, hres⟩ := resolveRouteDecision_eq_ok h
  have herror : EnvelopeError Fixture.timeless Fixture.envelopeValue _ :=
    ⟨rfl, rfl, _, rfl, rfl⟩
  obtain ⟨g, hg, htext⟩ := (returned_gateGuards hres).envelope _ herror
  by_contra haccepted
  have hfit := routeDecision_accepted_iff.mp (by simpa using haccepted)
  have hshort := (hfit.guards g hg).short
  rw [htext] at hshort
  revert hshort
  decide +kernel

end DecisionService

end FaLocal
