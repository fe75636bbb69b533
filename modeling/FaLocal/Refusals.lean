import FaLocal.Decision

/-!
# Where the text of a refusal comes from

The summary of a denied decision repeats its first guard. Its text is one of
the fixed texts of the gates, unless the envelope or the policy was refused by
its loader: then it carries the loader's error.
-/
namespace FaLocal

/-- The fixed texts of the gates and of the resolver. -/
def fixedRefusals : List String := [
  "malformed requester envelope: root must be an object",
  "missing trust basis",
  "unknown requester denied",
  "environment mismatch",
  "request token or nonce has an invalid time window",
  "request token or nonce is invalid",
  "request token or nonce is expired",
  "unregistered capability",
  "capability is disabled",
  "capability is revoked",
  "capability owner does not match fa-local",
  "requester class is not admitted for capability",
  "policy/capability mismatch: requested side effect does not match capability",
  "policy/capability mismatch: capability missing from policy",
  "policy denies capability",
  "policy does not admit this environment",
  "policy/capability mismatch: requester class not allowed",
  "policy/capability mismatch: side effect class not allowed",
  "requester envelope does not match execution request",
  "requester environment does not match execution request",
  "policy service scope does not match fa-local",
  "capability decision does not match execution request",
  "policy lacks requester approval rule",
  "policy denies requested side effect class",
  "requested side effect is denied by bounded doctrine",
  "approval posture resolution denied request"]

theorem toList_length_le {l : List Char} {n : Nat} (h : l.length ≤ n) :
    (String.ofList l).toList.length ≤ n := by
  simpa using h

theorem fixedRefusals_length : ∀ text ∈ fixedRefusals, text.toList.length ≤ 100 := by
  simp only [fixedRefusals, List.forall_mem_cons, List.not_mem_nil, IsEmpty.forall_iff,
    implies_true, and_true]
  repeat' apply And.intro
  all_goals exact toList_length_le (by decide)

theorem RequesterTrustEngine.evaluate_error {utcNow : TimestampUtc}
    {envelope : RequesterTrustEnvelope} {context : TrustEvaluationContext} {g : DenialGuard}
    (h : evaluate utcNow envelope context = .error g) : g.summary ∈ fixedRefusals := by
  simp only [evaluate] at h
  split_ifs at h <;> cases h <;>
    simp only [fixedRefusals, deny, List.mem_cons, true_or, or_true]

theorem RequesterTrustEngine.evaluate_stamped {utcNow : TimestampUtc}
    {envelope : RequesterTrustEnvelope} {context : TrustEvaluationContext} {g : DenialGuard}
    (h : evaluate utcNow envelope context = .error g) : g.timestampUtc = utcNow := by
  simp only [evaluate] at h
  split_ifs at h <;> cases h <;> rfl

/-- What the trust gate refuses, and in which words. -/
theorem RequesterTrustEngine.loadAndEvaluate_error {loaders : ContractLoaders}
    {utcNow : TimestampUtc} {value : Value} {context : TrustEvaluationContext} {g : DenialGuard}
    (h : loadAndEvaluate loaders utcNow value context = .error g) :
    g.timestampUtc = utcNow ∧
      ((value.isObject && (value.get "trust_basis").isSome) = false ∧ g.summary ∈ fixedRefusals ∨
        (value.isObject && (value.get "trust_basis").isSome) = true ∧
          ((∃ error, loaders.requesterTrust value = .error error ∧
              g.summary = "malformed requester envelope: " ++ error.display loaders.plainChar) ∨
            ∃ envelope, loaders.requesterTrust value = .ok envelope ∧
              evaluate utcNow envelope context = .error g)) := by
  rw [loadAndEvaluate] at h
  split at h
  · rename_i hobj
    cases h
    refine ⟨rfl, .inl ⟨?_, by simp only [fixedRefusals, deny, List.mem_cons, true_or]⟩⟩
    rw [show value.isObject = false by simpa using hobj, Bool.false_and]
  rename_i hobj
  split at h
  · rename_i hnone
    cases h
    refine ⟨rfl, .inl ⟨?_, by simp only [fixedRefusals, deny, List.mem_cons, true_or, or_true]⟩⟩
    rw [← Option.not_isNone, hnone, Bool.not_true, Bool.and_false]
  rename_i hsome
  have hroot : (value.isObject && (value.get "trust_basis").isSome) = true := by
    simpa [Option.isSome_iff_ne_none] using And.intro hobj hsome
  split at h
  · rename_i error he
    cases h
    exact ⟨rfl, .inr ⟨hroot, .inl ⟨error, he, rfl⟩⟩⟩
  · rename_i envelope he
    split at h
    · rename_i denial hev
      cases h
      exact ⟨evaluate_stamped hev, .inr ⟨hroot, .inr ⟨envelope, he, hev⟩⟩⟩
    · cases h

theorem CapabilityRegistryLoader.admitExecutionRequest_error {utcNow : TimestampUtc}
    {registry : CapabilityRegistry} {policy : PolicyArtifact}
    {requester : RequesterTrustEnvelope} {request : ExecutionRequest} {g : DenialGuard}
    (h : admitExecutionRequest utcNow registry policy requester request = .error g) :
    g.summary ∈ fixedRefusals := by
  rw [admitExecutionRequest] at h
  split at h
  · cases h
    simp [fixedRefusals, deny]
  · rename_i capability hc
    cases hr : policy.capabilityRuleFor capability.capabilityId with
    | none =>
      simp only [hr] at h
      split_ifs at h <;> cases h <;>
    simp only [fixedRefusals, deny, List.mem_cons, true_or, or_true]
    | some rule =>
      simp only [hr] at h
      split_ifs at h <;> cases h <;>
    simp only [fixedRefusals, deny, List.mem_cons, true_or, or_true]

theorem ApprovalPostureResolver.validateConsistency_mem {request : ExecutionRequest}
    {requester : RequesterTrustEnvelope} {policy : PolicyArtifact}
    {capability : CapabilityRecord} {decidedAtUtc : TimestampUtc} {g : DenialGuard}
    (h : g ∈ validateConsistency request requester policy capability decidedAtUtc) :
    g.summary ∈ fixedRefusals := by
  simp only [validateConsistency, List.mem_append] at h
  obtain ((((((((h | h) | h) | h) | h) | h) | h) | h) | h) | h := h <;>
    · rw [mem_pushIf h]
      simp only [fixedRefusals, stampedDenial, deny, List.mem_cons, true_or, or_true]

namespace DecisionService

open ApprovalPostureResolver

variable {loaders : ContractLoaders} {clock : GuardClock} {context : RouteResolutionContext}
  {request : ExecutionRequest} {trust policy : Value} {registry : CapabilityRegistry}

/-- The loader error that decides a refusal: that of the envelope, or that of
the policy once the envelope is trusted. -/
def loaderRefusal (loaders : ContractLoaders) (clock : GuardClock) (request : ExecutionRequest)
    (requesterTrust policy : Value) (context : RouteResolutionContext) : Option String :=
  if requesterTrust.isObject && (requesterTrust.get "trust_basis").isSome then
    match loaders.requesterTrust requesterTrust with
    | .error error => some ("malformed requester envelope: " ++ error.display loaders.plainChar)
    | .ok envelope =>
      match RequesterTrustEngine.evaluate clock.trust envelope
          { expectedEnvironment := request.environmentMode, now := context.decidedAtUtc },
          loaders.policyArtifact policy with
      | .ok (), .error error => some ("invalid policy artifact: " ++ error.display loaders.plainChar)
      | _, _ => none
  else none

/-- The trust gate's own refusal text. -/
theorem trust_error {g : DenialGuard}
    (h : RequesterTrustEngine.loadAndEvaluate loaders clock.trust trust
      { expectedEnvironment := request.environmentMode, now := context.decidedAtUtc } = .error g) :
    (loaderRefusal loaders clock request trust policy context = none ∧
        g.summary ∈ fixedRefusals) ∨
      loaderRefusal loaders clock request trust policy context = some g.summary := by
  obtain ⟨-, ⟨hroot, hg⟩ | ⟨hroot, ⟨error, he, hg⟩ | ⟨envelope, he, hev⟩⟩⟩ :=
    RequesterTrustEngine.loadAndEvaluate_error h
  · exact .inl ⟨by simp [loaderRefusal, hroot], hg⟩
  · exact .inr (by simp only [loaderRefusal, hroot, he, hg, if_true])
  · exact .inl ⟨by simp only [loaderRefusal, hroot, he, hev, if_true],
      RequesterTrustEngine.evaluate_error hev⟩

theorem trust_ok {envelope : RequesterTrustEnvelope}
    (h : RequesterTrustEngine.loadAndEvaluate loaders clock.trust trust
      { expectedEnvironment := request.environmentMode, now := context.decidedAtUtc } =
        .ok envelope) :
    loaderRefusal loaders clock request trust policy context =
      match loaders.policyArtifact policy with
      | .error error => some ("invalid policy artifact: " ++ error.display loaders.plainChar)
      | .ok _ => none := by
  obtain ⟨hobj, hb, he, ht⟩ := RequesterTrustEngine.loadAndEvaluate_eq_ok.mp h
  have hev : RequesterTrustEngine.evaluate clock.trust envelope
      { expectedEnvironment := request.environmentMode, now := context.decidedAtUtc } = .ok () :=
    RequesterTrustEngine.evaluate_eq_ok.mpr ht
  cases hp : loaders.policyArtifact policy <;>
    simp [loaderRefusal, hobj, hb, he, hev, hp]

theorem policy_error {utcNow : TimestampUtc} {g : DenialGuard}
    (h : PolicyArtifactLoader.loadRequiredValue loaders utcNow (some policy) = .error g) :
    (∃ error, loaders.policyArtifact policy = .error error ∧
      g.summary = "invalid policy artifact: " ++ error.display loaders.plainChar) ∧
        g.timestampUtc = utcNow := by
  simp only [PolicyArtifactLoader.loadRequiredValue] at h
  split at h
  · rename_i error he
    cases h
    exact ⟨⟨error, he, rfl⟩, rfl⟩
  · cases h

theorem policy_ok {artifact : PolicyArtifact}
    (h : PolicyArtifactLoader.loadRequiredValue loaders clock.policy (some policy) =
      .ok artifact) : loaders.policyArtifact policy = .ok artifact := by
  simp only [PolicyArtifactLoader.loadRequiredValue] at h
  split at h
  · cases h
  · rename_i hp
    cases h
    exact hp

theorem firstDenialSummary_mem {guards : List DenialGuard} (hne : guards ≠ [])
    (h : ∀ g ∈ guards, g.summary ∈ fixedRefusals) : firstDenialSummary guards ∈ fixedRefusals := by
  cases guards with
  | nil => exact absurd rfl hne
  | cons g guards => exact h g List.mem_cons_self

/-- The first guard carries a fixed text or the deciding loader error. -/
theorem collectedDenials_first
    (hne : collectedDenials (routeResolutionInput loaders clock request trust policy registry
      context) context ≠ []) :
    (loaderRefusal loaders clock request trust policy context = none ∧
      firstDenialSummary (collectedDenials (routeResolutionInput loaders clock request trust policy
        registry context) context) ∈ fixedRefusals) ∨
    loaderRefusal loaders clock request trust policy context =
      some (firstDenialSummary (collectedDenials (routeResolutionInput loaders clock request trust
        policy registry context) context)) := by
  cases ht : RequesterTrustEngine.loadAndEvaluate loaders clock.trust trust
      { expectedEnvironment := request.environmentMode, now := context.decidedAtUtc } with
  | error g =>
    have hf : firstDenialSummary (collectedDenials (routeResolutionInput loaders clock request
        trust policy registry context) context) = g.summary := by
      simp [collectedDenials, routeResolutionInput, ht, denialsOf, firstDenialSummary]
    rw [hf]
    exact trust_error ht
  | ok envelope =>
    cases hp : PolicyArtifactLoader.loadRequiredValue loaders clock.policy (some policy) with
    | error g =>
      obtain ⟨⟨error, he, hg⟩, -⟩ := policy_error hp
      have hf : firstDenialSummary (collectedDenials (routeResolutionInput loaders clock request
          trust policy registry context) context) = g.summary := by
        simp [collectedDenials, routeResolutionInput, ht, hp, denialsOf, firstDenialSummary]
      rw [hf, trust_ok ht, he, hg]
      exact .inr rfl
    | ok artifact =>
      refine .inl ⟨by rw [trust_ok ht, policy_ok hp], firstDenialSummary_mem hne fun g hg => ?_⟩
      cases ha : CapabilityRegistryLoader.admitExecutionRequest clock.admission registry artifact
          envelope request with
      | error g' =>
        simp only [collectedDenials, routeResolutionInput, ht, hp, ha, denialsOf, Except.toOption,
          List.nil_append, List.append_nil, List.mem_singleton] at hg
        exact hg ▸ CapabilityRegistryLoader.admitExecutionRequest_error ha
      | ok capability =>
        simp only [collectedDenials, routeResolutionInput, ht, hp, ha, denialsOf, Except.toOption,
          List.nil_append] at hg
        exact validateConsistency_mem hg

theorem deniedSummary_mem (request : ExecutionRequest) :
    deniedSummary request ∈ fixedRefusals := by
  rw [deniedSummary]
  split <;> simp only [fixedRefusals, List.mem_cons, true_or, or_true]

/-- The text behind a denial: fixed, or the deciding loader error. -/
theorem denied_first {d : RouteDecision}
    (h : resolve (routeResolutionInput loaders clock request trust policy registry context)
      context = .ok d) (hd : d.resolvedApprovalPosture = .denied) :
    (loaderRefusal loaders clock request trust policy context = none ∧
      firstDenialSummary d.denialGuards ∈ fixedRefusals) ∨
    loaderRefusal loaders clock request trust policy context =
      some (firstDenialSummary d.denialGuards) := by
  by_cases hne : collectedDenials (routeResolutionInput loaders clock request trust policy registry
      context) context = []
  · obtain ⟨envelope, artifact, capability, ht, hp, hc, hv⟩ := collectedDenials_eq_nil hne
    obtain ⟨reference, summary, hs, hr⟩ := resolve_of_clean ht hp hc hv
    obtain ⟨-, -, hde, -⟩ := resolveFactors_spec hs (hr ▸ h)
    refine .inl ⟨?_, ?_⟩
    · rw [trust_ok ht, policy_ok hp]
    · rw [(hde hd).2]
      exact deniedSummary_mem _
  · obtain ⟨reference, summary, hs, hr⟩ := resolve_of_denials hne
    obtain ⟨-, -, -, hg⟩ := deniedDecision_spec hs hne (hr ▸ h)
    rw [hg]
    exact collectedDenials_first hne

/-- A summary built on a fixed refusal always fits. -/
theorem boundedSummary_fixed {text : String} (h : text ∈ fixedRefusals) :
    boundedSummary ("request denied: " ++ text) = .ok ("request denied: " ++ text) := by
  have hp : "request denied: ".toList.length ≤ 16 := toList_length_le (by decide)
  have ht := fixedRefusals_length text h
  refine boundedSummary_short ?_
  rw [String.toList_append, List.length_append]
  omega

theorem deniedDecision_fixed {reference : Option PolicyReference}
    {summary : CapabilityDecisionSummary} {guards : List DenialGuard}
    (h : firstDenialSummary guards ∈ fixedRefusals) :
    ∃ d, deniedDecision request reference summary guards context = .ok d := by
  simp only [deniedDecision, boundedSummary_fixed h, bind, Except.bind]
  exact ⟨_, rfl⟩

theorem resolveFactors_total {envelope : RequesterTrustEnvelope} {artifact : PolicyArtifact}
    {capability : CapabilityRecord} {reference : Option PolicyReference}
    {summary : CapabilityDecisionSummary}
    (hv : validateConsistency request envelope artifact capability context.decidedAtUtc = []) :
    ∃ d, resolveFactors request envelope artifact capability reference summary context =
      .ok d := by
  have hc := validateConsistency_eq_nil.mp hv
  obtain ⟨rule, hrule⟩ := Option.ne_none_iff_exists'.mp hc.ruled
  obtain ⟨approval, happ⟩ := Option.ne_none_iff_exists'.mp hc.approved
  obtain ⟨posture, hmin⟩ : ∃ posture, minByKey postureRank
      (postureFactors request envelope capability approval rule) = some posture := ⟨_, rfl⟩
  simp only [resolveFactors, hrule, happ, hmin, expect, bind, Except.bind]
  split
  · exact deniedDecision_fixed (deniedSummary_mem request)
  · obtain ⟨text, ht⟩ := operatorSummary_ok posture request.requestedCapabilityId
    rw [ht]
    exact ⟨_, rfl⟩

/-- Without a loader error a decision is always returned. -/
theorem resolve_total (registry : CapabilityRegistry)
    (h : loaderRefusal loaders clock request trust policy context = none) :
    ∃ d, resolve (routeResolutionInput loaders clock request trust policy registry context)
      context = .ok d := by
  by_cases hne : collectedDenials (routeResolutionInput loaders clock request trust policy registry
      context) context = []
  · obtain ⟨envelope, artifact, capability, ht, hp, hc, hv⟩ := collectedDenials_eq_nil hne
    obtain ⟨reference, summary, hs, hr⟩ := resolve_of_clean ht hp hc hv
    rw [hr]
    exact resolveFactors_total hv
  · obtain ⟨reference, summary, hs, hr⟩ := resolve_of_denials hne
    rw [hr]
    rcases collectedDenials_first hne with ⟨-, hf⟩ | hs
    · exact deniedDecision_fixed hf
    · simp [h] at hs

end DecisionService

end FaLocal
