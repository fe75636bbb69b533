import FaLocal.Contracts

/-!
# Requester trust, policy loading and capability admission

The three gates whose verdicts the posture resolver combines. Each is a chain
of early returns; its spec lemma lists exactly what the `Ok` branch has seen.
-/
namespace FaLocal

structure TrustEvaluationContext where
  expectedEnvironment : EnvironmentMode
  now : TimestampUtc

def isValidNonceOrToken (value : String) : Bool :=
  16 ≤ value.utf8ByteSize && value.utf8ByteSize ≤ 128 &&
    value.toList.all fun c => c.isAlphanum || c == '.' || c == '_' || c == ':' || c == '-'

namespace RequesterTrustEngine

def evaluate (utcNow : TimestampUtc) (envelope : RequesterTrustEnvelope)
    (context : TrustEvaluationContext) : Except DenialGuard Unit :=
  if envelope.requesterClass = .untrustedUnknown then
    .error (deny utcNow .unknownRequester .request .runtimeSafety "unknown requester denied")
  else if envelope.environmentMode ≠ context.expectedEnvironment then
    .error (deny utcNow .contractInvalid .request .contract "environment mismatch")
  else if envelope.issuedAt ≥ envelope.expiresAt then
    .error (deny utcNow .untrustedRequester .request .runtimeSafety
      "request token or nonce has an invalid time window")
  else if !isValidNonceOrToken envelope.requestNonceOrToken then
    .error (deny utcNow .untrustedRequester .request .runtimeSafety
      "request token or nonce is invalid")
  else if context.now ≥ envelope.expiresAt then
    .error (deny utcNow .untrustedRequester .request .runtimeSafety
      "request token or nonce is expired")
  else .ok ()

/-- What an accepted envelope has shown. -/
structure Trusted (envelope : RequesterTrustEnvelope) (context : TrustEvaluationContext) :
    Prop where
  known : envelope.requesterClass ≠ .untrustedUnknown
  environment : envelope.environmentMode = context.expectedEnvironment
  window : envelope.issuedAt < envelope.expiresAt
  nonce : isValidNonceOrToken envelope.requestNonceOrToken = true
  fresh : context.now < envelope.expiresAt

theorem evaluate_eq_ok {utcNow : TimestampUtc} {envelope : RequesterTrustEnvelope}
    {context : TrustEvaluationContext} :
    evaluate utcNow envelope context = .ok () ↔ Trusted envelope context := by
  constructor
  · intro h
    simp only [evaluate] at h
    split_ifs at h with h₁ h₂ h₃ h₄ h₅
    exact ⟨h₁, not_not.mp h₂, Int.not_le.mp h₃, by simpa using h₄, Int.not_le.mp h₅⟩
  · intro h
    simp [evaluate, h.known, h.environment, Int.not_le.mpr h.window, h.nonce, Int.not_le.mpr h.fresh]

def loadAndEvaluate (loaders : ContractLoaders) (utcNow : TimestampUtc) (value : Value)
    (context : TrustEvaluationContext) : Except DenialGuard RequesterTrustEnvelope :=
  if !value.isObject then
    .error (deny utcNow .contractInvalid .request .contract
      "malformed requester envelope: root must be an object")
  else if (value.get "trust_basis").isNone then
    .error (deny utcNow .untrustedRequester .request .contract "missing trust basis")
  else
    match loaders.requesterTrust value with
    | .error error => .error (deny utcNow .contractInvalid .request .contract
        ("malformed requester envelope: " ++ error.display loaders.plainChar))
    | .ok envelope =>
      match evaluate utcNow envelope context with
      | .error denial => .error denial
      | .ok () => .ok envelope

theorem loadAndEvaluate_eq_ok {loaders : ContractLoaders} {utcNow : TimestampUtc} {value : Value}
    {context : TrustEvaluationContext} {envelope : RequesterTrustEnvelope} :
    loadAndEvaluate loaders utcNow value context = .ok envelope ↔
      value.isObject = true ∧ (value.get "trust_basis").isSome = true ∧
      loaders.requesterTrust value = .ok envelope ∧ Trusted envelope context := by
  constructor
  · intro h
    simp only [loadAndEvaluate] at h
    split_ifs at h with h₁ h₂
    split at h
    · cases h
    · rename_i e he
      split at h
      · cases h
      · rename_i hev
        cases h
        exact ⟨by simpa using h₁, by simpa [Option.isSome_iff_ne_none] using h₂, he,
          evaluate_eq_ok.mp hev⟩
  · rintro ⟨h₁, h₂, h₃, h₄⟩
    have hn : (value.get "trust_basis").isNone = false := by
      simpa [Option.isSome_iff_ne_none] using h₂
    simp [loadAndEvaluate, h₁, hn, h₃, evaluate_eq_ok.mpr h₄]

end RequesterTrustEngine

def PolicyArtifactLoader.loadRequiredValue (loaders : ContractLoaders) (utcNow : TimestampUtc)
    (value : Option Value) : Except DenialGuard PolicyArtifact :=
  match value with
  | none => .error (deny utcNow .missingPolicy .artifact .policy "missing policy artifact")
  | some value =>
    match loaders.policyArtifact value with
    | .error error => .error (deny utcNow .contractInvalid .artifact .contract
        ("invalid policy artifact: " ++ error.display loaders.plainChar))
    | .ok policy => .ok policy

namespace CapabilityRegistryLoader

def admitExecutionRequest (utcNow : TimestampUtc) (registry : CapabilityRegistry)
    (policy : PolicyArtifact) (requester : RequesterTrustEnvelope) (request : ExecutionRequest) :
    Except DenialGuard CapabilityRecord :=
  match registry.capabilityFor request.requestedCapabilityId with
  | none => .error (deny utcNow .capabilityNotAdmitted .capability .policy
      "unregistered capability")
  | some capability =>
    if capability.enabledState = .disabled then
      .error (deny utcNow .disabledByOperator .capability .policy "capability is disabled")
    else if capability.revocationState = .revoked then
      .error (deny utcNow .capabilityNotAdmitted .capability .policy "capability is revoked")
    else if capability.ownerService ≠ serviceId then
      .error (deny utcNow .capabilityNotAdmitted .capability .policy
        "capability owner does not match fa-local")
    else if requester.requesterClass ∉ capability.allowedRequesterClasses then
      .error (deny utcNow .capabilityNotAdmitted .capability .policy
        "requester class is not admitted for capability")
    else if capability.sideEffectClass ≠ request.requestedSideEffectClass then
      .error (deny utcNow .policyDenied .capability .contractAndPolicy
        "policy/capability mismatch: requested side effect does not match capability")
    else
      match policy.capabilityRuleFor capability.capabilityId with
      | none => .error (deny utcNow .policyDenied .capability .contractAndPolicy
          "policy/capability mismatch: capability missing from policy")
      | some policyRule =>
        if policyRule.allowed = false then
          .error (deny utcNow .policyDenied .capability .policy "policy denies capability")
        else if request.environmentMode ∉ policy.scope.environmentModes ∨
            request.environmentMode ∉ policy.environmentConditions then
          .error (deny utcNow .policyDenied .capability .policy
            "policy does not admit this environment")
        else if requester.requesterClass ∉ policyRule.allowedRequesterClasses then
          .error (deny utcNow .policyDenied .capability .policy
            "policy/capability mismatch: requester class not allowed")
        else if request.requestedSideEffectClass ∉ policyRule.allowedSideEffectClasses then
          .error (deny utcNow .policyDenied .capability .policy
            "policy/capability mismatch: side effect class not allowed")
        else .ok capability

/-- What an admitted capability has shown. -/
structure Admitted (registry : CapabilityRegistry) (policy : PolicyArtifact)
    (requester : RequesterTrustEnvelope) (request : ExecutionRequest)
    (capability : CapabilityRecord) (rule : CapabilityRule) : Prop where
  registered : registry.capabilityFor request.requestedCapabilityId = some capability
  enabled : capability.enabledState = .enabled
  unrevoked : capability.revocationState ≠ .revoked
  owned : capability.ownerService = serviceId
  recordClass : requester.requesterClass ∈ capability.allowedRequesterClasses
  recordEffect : capability.sideEffectClass = request.requestedSideEffectClass
  ruled : policy.capabilityRuleFor request.requestedCapabilityId = some rule
  allowed : rule.allowed = true
  inScope : request.environmentMode ∈ policy.scope.environmentModes
  inConditions : request.environmentMode ∈ policy.environmentConditions
  ruleClass : requester.requesterClass ∈ rule.allowedRequesterClasses
  ruleEffect : request.requestedSideEffectClass ∈ rule.allowedSideEffectClasses

end CapabilityRegistryLoader

theorem CapabilityRegistry.capabilityFor_id {registry : CapabilityRegistry} {id : CapabilityId}
    {capability : CapabilityRecord} (h : registry.capabilityFor id = some capability) :
    capability.capabilityId = id := by
  simpa using List.find?_some h

namespace CapabilityRegistryLoader

variable {utcNow : TimestampUtc} {registry : CapabilityRegistry} {policy : PolicyArtifact}
  {requester : RequesterTrustEnvelope} {request : ExecutionRequest}
  {capability : CapabilityRecord}

theorem admitted_of_ok
    (h : admitExecutionRequest utcNow registry policy requester request = .ok capability) :
    ∃ rule, Admitted registry policy requester request capability rule := by
  rw [admitExecutionRequest] at h
  cases hcap : registry.capabilityFor request.requestedCapabilityId with
  | none => simp [hcap] at h
  | some cap =>
    simp only [hcap, ite_error_eq_ok] at h
    obtain ⟨hen, hrev, hown, hcls, heff, h⟩ := h
    cases hrule : policy.capabilityRuleFor cap.capabilityId with
    | none => simp [hrule] at h
    | some rule =>
      simp only [hrule, ite_error_eq_ok] at h
      obtain ⟨hall, henv, hrcls, hreff, ⟨⟩⟩ := h
      have hen' : capability.enabledState = .enabled := by
        cases he : capability.enabledState with
        | enabled => rfl
        | disabled => exact absurd he hen
      rw [registry.capabilityFor_id hcap] at hrule
      simp only [not_or, not_not, Bool.not_eq_false, ne_eq] at hown hcls heff hall henv hrcls hreff
      exact ⟨rule, hcap, hen', hrev, hown, hcls, heff, hrule, hall, henv.1, henv.2, hrcls, hreff⟩

theorem ok_of_admitted {rule : CapabilityRule}
    (h : Admitted registry policy requester request capability rule) :
    admitExecutionRequest utcNow registry policy requester request = .ok capability := by
  have hrule : policy.capabilityRuleFor capability.capabilityId = some rule := by
    rw [registry.capabilityFor_id h.registered, h.ruled]
  simp [admitExecutionRequest, h.registered, h.enabled, h.unrevoked, h.owned, h.recordClass,
    h.recordEffect, hrule, h.allowed, h.inScope, h.inConditions, h.ruleClass, h.ruleEffect]

end CapabilityRegistryLoader

end FaLocal
