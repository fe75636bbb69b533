import FaLocal.Refusals

/-!
# The execution gate

When a route decision allows execution: the trust engine, the admission check,
the consistency check and the posture resolver together ask for exactly the
conditions of `Admissible`.
-/
namespace FaLocal

open ApprovalPostureResolver

/-- The conditions on a request, its envelope, the policy and the registry,
with the first matching record and rules. -/
structure Admissible (request : ExecutionRequest) (envelope : RequesterTrustEnvelope)
    (policy : PolicyArtifact) (registry : CapabilityRegistry) (decidedAtUtc : TimestampUtc)
    (capability : CapabilityRecord) (rule : CapabilityRule) (approval : ApprovalRule) :
    Prop where
  known : envelope.requesterClass ≠ .untrustedUnknown
  environment : envelope.environmentMode = request.environmentMode
  window : envelope.issuedAt < envelope.expiresAt
  nonceSize : 16 ≤ envelope.requestNonceOrToken.utf8ByteSize ∧
    envelope.requestNonceOrToken.utf8ByteSize ≤ 128
  nonceChars : ∀ c ∈ envelope.requestNonceOrToken.toList,
    c.isAlphanum = true ∨ c ∈ ['.', '_', ':', '-']
  unexpired : decidedAtUtc < envelope.expiresAt
  requesterId : envelope.requesterId = request.requesterId
  registered : registry.capabilities.find? (·.capabilityId == request.requestedCapabilityId) =
    some capability
  enabled : capability.enabledState = .enabled
  unrevoked : capability.revocationState ≠ .revoked
  owned : capability.ownerService = serviceId
  recordClass : envelope.requesterClass ∈ capability.allowedRequesterClasses
  recordEffect : capability.sideEffectClass = request.requestedSideEffectClass
  ruled : policy.capabilityRules.find? (·.capabilityId == request.requestedCapabilityId) =
    some rule
  allowed : rule.allowed = true
  ruleClass : envelope.requesterClass ∈ rule.allowedRequesterClasses
  ruleEffect : request.requestedSideEffectClass ∈ rule.allowedSideEffectClasses
  inScope : request.environmentMode ∈ policy.scope.environmentModes
  inConditions : request.environmentMode ∈ policy.environmentConditions
  service : policy.scope.serviceId = serviceId
  effectAllowed : ∃ effectRule,
    policy.sideEffectRules.find? (·.sideEffectClass == request.requestedSideEffectClass) =
      some effectRule ∧ effectRule.allowed = true
  approved : policy.approvalRules.find? (·.requesterClass == envelope.requesterClass) =
    some approval
  factors : ∀ posture ∈ [approval.maxPosture, rule.requiredApprovalPosture,
      capability.approvalPosture, reviewClassMinimumPosture capability.reviewClass,
      sideEffectMinimumPosture request.requestedSideEffectClass,
      userIntentMinimumPosture envelope.userIntentBasis],
    posture = .policyPreapproved ∨ posture = .executeAllowed

theorem isValidNonceOrToken_iff (value : String) :
    isValidNonceOrToken value = true ↔
      (16 ≤ value.utf8ByteSize ∧ value.utf8ByteSize ≤ 128) ∧
        ∀ c ∈ value.toList, c.isAlphanum = true ∨ c ∈ ['.', '_', ':', '-'] := by
  simp [isValidNonceOrToken, or_assoc]

theorem executionAllowedFor_iff_or (posture : ApprovalPosture) :
    executionAllowedFor posture = true ↔
      posture = .policyPreapproved ∨ posture = .executeAllowed := by
  cases posture <;> simp [executionAllowedFor]

section
variable {request : ExecutionRequest} {envelope : RequesterTrustEnvelope}
  {policy : PolicyArtifact} {registry : CapabilityRegistry} {decidedAtUtc : TimestampUtc}
  {capability : CapabilityRecord} {rule : CapabilityRule} {approval : ApprovalRule}

theorem Admissible.trusted
    (h : Admissible request envelope policy registry decidedAtUtc capability rule approval) :
    RequesterTrustEngine.Trusted envelope
      { expectedEnvironment := request.environmentMode, now := decidedAtUtc } :=
  ⟨h.known, h.environment, h.window, (isValidNonceOrToken_iff _).mpr ⟨h.nonceSize, h.nonceChars⟩,
    h.unexpired⟩

theorem Admissible.admitted
    (h : Admissible request envelope policy registry decidedAtUtc capability rule approval) :
    CapabilityRegistryLoader.Admitted registry policy envelope request capability rule :=
  ⟨h.registered, h.enabled, h.unrevoked, h.owned, h.recordClass, h.recordEffect, h.ruled,
    h.allowed, h.inScope, h.inConditions, h.ruleClass, h.ruleEffect⟩

theorem Admissible.ruled'
    (h : Admissible request envelope policy registry decidedAtUtc capability rule approval) :
    policy.capabilityRuleFor capability.capabilityId = some rule := by
  rw [registry.capabilityFor_id h.registered]
  exact h.ruled

theorem Admissible.consistent
    (h : Admissible request envelope policy registry decidedAtUtc capability rule approval) :
    Consistent request envelope policy capability where
  requesterId := h.requesterId.symm
  environment := h.environment.symm
  service := h.service
  inScope := h.inScope
  inConditions := h.inConditions
  capabilityId := registry.capabilityFor_id h.registered
  owned := h.owned
  effect := h.recordEffect
  ruled := by simp [h.ruled']
  approved := by
    rw [approvalRuleFor, h.approved]
    simp
  effectAllowed := h.effectAllowed

theorem Admissible.factorsAdmit
    (h : Admissible request envelope policy registry decidedAtUtc capability rule approval) :
    FactorsAdmit request envelope policy capability :=
  ⟨rule, approval, h.ruled', h.approved,
    fun f hf => (executionAllowedFor_iff_or f).mpr (h.factors f hf)⟩

theorem admissible_of_gates
    (ht : RequesterTrustEngine.Trusted envelope
      { expectedEnvironment := request.environmentMode, now := decidedAtUtc })
    (ha : CapabilityRegistryLoader.Admitted registry policy envelope request capability rule)
    (hc : Consistent request envelope policy capability)
    (hf : FactorsAdmit request envelope policy capability) :
    ∃ rule approval,
      Admissible request envelope policy registry decidedAtUtc capability rule approval := by
  obtain ⟨rule', approval, hrule, happ, hall⟩ := hf
  obtain ⟨hsize, hchars⟩ := (isValidNonceOrToken_iff _).mp ht.nonce
  have hid := registry.capabilityFor_id ha.registered
  have he : rule' = rule := by
    rw [hid, ha.ruled] at hrule
    exact (Option.some.inj hrule).symm
  subst he
  exact ⟨rule', approval, {
    known := ht.known
    environment := ht.environment
    window := ht.window
    nonceSize := hsize
    nonceChars := hchars
    unexpired := ht.fresh
    requesterId := hc.requesterId.symm
    registered := ha.registered
    enabled := ha.enabled
    unrevoked := ha.unrevoked
    owned := ha.owned
    recordClass := ha.recordClass
    recordEffect := ha.recordEffect
    ruled := ha.ruled
    allowed := ha.allowed
    ruleClass := ha.ruleClass
    ruleEffect := ha.ruleEffect
    inScope := ha.inScope
    inConditions := ha.inConditions
    service := hc.service
    effectAllowed := hc.effectAllowed
    approved := happ
    factors := fun f hf => (executionAllowedFor_iff_or f).mp (hall f hf) }⟩

end

namespace DecisionService

variable {loaders : ContractLoaders} {clock : GuardClock} {context : RouteResolutionContext}
  {request trust policy registry : Value} {typedRequest : ExecutionRequest}
  {envelope : RequesterTrustEnvelope} {artifact : PolicyArtifact}
  {typedRegistry : CapabilityRegistry}

/-- The gates accept exactly the admissible requests. -/
theorem gates_iff (clock : GuardClock) (hobj : trust.isObject = true) (hbasis : (trust.get "trust_basis").isSome = true)
    (htrust : loaders.requesterTrust trust = .ok envelope)
    (hpolicy : loaders.policyArtifact policy = .ok artifact) :
    (∃ d, resolve (routeResolutionInput loaders clock typedRequest trust policy typedRegistry
        context) context = .ok d ∧ d.executionAllowed = true) ↔
      ∃ capability rule approval, Admissible typedRequest envelope artifact typedRegistry
        context.decidedAtUtc capability rule approval := by
  have hpol : PolicyArtifactLoader.loadRequiredValue loaders clock.policy (some policy) =
      .ok artifact := by
    simp [PolicyArtifactLoader.loadRequiredValue, hpolicy]
  rw [resolve_allowed_iff]
  constructor
  · rintro ⟨requester, artifact', capability, ht, hp, hc, hv, hf⟩
    simp only [routeResolutionInput] at ht hp hc hv hf
    obtain ⟨-, -, he, hte⟩ := RequesterTrustEngine.loadAndEvaluate_eq_ok.mp ht
    cases htrust.symm.trans he
    cases hpol.symm.trans hp
    rw [ht, hpol] at hc
    obtain ⟨rule, hadm⟩ := CapabilityRegistryLoader.admitted_of_ok hc
    exact ⟨capability, admissible_of_gates hte hadm (validateConsistency_eq_nil.mp hv) hf⟩
  · rintro ⟨capability, rule, approval, h⟩
    have ht : RequesterTrustEngine.loadAndEvaluate loaders clock.trust trust
        { expectedEnvironment := typedRequest.environmentMode, now := context.decidedAtUtc } =
          .ok envelope :=
      RequesterTrustEngine.loadAndEvaluate_eq_ok.mpr ⟨hobj, hbasis, htrust, h.trusted⟩
    refine ⟨envelope, artifact, capability, ht, hpol, ?_,
      validateConsistency_eq_nil.mpr h.consistent, h.factorsAdmit⟩
    simp only [routeResolutionInput, ht, hpol]
    exact CapabilityRegistryLoader.ok_of_admitted h.admitted

variable (loaders clock context request trust policy registry) in
/-- A decision is returned, and it allows execution exactly for the admissible requests. -/
theorem resolveRouteDecision_allowed_iff (hobj : trust.isObject = true)
    (hbasis : (trust.get "trust_basis").isSome = true)
    (hregistry : loaders.capabilityRegistry registry = .ok typedRegistry)
    (hrequest : loaders.executionRequest request = .ok typedRequest)
    (htrust : loaders.requesterTrust trust = .ok envelope)
    (hpolicy : loaders.policyArtifact policy = .ok artifact) :
    ∃ d, resolveRouteDecision loaders clock request trust policy registry context = .ok d ∧
      (d.executionAllowed = true ↔ ∃ capability rule approval,
        Admissible typedRequest envelope artifact typedRegistry context.decidedAtUtc capability
          rule approval) := by
  have hnone : loaderRefusal loaders clock typedRequest trust policy context = none := by
    simp only [loaderRefusal, hobj, hbasis, htrust, hpolicy, Bool.and_self, if_true]
    cases RequesterTrustEngine.evaluate clock.trust envelope
      { expectedEnvironment := typedRequest.environmentMode, now := context.decidedAtUtc } <;> rfl
  obtain ⟨d, hd⟩ := resolve_total typedRegistry hnone
  refine ⟨d, by rw [resolveRouteDecision_of_loaded hregistry hrequest, hd], ?_⟩
  rw [← gates_iff clock hobj hbasis htrust hpolicy, hd]
  exact ⟨fun h => ⟨d, rfl, h⟩, by rintro ⟨d', he, h⟩; cases he; exact h⟩

end DecisionService

/-! The repository's basic fixture of a request, its envelope, a policy and a registry. -/

namespace Fixture

/-- A version 4 identifier made of one hexadecimal digit. -/
def uuid (digit : UInt8) : Uuid :=
  ⟨((Vector.replicate 16 (17 * digit)).set 6 (0x40 + digit)).set 8 (0x80 + digit)⟩

def id (k : IdKind) (digit : UInt8) : UuidId k := ⟨uuid digit⟩

/-- Seconds after 2030-01-01T00:00:00Z. -/
def at2030 (seconds : Int) : TimestampUtc := (1893456000 + seconds) * 1000000000

def request : ExecutionRequest where
  requestId := id .request 5
  correlationId := id .correlation 6
  requesterId := id .requester 1
  environmentMode := .prod
  requestedCapabilityId := id .capability 4
  requestedSideEffectClass := .localFileWrite
  intent := .executeCapability
  intentSummary := "write approved local export"
  requestedAt := at2030 0

def envelope : RequesterTrustEnvelope where
  requesterId := id .requester 1
  requesterClass := .trustedAppSurface
  appContext := { appId := "forge-author", appVersion := "1.0.0", installationId := uuid 2 }
  environmentMode := .prod
  trustBasis := .signedLocalSurface
  trustBasisProvenance := .signedManifest
  userIntentBasis := some .explicitUserAction
  requestNonceOrToken := "signed-token-2030-0001"
  issuedAt := at2030 (-3600)
  expiresAt := at2030 86400

def policyRule : CapabilityRule where
  capabilityId := id .capability 4
  allowed := true
  allowedRequesterClasses := [.trustedAppSurface]
  allowedSideEffectClasses := [.localFileWrite]
  requiredApprovalPosture := .policyPreapproved

def policy : PolicyArtifact where
  policyId := id .policy 3
  policyVersion := "1.0.0"
  scope := { serviceId := "fa-local", environmentModes := [.prod] }
  capabilityRules := [policyRule]
  sideEffectRules := [{ sideEffectClass := .localFileWrite, allowed := true }]
  approvalRules := [{ requesterClass := .trustedAppSurface, maxPosture := .executeAllowed }]
  environmentConditions := [.prod]
  dependencyReadinessConditions := [.allDependenciesReady]
  failureBehavior := .deny
  policyProvenance := { sourceKind := .localGovernedFile, issuedAt := at2030 (-172800) }

def record : CapabilityRecord where
  capabilityId := id .capability 4
  ownerService := "fa-local"
  capabilityType := .localFileWrite
  sideEffectClass := .localFileWrite
  approvalPosture := .policyPreapproved
  allowedRequesterClasses := [.trustedAppSurface]
  timeoutBudgetMs := 1000
  retryBudget := 0
  maxDurationBudgetMs := 5000
  maxCpuBudget := none
  maxMemBudgetMb := none
  enabledState := .enabled
  reviewClass := .none
  provenance := { sourceKind := .registryFile, issuedAt := at2030 (-172800) }
  revocationState := .active
  versionRange := some ">=1.0.0"

def registry : CapabilityRegistry := { registryVersion := "1.0.0", capabilities := [record] }

def context : RouteResolutionContext where
  routeDecisionId := id .routeDecision 7
  decidedAtUtc := at2030 600
  degradedSubtype := none

def clock : GuardClock := { trust := at2030 600, policy := at2030 600, admission := at2030 600 }

/-- The loading boundary on the fixture files. -/
def loaders : ContractLoaders where
  executionRequest := fun _ => .ok request
  requesterTrust := fun _ => .ok envelope
  policyArtifact := fun _ => .ok policy
  capabilityRegistry := fun _ => .ok registry
  executionPlan := fun _ => .error (.serialization "missing field")
  plainChar := fun c => c.toNat < 127

def envelopeValue : Value := .object [("trust_basis", .string "signed_local_surface")]

theorem admissible : Admissible request envelope policy registry context.decidedAtUtc record
    policyRule { requesterClass := .trustedAppSurface, maxPosture := .executeAllowed } where
  known := by decide
  environment := rfl
  window := by decide
  nonceSize := by decide
  nonceChars := forall_mem_of_all (by decide)
  unexpired := by decide
  requesterId := rfl
  registered := by decide
  enabled := rfl
  unrevoked := by decide
  owned := rfl
  recordClass := by decide
  recordEffect := rfl
  ruled := by decide
  allowed := rfl
  ruleClass := by decide
  ruleEffect := by decide
  inScope := by decide
  inConditions := by decide
  service := rfl
  effectAllowed := ⟨{ sideEffectClass := .localFileWrite, allowed := true }, by decide, rfl⟩
  approved := by decide
  factors := by decide

end Fixture

theorem DecisionService.resolveRouteDecision_basic :
    ∃ d, resolveRouteDecision Fixture.loaders Fixture.clock .null Fixture.envelopeValue .null .null
      Fixture.context = .ok d ∧ d.executionAllowed = true := by
  obtain ⟨d, hd, h⟩ := resolveRouteDecision_allowed_iff Fixture.loaders Fixture.clock
    Fixture.context .null Fixture.envelopeValue .null .null rfl rfl rfl rfl rfl rfl
  exact ⟨d, hd, h.mpr ⟨_, _, _, Fixture.admissible⟩⟩

end FaLocal
