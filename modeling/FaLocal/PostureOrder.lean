import FaLocal.SummaryBound
import FaLocal.ExecutionService
import FaLocal.Forensics

/-!
# The order of postures

A resolved posture is the lowest of six factors, or denied where a gate refused
or a check failed. Stricter artifacts never raise it. The flags of a decision are
the only ones that its four consumers accept.
-/
namespace FaLocal

def ExecutionService.validateRouteDecisionSurface (routeDecision : RouteDecision) :
    FaLocalResult Unit :=
  routeDecisionSurface "coordinator expectations" routeDecision

def ReviewService.validateRouteDecisionSurface (routeDecision : RouteDecision) :
    FaLocalResult Unit :=
  routeDecisionSurface "review-package emission expectations" routeDecision

/-- Four consumers accept the flags of a decision. -/
def SurfacesAccept (d : RouteDecision) : Prop :=
  ExecutionService.validateRouteDecisionSurface d = .ok () ∧
    RoutingInput.validateRouteDecisionSurface d = .ok () ∧
    ForensicService.validateRouteDecisionSurface d = .ok () ∧
    ReviewService.validateRouteDecisionSurface d = .ok ()

namespace ApprovalPostureResolver

theorem surfacesAccept_iff {d : RouteDecision} : SurfacesAccept d ↔ FlagsFit d := by
  simp only [SurfacesAccept, ExecutionService.validateRouteDecisionSurface,
    RoutingInput.validateRouteDecisionSurface, ForensicService.validateRouteDecisionSurface,
    ReviewService.validateRouteDecisionSurface, routeDecisionSurface_eq_ok, and_self]

variable {input input' : RouteResolutionInput} {context context' : RouteResolutionContext}
  {d d' : RouteDecision}

/-- The flags of a decision are the only ones accepted for its posture. -/
theorem FlagsFit.only (h : FlagsFit d)
    (executionAllowed reviewRequired explicitApprovalRequired : Bool) :
    SurfacesAccept { d with
        executionAllowed := executionAllowed
        reviewRequired := reviewRequired
        explicitApprovalRequired := explicitApprovalRequired } ↔
      executionAllowed = d.executionAllowed ∧ reviewRequired = d.reviewRequired ∧
        explicitApprovalRequired = d.explicitApprovalRequired := by
  rw [surfacesAccept_iff, h.execution, h.review, h.approval]
  exact ⟨fun hf => ⟨hf.execution, hf.review, hf.approval⟩, fun ⟨h₁, h₂, h₃⟩ => ⟨h₁, h₂, h₃⟩⟩

/-! ## The lowest factor -/

/-- The factors of an input that every gate accepts and every check passes. -/
def FactorsOf (input : RouteResolutionInput) (factors : List ApprovalPosture) : Prop :=
  ∃ requester policy capability rule approval, input.requesterTrustOutcome = .ok requester ∧
    input.policyOutcome = .ok policy ∧ input.capabilityAdmissionOutcome = .ok capability ∧
    Consistent input.request requester policy capability ∧
    policy.capabilityRuleFor capability.capabilityId = some rule ∧
    approvalRuleFor policy requester = some approval ∧
    factors = postureFactors input.request requester capability approval rule

/-- A gate refused, a check failed, or a factor denies. -/
inductive Refused (input : RouteResolutionInput) : Prop where
  | trust (denial : DenialGuard) : input.requesterTrustOutcome = .error denial → Refused input
  | policy (denial : DenialGuard) : input.policyOutcome = .error denial → Refused input
  | capability (denial : DenialGuard) :
      input.capabilityAdmissionOutcome = .error denial → Refused input
  | check (requester : RequesterTrustEnvelope) (policy : PolicyArtifact)
      (capability : CapabilityRecord) : input.requesterTrustOutcome = .ok requester →
      input.policyOutcome = .ok policy → input.capabilityAdmissionOutcome = .ok capability →
      ¬ Consistent input.request requester policy capability → Refused input
  | factor (factors : List ApprovalPosture) : FactorsOf input factors → .denied ∈ factors →
      Refused input

/-- A posture is the lowest of some factors. -/
structure IsLowest (posture : ApprovalPosture) (factors : List ApprovalPosture) : Prop where
  mem : posture ∈ factors
  le : ∀ factor ∈ factors, postureRank posture ≤ postureRank factor

theorem postureRank_eq_zero {posture : ApprovalPosture} :
    postureRank posture = 0 ↔ posture = .denied := by
  cases posture <;> simp [postureRank]

theorem FactorsOf.unique {factors factors' : List ApprovalPosture} (h : FactorsOf input factors)
    (h' : FactorsOf input factors') : factors = factors' := by
  obtain ⟨requester, policy, capability, rule, approval, ht, hp, hc, -, hr, ha, rfl⟩ := h
  obtain ⟨requester', policy', capability', rule', approval', ht', hp', hc', -, hr', ha', rfl⟩ := h'
  cases ht.symm.trans ht'
  cases hp.symm.trans hp'
  cases hc.symm.trans hc'
  cases hr.symm.trans hr'
  cases ha.symm.trans ha'
  rfl

/-- An input has factors unless it is refused before they are looked at. -/
theorem factors_or_refused (input : RouteResolutionInput) :
    (∃ factors, FactorsOf input factors) ∨ Refused input := by
  cases ht : input.requesterTrustOutcome with
  | error g => exact .inr (.trust g ht)
  | ok requester =>
    cases hp : input.policyOutcome with
    | error g => exact .inr (.policy g hp)
    | ok policy =>
      cases hc : input.capabilityAdmissionOutcome with
      | error g => exact .inr (.capability g hc)
      | ok capability =>
        by_cases hv : Consistent input.request requester policy capability
        · obtain ⟨rule, hr⟩ := Option.ne_none_iff_exists'.mp hv.ruled
          obtain ⟨approval, ha⟩ := Option.ne_none_iff_exists'.mp hv.approved
          exact .inl ⟨_, requester, policy, capability, rule, approval, ht, hp, hc, hv, hr, ha, rfl⟩
        · exact .inr (.check requester policy capability ht hp hc hv)

/-- With factors, a refusal is a factor that denies. -/
theorem FactorsOf.refused_iff {factors : List ApprovalPosture} (h : FactorsOf input factors) :
    Refused input ↔ .denied ∈ factors := by
  refine ⟨fun hr => ?_, fun hm => .factor factors h hm⟩
  obtain ⟨requester, policy, capability, rule, approval, ht, hp, hc, hv, -⟩ := id h
  cases hr with
  | trust g he => cases ht.symm.trans he
  | policy g he => cases hp.symm.trans he
  | capability g he => cases hc.symm.trans he
  | check requester' policy' capability' ht' hp' hc' hv' =>
    cases ht.symm.trans ht'
    cases hp.symm.trans hp'
    cases hc.symm.trans hc'
    exact absurd hv hv'
  | factor factors' h' hm => exact h.unique h' ▸ hm

/-- The posture of a decision with factors is the lowest of them. -/
theorem FactorsOf.lowest {factors : List ApprovalPosture} (h : FactorsOf input factors)
    (hd : resolve input context = .ok d) : IsLowest d.resolvedApprovalPosture factors := by
  obtain ⟨requester, policy, capability, rule, approval, ht, hp, hc, hv, hr, ha, rfl⟩ := h
  obtain ⟨reference, summary, hs, he⟩ :=
    resolve_of_clean ht hp hc (validateConsistency_eq_nil.mpr hv)
  obtain ⟨-, -, -, rule', approval', hr', ha', hmin⟩ := resolveFactors_spec hs (he ▸ hd)
  cases hr.symm.trans hr'
  cases ha.symm.trans ha'
  obtain ⟨hm, hle⟩ := minByKey_eq_some hmin
  exact ⟨hm, hle⟩

/-- Without factors it is denied. -/
theorem denied_of_no_factors (h : ¬ ∃ factors, FactorsOf input factors)
    (hd : resolve input context = .ok d) : d.resolvedApprovalPosture = .denied := by
  by_contra hne
  obtain ⟨-, -, -, hcl⟩ := resolve_spec hd
  obtain ⟨requester, policy, capability, ht, hp, hc, hv⟩ := collectedDenials_eq_nil (hcl hne)
  have hv := validateConsistency_eq_nil.mp hv
  obtain ⟨rule, hr⟩ := Option.ne_none_iff_exists'.mp hv.ruled
  obtain ⟨approval, ha⟩ := Option.ne_none_iff_exists'.mp hv.approved
  exact h ⟨_, requester, policy, capability, rule, approval, ht, hp, hc, hv, hr, ha, rfl⟩

theorem denied_iff_refused (hd : resolve input context = .ok d) :
    d.resolvedApprovalPosture = .denied ↔ Refused input := by
  by_cases h : ∃ factors, FactorsOf input factors
  · obtain ⟨factors, hf⟩ := h
    obtain ⟨hm, hle⟩ := hf.lowest hd
    rw [hf.refused_iff]
    constructor
    · rintro he
      exact he ▸ hm
    · intro hden
      have h0 := hle _ hden
      exact postureRank_eq_zero.mp (Nat.le_zero.mp h0)
  · exact iff_of_true (denied_of_no_factors h hd) ((factors_or_refused input).resolve_left h)

/-! ## Stricter inputs -/

/-- No factor is higher. -/
def Lowered (factors factors' : List ApprovalPosture) : Prop :=
  List.Forall₂ (fun factor factor' => postureRank factor' ≤ postureRank factor) factors factors'

/-- The second input passes no more than the first, and has no higher factor. -/
def Tightens (input input' : RouteResolutionInput) : Prop :=
  ∀ factors', FactorsOf input' factors' → ∃ factors, FactorsOf input factors ∧
    Lowered factors factors'

theorem Lowered.exists_le {factors factors' : List ApprovalPosture} (h : Lowered factors factors')
    {factor : ApprovalPosture} (hm : factor ∈ factors) :
    ∃ factor' ∈ factors', postureRank factor' ≤ postureRank factor := by
  induction h with
  | nil => cases hm
  | cons hle hrest ih =>
    rcases List.mem_cons.mp hm with rfl | hm
    · exact ⟨_, List.mem_cons_self, hle⟩
    · obtain ⟨factor', hm', hle'⟩ := ih hm
      exact ⟨factor', List.mem_cons_of_mem _ hm', hle'⟩

theorem posture_le_of_tightens (h : Tightens input input') (hd : resolve input context = .ok d)
    (hd' : resolve input' context' = .ok d') :
    postureRank d'.resolvedApprovalPosture ≤ postureRank d.resolvedApprovalPosture := by
  by_cases hf : ∃ factors', FactorsOf input' factors'
  · obtain ⟨factors', hf'⟩ := hf
    obtain ⟨factors, hf, hlow⟩ := h factors' hf'
    obtain ⟨factor', hm', hle⟩ := hlow.exists_le (hf.lowest hd).mem
    exact Nat.le_trans ((hf'.lowest hd').le factor' hm') hle
  · rw [denied_of_no_factors hf hd']
    exact Nat.zero_le _

/-- The first match in a list of replaced elements replaces the first match. -/
theorem find?_of_forall₂ {β : Type} {R : β → β → Prop} {p : β → Bool} {l l' : List β}
    (h : List.Forall₂ R l l') (hp : ∀ a b, R a b → p a = p b) {b : β}
    (hb : l'.find? p = some b) : ∃ a, l.find? p = some a ∧ R a b := by
  induction h with
  | nil => cases hb
  | @cons a c l l' hr hrest ih =>
    rw [List.find?_cons] at hb ⊢
    rw [hp a c hr]
    cases hc : p c with
    | true =>
      rw [hc] at hb
      exact ⟨a, rfl, Option.some.inj hb ▸ hr⟩
    | false =>
      rw [hc] at hb
      exact ih hb

/-- A policy whose rules have been lowered or turned to denied, one for one. -/
structure PolicyTightened (policy policy' : PolicyArtifact) : Prop where
  scope : policy'.scope = policy.scope
  conditions : policy'.environmentConditions = policy.environmentConditions
  capabilityRules : List.Forall₂ (fun rule rule' : CapabilityRule =>
    rule.capabilityId = rule'.capabilityId ∧ (rule'.allowed = true → rule.allowed = true) ∧
      postureRank rule'.requiredApprovalPosture ≤ postureRank rule.requiredApprovalPosture)
    policy.capabilityRules policy'.capabilityRules
  sideEffectRules : List.Forall₂ (fun rule rule' : SideEffectRule =>
    rule.sideEffectClass = rule'.sideEffectClass ∧ (rule'.allowed = true → rule.allowed = true))
    policy.sideEffectRules policy'.sideEffectRules
  approvalRules : List.Forall₂ (fun rule rule' : ApprovalRule =>
    rule.requesterClass = rule'.requesterClass ∧
      postureRank rule'.maxPosture ≤ postureRank rule.maxPosture)
    policy.approvalRules policy'.approvalRules

/-- An envelope of the same requester with no better basis. -/
structure RequesterTightened (requester requester' : RequesterTrustEnvelope) : Prop where
  requesterId : requester'.requesterId = requester.requesterId
  requesterClass : requester'.requesterClass = requester.requesterClass
  environment : requester'.environmentMode = requester.environmentMode
  intent : postureRank (userIntentMinimumPosture requester'.userIntentBasis) ≤
    postureRank (userIntentMinimumPosture requester.userIntentBasis)

/-- A record of the same capability with no higher postures. -/
structure CapabilityTightened (capability capability' : CapabilityRecord) : Prop where
  capabilityId : capability'.capabilityId = capability.capabilityId
  owner : capability'.ownerService = capability.ownerService
  effect : capability'.sideEffectClass = capability.sideEffectClass
  posture : postureRank capability'.approvalPosture ≤ postureRank capability.approvalPosture
  review : postureRank (reviewClassMinimumPosture capability'.reviewClass) ≤
    postureRank (reviewClassMinimumPosture capability.reviewClass)

/-- Stricter artifacts for the same request; what a gate refused stays refused. -/
structure InputTightened (input input' : RouteResolutionInput) : Prop where
  request : input'.request = input.request
  requester : ∀ requester', input'.requesterTrustOutcome = .ok requester' →
    ∃ requester, input.requesterTrustOutcome = .ok requester ∧
      RequesterTightened requester requester'
  policy : ∀ policy', input'.policyOutcome = .ok policy' →
    ∃ policy, input.policyOutcome = .ok policy ∧ PolicyTightened policy policy'
  capability : ∀ capability', input'.capabilityAdmissionOutcome = .ok capability' →
    ∃ capability, input.capabilityAdmissionOutcome = .ok capability ∧
      CapabilityTightened capability capability'

theorem PolicyTightened.capabilityRule {policy policy' : PolicyArtifact}
    (h : PolicyTightened policy policy') {capabilityId : CapabilityId} {rule' : CapabilityRule}
    (hr : policy'.capabilityRuleFor capabilityId = some rule') :
    ∃ rule, policy.capabilityRuleFor capabilityId = some rule ∧
      postureRank rule'.requiredApprovalPosture ≤ postureRank rule.requiredApprovalPosture := by
  obtain ⟨rule, hf, -, -, hle⟩ := find?_of_forall₂ h.capabilityRules
    (fun a b hab => by rw [hab.1]) hr
  exact ⟨rule, hf, hle⟩

theorem PolicyTightened.approvalRule {policy policy' : PolicyArtifact}
    (h : PolicyTightened policy policy') {requester requester' : RequesterTrustEnvelope}
    (hq : requester'.requesterClass = requester.requesterClass) {rule' : ApprovalRule}
    (hr : approvalRuleFor policy' requester' = some rule') :
    ∃ rule, approvalRuleFor policy requester = some rule ∧
      postureRank rule'.maxPosture ≤ postureRank rule.maxPosture := by
  rw [approvalRuleFor, hq] at hr
  obtain ⟨rule, hf, -, hle⟩ := find?_of_forall₂ h.approvalRules
    (fun a b hab => by rw [hab.1]) hr
  exact ⟨rule, hf, hle⟩

theorem PolicyTightened.effectAllowed {policy policy' : PolicyArtifact}
    (h : PolicyTightened policy policy') {sideEffectClass : SideEffectClass}
    (ha : ∃ rule', sideEffectRuleFor policy' sideEffectClass = some rule' ∧ rule'.allowed = true) :
    ∃ rule, sideEffectRuleFor policy sideEffectClass = some rule ∧ rule.allowed = true := by
  obtain ⟨rule', hr, ha⟩ := ha
  obtain ⟨rule, hf, -, hal⟩ := find?_of_forall₂ h.sideEffectRules
    (fun a b hab => by rw [hab.1]) hr
  exact ⟨rule, hf, hal ha⟩

/-- Stricter artifacts pass no more checks. -/
theorem Consistent.of_tightened {request : ExecutionRequest}
    {requester requester' : RequesterTrustEnvelope} {policy policy' : PolicyArtifact}
    {capability capability' : CapabilityRecord} (hq : RequesterTightened requester requester')
    (hp : PolicyTightened policy policy') (hc : CapabilityTightened capability capability')
    (h : Consistent request requester' policy' capability') :
    Consistent request requester policy capability where
  requesterId := h.requesterId.trans hq.requesterId
  environment := h.environment.trans hq.environment
  service := hp.scope ▸ h.service
  inScope := hp.scope ▸ h.inScope
  inConditions := hp.conditions ▸ h.inConditions
  capabilityId := hc.capabilityId ▸ h.capabilityId
  owned := hc.owner ▸ h.owned
  effect := hc.effect ▸ h.effect
  ruled := by
    obtain ⟨rule', hr'⟩ := Option.ne_none_iff_exists'.mp h.ruled
    obtain ⟨rule, hr, -⟩ := hp.capabilityRule hr'
    rw [hc.capabilityId] at hr
    simp [hr]
  approved := by
    obtain ⟨rule', hr'⟩ := Option.ne_none_iff_exists'.mp h.approved
    obtain ⟨rule, hr, -⟩ := hp.approvalRule hq.requesterClass hr'
    simp [hr]
  effectAllowed := hp.effectAllowed h.effectAllowed

theorem InputTightened.tightens (h : InputTightened input input') : Tightens input input' := by
  rintro _ ⟨requester', policy', capability', rule', approval', ht', hp', hc', hv', hr', ha', rfl⟩
  obtain ⟨requester, ht, hq⟩ := h.requester requester' ht'
  obtain ⟨policy, hp, hpt⟩ := h.policy policy' hp'
  obtain ⟨capability, hc, hct⟩ := h.capability capability' hc'
  obtain ⟨rule, hr, hrank⟩ := hpt.capabilityRule hr'
  obtain ⟨approval, ha, hmax⟩ := hpt.approvalRule hq.requesterClass ha'
  rw [hct.capabilityId] at hr
  rw [h.request] at hv' ⊢
  refine ⟨_, ⟨requester, policy, capability, rule, approval, ht, hp, hc,
    hv'.of_tightened hq hpt hct, hr, ha, rfl⟩, ?_⟩
  exact .cons hmax (.cons hrank (.cons hct.posture (.cons hct.review
    (.cons (Nat.le_refl _) (.cons hq.intent .nil)))))

/-- The request and the record move to a side-effect class with a lower minimum,
which the policy admits only if it admits the first. -/
structure EffectLowered (input input' : RouteResolutionInput) (sideEffectClass : SideEffectClass) :
    Prop where
  request : input'.request = { input.request with requestedSideEffectClass := sideEffectClass }
  lower : postureRank (sideEffectMinimumPosture sideEffectClass) ≤
    postureRank (sideEffectMinimumPosture input.request.requestedSideEffectClass)
  requester : input'.requesterTrustOutcome = input.requesterTrustOutcome
  policy : input'.policyOutcome = input.policyOutcome
  allowed : ∀ policy, input.policyOutcome = .ok policy →
    (∃ rule, sideEffectRuleFor policy sideEffectClass = some rule ∧ rule.allowed = true) →
    ∃ rule, sideEffectRuleFor policy input.request.requestedSideEffectClass = some rule ∧
      rule.allowed = true
  capability : ∃ capability, input.capabilityAdmissionOutcome = .ok capability ∧
    capability.sideEffectClass = input.request.requestedSideEffectClass ∧
    input'.capabilityAdmissionOutcome =
      .ok { capability with sideEffectClass := sideEffectClass }

theorem EffectLowered.tightens {sideEffectClass : SideEffectClass}
    (h : EffectLowered input input' sideEffectClass) : Tightens input input' := by
  rintro _ ⟨requester, policy, capability', rule, approval, ht, hp, hc', hv, hr, ha, rfl⟩
  obtain ⟨capability, hc, he, hce⟩ := h.capability
  cases hce.symm.trans hc'
  rw [h.requester] at ht
  rw [h.policy] at hp
  rw [h.request] at hv ⊢
  have hvc : Consistent input.request requester policy capability :=
    ⟨hv.requesterId, hv.environment, hv.service, hv.inScope, hv.inConditions, hv.capabilityId,
      hv.owned, he, hv.ruled, hv.approved, h.allowed policy hp hv.effectAllowed⟩
  refine ⟨_, ⟨requester, policy, capability, rule, approval, ht, hp, hc, hvc, hr, ha, rfl⟩, ?_⟩
  exact .cons (Nat.le_refl _) (.cons (Nat.le_refl _) (.cons (Nat.le_refl _)
    (.cons (Nat.le_refl _) (.cons h.lower (.cons (Nat.le_refl _) .nil)))))

/-! ## The resolver's decision -/

/-- The texts of the guards of refusing gates are ASCII. -/
structure AsciiGuards (input : RouteResolutionInput) : Prop where
  trust : ∀ denial, input.requesterTrustOutcome = .error denial →
    ∀ c ∈ denial.summary.toList, c.toNat < 128
  policy : ∀ denial, input.policyOutcome = .error denial →
    ∀ c ∈ denial.summary.toList, c.toNat < 128
  capability : ∀ denial, input.capabilityAdmissionOutcome = .error denial →
    ∀ c ∈ denial.summary.toList, c.toNat < 128

/-- What the resolver settles with a decision. -/
structure PostureSettled (input : RouteResolutionInput) (d : RouteDecision) : Prop where
  denied : d.resolvedApprovalPosture = .denied ↔ Refused input
  lowest : ¬ Refused input →
    ∃ factors, FactorsOf input factors ∧ IsLowest d.resolvedApprovalPosture factors
  lowered : ∀ input' context' d', Tightens input input' → resolve input' context' = .ok d' →
    postureRank d'.resolvedApprovalPosture ≤ postureRank d.resolvedApprovalPosture
  tightened : ∀ input' context' d', InputTightened input input' →
    resolve input' context' = .ok d' →
    postureRank d'.resolvedApprovalPosture ≤ postureRank d.resolvedApprovalPosture
  effectLowered : ∀ input' context' d' sideEffectClass,
    EffectLowered input input' sideEffectClass → resolve input' context' = .ok d' →
    postureRank d'.resolvedApprovalPosture ≤ postureRank d.resolvedApprovalPosture
  guarded : d.denialGuards ≠ [] ↔ d.resolvedApprovalPosture = .denied
  flags : ∀ executionAllowed reviewRequired explicitApprovalRequired,
    SurfacesAccept { d with
        executionAllowed := executionAllowed
        reviewRequired := reviewRequired
        explicitApprovalRequired := explicitApprovalRequired } ↔
      executionAllowed = d.executionAllowed ∧ reviewRequired = d.reviewRequired ∧
        explicitApprovalRequired = d.explicitApprovalRequired

theorem guarded_iff (hd : resolve input context = .ok d) :
    d.denialGuards ≠ [] ↔ d.resolvedApprovalPosture = .denied := by
  obtain ⟨-, -, hde, hcl⟩ := resolve_spec hd
  refine ⟨fun hg => ?_, fun hp => (hde hp).guarded⟩
  by_contra hp
  obtain ⟨requester, policy, capability, ht, hpo, hc, hv⟩ := collectedDenials_eq_nil (hcl hp)
  obtain ⟨reference, summary, -, he⟩ := resolve_of_clean ht hpo hc hv
  exact hg (resolveFactors_undenied (he ▸ hd) hp).1

theorem settled_of_resolve (hd : resolve input context = .ok d) : PostureSettled input d where
  denied := denied_iff_refused hd
  lowest := fun hr => by
    obtain ⟨factors, hf⟩ := (factors_or_refused input).resolve_right hr
    exact ⟨factors, hf, hf.lowest hd⟩
  lowered := fun _ _ _ h hd' => posture_le_of_tightens h hd hd'
  tightened := fun _ _ _ h hd' => posture_le_of_tightens h.tightens hd hd'
  effectLowered := fun _ _ _ _ h hd' => posture_le_of_tightens h.tightens hd hd'
  guarded := guarded_iff hd
  flags := (resolve_spec hd).2.1.only

theorem AsciiGuards.leading (h : AsciiGuards input) {text : String}
    (hl : leadingRefusal input = some text) : ∀ c ∈ text.toList, c.toNat < 128 := by
  cases ht : input.requesterTrustOutcome <;> cases hp : input.policyOutcome <;>
    cases hc : input.capabilityAdmissionOutcome <;> simp [leadingRefusal, ht, hp, hc] at hl
  all_goals subst hl
  all_goals first
    | exact h.trust _ ht
    | exact h.policy _ hp
    | exact h.capability _ hc

theorem utf8Size_of_ascii {c : Char} (h : c.toNat < 128) : c.utf8Size = 1 := by
  rw [Char.utf8Size_eq_one_iff]
  exact UInt32.le_iff_toNat_le.mpr (Nat.le_of_lt_succ h)

theorem prefix_ascii : ∀ c ∈ "request denied: ".toList, c.toNat < 128 :=
  forall_mem_of_all (by decide +kernel)

/-- For ASCII guards the resolver returns a decision, and it is settled. -/
theorem resolve_settled (input : RouteResolutionInput) (context : RouteResolutionContext)
    (h : AsciiGuards input) :
    ∃ d, resolve input context = .ok d ∧ PostureSettled input d := by
  obtain ⟨d, hd⟩ := (resolve_returns_iff context).mpr fun text hl => by
    refine cutFits_of_ascii fun c hc => utf8Size_of_ascii ?_
    rcases List.mem_append.mp (String.toList_append ▸ hc) with hm | hm
    · exact prefix_ascii c hm
    · exact h.leading hl c hm
  exact ⟨d, hd, settled_of_resolve hd⟩

theorem asciiGuards_of_accepted (request : ExecutionRequest) (requester : RequesterTrustEnvelope)
    (policy : PolicyArtifact) (capability : CapabilityRecord) :
    AsciiGuards ⟨request, .ok requester, .ok policy, .ok capability⟩ :=
  ⟨(by rintro _ ⟨⟩), (by rintro _ ⟨⟩), (by rintro _ ⟨⟩)⟩

end ApprovalPostureResolver

/-- The basic request without a basis of user intent. -/
def Fixture.reviewed : RouteResolutionInput where
  request := request
  requesterTrustOutcome := .ok { envelope with userIntentBasis := none }
  policyOutcome := .ok policy
  capabilityAdmissionOutcome := .ok record

theorem ApprovalPostureResolver.resolve_settled_review : ∃ d,
    resolve Fixture.reviewed Fixture.context = .ok d ∧ PostureSettled Fixture.reviewed d :=
  resolve_settled Fixture.reviewed Fixture.context (asciiGuards_of_accepted _ _ _ _)

end FaLocal
