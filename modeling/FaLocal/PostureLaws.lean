import FaLocal.Posture

/-!
# What a resolved decision says

Every decision carries the identifiers of its request and flags that fit its
posture. A denied decision names its first guard in its summary; execution is
allowed exactly when all three gates accepted, the consistency checks found
nothing, and none of the six factors is below policy preapproval.
-/
namespace FaLocal

namespace ApprovalPostureResolver

theorem boundedSummary_short {summary : String} (h : summary.toList.length ≤ 160) :
    boundedSummary summary = .ok summary := by
  simp [boundedSummary, Nat.not_lt.mpr h, List.take_of_length_le h]

/-- A decision is about the request it was resolved for. -/
structure Stamped (request : ExecutionRequest) (context : RouteResolutionContext)
    (d : RouteDecision) : Prop where
  routeDecisionId : d.routeDecisionId = context.routeDecisionId
  correlationId : d.correlationId = request.correlationId
  requestId : d.requestId = request.requestId
  capability : d.capabilityDecisionSummary.requestedCapabilityId = request.requestedCapabilityId

/-- The three flags are those of the posture. -/
structure FlagsFit (d : RouteDecision) : Prop where
  execution : d.executionAllowed = executionAllowedFor d.resolvedApprovalPosture
  review : d.reviewRequired = decide (d.resolvedApprovalPosture = .reviewRequired)
  approval : d.explicitApprovalRequired =
    decide (d.resolvedApprovalPosture = .explicitOperatorApproval)

/-- A denial: at least one guard, the first of which is put into the summary. -/
structure Denies (d : RouteDecision) : Prop where
  posture : d.resolvedApprovalPosture = .denied
  guarded : d.denialGuards ≠ []
  summary : boundedSummary ("request denied: " ++ firstDenialSummary d.denialGuards) =
    .ok d.operatorVisibleSummary

section
variable {request : ExecutionRequest} {reference : Option PolicyReference}
  {summary : CapabilityDecisionSummary} {guards : List DenialGuard}
  {context : RouteResolutionContext} {d : RouteDecision}

theorem deniedDecision_spec (hs : summary.requestedCapabilityId = request.requestedCapabilityId)
    (hg : guards ≠ [])
    (h : deniedDecision request reference summary guards context = .ok d) :
    Stamped request context d ∧ FlagsFit d ∧ Denies d ∧ d.denialGuards = guards := by
  simp only [deniedDecision, bind, Except.bind] at h
  split at h
  · cases h
  · rename_i text ht
    cases h
    exact ⟨⟨rfl, rfl, rfl, hs⟩, ⟨rfl, rfl, rfl⟩, ⟨rfl, hg, ht⟩, rfl⟩

/-- The outcome of the factor stage. -/
theorem resolveFactors_spec {requester : RequesterTrustEnvelope} {policy : PolicyArtifact}
    {capability : CapabilityRecord}
    (hs : summary.requestedCapabilityId = request.requestedCapabilityId)
    (h : resolveFactors request requester policy capability reference summary context = .ok d) :
    Stamped request context d ∧ FlagsFit d ∧
      (d.resolvedApprovalPosture = .denied → Denies d ∧
        firstDenialSummary d.denialGuards = deniedSummary request) ∧
      ∃ rule approval, policy.capabilityRuleFor capability.capabilityId = some rule ∧
        approvalRuleFor policy requester = some approval ∧
        minByKey postureRank (postureFactors request requester capability approval rule) =
          some d.resolvedApprovalPosture := by
  simp only [resolveFactors, bind, Except.bind] at h
  cases hrule : policy.capabilityRuleFor capability.capabilityId with
  | none => simp [hrule, expect] at h
  | some rule =>
    cases happ : approvalRuleFor policy requester with
    | none => simp [hrule, happ, expect] at h
    | some approval =>
      cases hmin : minByKey postureRank
          (postureFactors request requester capability approval rule) with
      | none => simp [hrule, happ, hmin, expect] at h
      | some posture =>
        simp only [hrule, happ, hmin, expect] at h
        split at h
        · rename_i hp
          obtain ⟨hst, hfl, hde, hgs⟩ := deniedDecision_spec hs (by simp) h
          refine ⟨hst, hfl, fun _ => ⟨hde, ?_⟩, rule, approval, rfl, rfl, ?_⟩
          · rw [hgs]
            rfl
          · rw [hmin, hp, hde.posture]
        · rename_i hp
          split at h
          · cases h
          · cases h
            exact ⟨⟨rfl, rfl, rfl, hs⟩, ⟨rfl, rfl, rfl⟩, fun he => absurd he hp, rule, approval,
              rfl, rfl, hmin⟩

end

variable {input : RouteResolutionInput} {context : RouteResolutionContext} {d : RouteDecision}

/-- The guards that `resolve` collects before it looks at the factors. -/
def collectedDenials (input : RouteResolutionInput) (context : RouteResolutionContext) :
    List DenialGuard :=
  denialsOf input.requesterTrustOutcome ++ denialsOf input.policyOutcome ++
    denialsOf input.capabilityAdmissionOutcome ++
    match input.requesterTrustOutcome.toOption, input.policyOutcome.toOption,
        input.capabilityAdmissionOutcome.toOption with
    | some requester, some policy, some capability =>
      validateConsistency input.request requester policy capability context.decidedAtUtc
    | _, _, _ => []

/-- Without denials all three gates have accepted and the two records agree. -/
theorem collectedDenials_eq_nil (h : collectedDenials input context = []) :
    ∃ requester policy capability, input.requesterTrustOutcome = .ok requester ∧
      input.policyOutcome = .ok policy ∧ input.capabilityAdmissionOutcome = .ok capability ∧
      validateConsistency input.request requester policy capability context.decidedAtUtc = [] := by
  cases ht : input.requesterTrustOutcome with
  | error g => simp [collectedDenials, ht, denialsOf] at h
  | ok requester =>
    cases hp : input.policyOutcome with
    | error g => simp [collectedDenials, hp, denialsOf] at h
    | ok policy =>
      cases hc : input.capabilityAdmissionOutcome with
      | error g => simp [collectedDenials, hc, denialsOf] at h
      | ok capability =>
        refine ⟨requester, policy, capability, rfl, rfl, rfl, ?_⟩
        simpa [collectedDenials, ht, hp, hc, denialsOf, Except.toOption] using h

theorem resolve_of_denials (h : collectedDenials input context ≠ []) :
    ∃ reference summary, summary.requestedCapabilityId = input.request.requestedCapabilityId ∧
      resolve input context =
        deniedDecision input.request reference summary (collectedDenials input context)
          context := by
  refine ⟨input.policyOutcome.toOption.map fun policy => ⟨policy.policyId, policy.policyVersion⟩,
    buildCapabilityDecisionSummary input.request input.requesterTrustOutcome.toOption
      input.policyOutcome.toOption input.capabilityAdmissionOutcome.toOption, rfl, ?_⟩
  exact if_pos h

theorem resolve_of_clean {requester : RequesterTrustEnvelope} {policy : PolicyArtifact}
    {capability : CapabilityRecord} (ht : input.requesterTrustOutcome = .ok requester)
    (hp : input.policyOutcome = .ok policy)
    (hc : input.capabilityAdmissionOutcome = .ok capability)
    (hv : validateConsistency input.request requester policy capability context.decidedAtUtc =
      []) :
    ∃ reference summary, summary.requestedCapabilityId = input.request.requestedCapabilityId ∧
      resolve input context =
        resolveFactors input.request requester policy capability reference summary context := by
  refine ⟨some ⟨policy.policyId, policy.policyVersion⟩,
    buildCapabilityDecisionSummary input.request requester policy capability, rfl, ?_⟩
  simp only [resolve, ht, hp, hc, Except.toOption, denialsOf, hv, List.append_nil, ne_eq,
    not_true_eq_false, if_false]
  rfl

/-- Everything a returned decision says. -/
theorem resolve_spec (h : resolve input context = .ok d) :
    Stamped input.request context d ∧ FlagsFit d ∧
      (d.resolvedApprovalPosture = .denied → Denies d) ∧
      (d.resolvedApprovalPosture ≠ .denied → collectedDenials input context = []) := by
  by_cases hd : collectedDenials input context = []
  · obtain ⟨requester, policy, capability, ht, hp, hc, hv⟩ := collectedDenials_eq_nil hd
    obtain ⟨reference, summary, hs, hr⟩ := resolve_of_clean ht hp hc hv
    obtain ⟨hst, hfl, hde, -⟩ := resolveFactors_spec hs (hr ▸ h)
    exact ⟨hst, hfl, fun hp => (hde hp).1, fun _ => hd⟩
  · obtain ⟨reference, summary, hs, hr⟩ := resolve_of_denials hd
    obtain ⟨hst, hfl, hde, -⟩ := deniedDecision_spec hs hd (hr ▸ h)
    exact ⟨hst, hfl, fun _ => hde, fun hp => absurd hde.posture hp⟩

/-- The operator summary of an undenied posture always fits. -/
theorem operatorSummary_ok (posture : ApprovalPosture) (id : CapabilityId) :
    ∃ text, operatorSummary posture id.display = .ok text := by
  have hlen : id.display.toList.length = 36 := by
    simp [UuidId.display, hyphenated_length]
  refine ⟨_, boundedSummary_short ?_⟩
  cases posture <;> simp [hlen]

/-- What a request, its envelope, the policy and the capability agree on. -/
structure Consistent (request : ExecutionRequest) (requester : RequesterTrustEnvelope)
    (policy : PolicyArtifact) (capability : CapabilityRecord) : Prop where
  requesterId : request.requesterId = requester.requesterId
  environment : request.environmentMode = requester.environmentMode
  service : policy.scope.serviceId = serviceId
  inScope : request.environmentMode ∈ policy.scope.environmentModes
  inConditions : request.environmentMode ∈ policy.environmentConditions
  capabilityId : capability.capabilityId = request.requestedCapabilityId
  owned : capability.ownerService = serviceId
  effect : capability.sideEffectClass = request.requestedSideEffectClass
  ruled : policy.capabilityRuleFor capability.capabilityId ≠ none
  approved : approvalRuleFor policy requester ≠ none
  effectAllowed : ∃ rule, sideEffectRuleFor policy request.requestedSideEffectClass = some rule ∧
    rule.allowed = true

theorem validateConsistency_eq_nil {request : ExecutionRequest}
    {requester : RequesterTrustEnvelope} {policy : PolicyArtifact} {capability : CapabilityRecord}
    {decidedAtUtc : TimestampUtc} :
    validateConsistency request requester policy capability decidedAtUtc = [] ↔
      Consistent request requester policy capability := by
  simp only [validateConsistency, List.append_eq_nil_iff, pushIf_eq_nil, not_not, not_or,
    Option.any_eq_true, ne_eq]
  constructor
  · rintro ⟨⟨⟨⟨⟨⟨⟨⟨⟨h₁, h₂⟩, h₃⟩, h₄, h₅⟩, h₆⟩, h₇⟩, h₈⟩, h₉⟩, h₁₀⟩, h₁₁⟩
    exact ⟨h₁, h₂, h₃, h₄, h₅, h₆, h₇, h₈, h₉, h₁₀, h₁₁⟩
  · rintro ⟨h₁, h₂, h₃, h₄, h₅, h₆, h₇, h₈, h₉, h₁₀, h₁₁⟩
    exact ⟨⟨⟨⟨⟨⟨⟨⟨⟨h₁, h₂⟩, h₃⟩, h₄, h₅⟩, h₆⟩, h₇⟩, h₈⟩, h₉⟩, h₁₀⟩, h₁₁⟩

/-- Every factor admits execution. -/
def FactorsAdmit (request : ExecutionRequest) (requester : RequesterTrustEnvelope)
    (policy : PolicyArtifact) (capability : CapabilityRecord) : Prop :=
  ∃ rule approval, policy.capabilityRuleFor capability.capabilityId = some rule ∧
    approvalRuleFor policy requester = some approval ∧
    ∀ f ∈ postureFactors request requester capability approval rule, executionAllowedFor f = true

/-- Execution is allowed exactly when every gate accepts, nothing is
inconsistent and no factor falls below policy preapproval. -/
theorem resolve_allowed_iff :
    (∃ d, resolve input context = .ok d ∧ d.executionAllowed = true) ↔
      ∃ requester policy capability, input.requesterTrustOutcome = .ok requester ∧
        input.policyOutcome = .ok policy ∧ input.capabilityAdmissionOutcome = .ok capability ∧
        validateConsistency input.request requester policy capability context.decidedAtUtc = [] ∧
        FactorsAdmit input.request requester policy capability := by
  constructor
  · rintro ⟨d, h, hx⟩
    obtain ⟨-, hfl, hde, hcl⟩ := resolve_spec h
    have hal : executionAllowedFor d.resolvedApprovalPosture = true := hfl.execution ▸ hx
    have hnd : d.resolvedApprovalPosture ≠ .denied := by
      intro he
      simp [he, executionAllowedFor] at hal
    obtain ⟨requester, policy, capability, ht, hp, hc, hv⟩ := collectedDenials_eq_nil (hcl hnd)
    obtain ⟨reference, summary, hs, hr⟩ := resolve_of_clean ht hp hc hv
    obtain ⟨-, -, -, rule, approval, hrule, happ, hmin⟩ := resolveFactors_spec hs (hr ▸ h)
    refine ⟨requester, policy, capability, ht, hp, hc, hv, rule, approval, hrule, happ, ?_⟩
    intro f hf
    have hle := (minByKey_eq_some hmin).2 f hf
    rw [executionAllowedFor_iff] at hal ⊢
    omega
  · rintro ⟨requester, policy, capability, ht, hp, hc, hv, rule, approval, hrule, happ, hf⟩
    obtain ⟨reference, summary, -, hr⟩ := @resolve_of_clean _ context _ _ _ ht hp hc hv
    obtain ⟨posture, hmin⟩ : ∃ posture, minByKey postureRank
        (postureFactors input.request requester capability approval rule) = some posture :=
      ⟨_, rfl⟩
    have hal := hf posture (minByKey_eq_some hmin).1
    have hnd : posture ≠ .denied := by
      rintro rfl
      simp [executionAllowedFor] at hal
    obtain ⟨text, htext⟩ := operatorSummary_ok posture input.request.requestedCapabilityId
    rw [hr]
    simp only [resolveFactors, hrule, happ, hmin, expect, bind, Except.bind, if_neg hnd, htext]
    exact ⟨_, rfl, hal⟩

/-! ## Degraded contexts -/

section
variable (request : ExecutionRequest) (requester : RequesterTrustEnvelope)
  (policy : PolicyArtifact) (capability : CapabilityRecord)
  (policyReference : Option PolicyReference)
  (capabilityDecisionSummary : CapabilityDecisionSummary) (denialGuards : List DenialGuard)
  (context : RouteResolutionContext) (degradedSubtype : Option DegradedSubtype)

theorem deniedDecision_degradedSubtype :
    deniedDecision request policyReference capabilityDecisionSummary denialGuards
      { context with degradedSubtype := degradedSubtype } =
      (deniedDecision request policyReference capabilityDecisionSummary denialGuards context).map
        ({ · with degradedSubtype := degradedSubtype }) := by
  rw [deniedDecision, deniedDecision]
  cases boundedSummary ("request denied: " ++ firstDenialSummary denialGuards) with
  | error e => rfl
  | ok summary => rfl

theorem resolveFactors_degradedSubtype :
    resolveFactors request requester policy capability policyReference capabilityDecisionSummary
      { context with degradedSubtype := degradedSubtype } =
      (resolveFactors request requester policy capability policyReference
        capabilityDecisionSummary context).map
          ({ · with degradedSubtype := degradedSubtype }) := by
  simp only [resolveFactors, bind, Except.bind]
  cases expect "policy capability rule must be present after consistency validation"
    (policy.capabilityRuleFor capability.capabilityId) with
  | error e => rfl
  | ok policyRule =>
    cases expect "policy approval rule must be present after consistency validation"
      (approvalRuleFor policy requester) with
    | error e => rfl
    | ok approvalRule =>
      dsimp only
      cases expect "approval posture factor set must not be empty" (minByKey postureRank
        (postureFactors request requester capability approvalRule policyRule)) with
      | error e => rfl
      | ok posture =>
        dsimp only
        split
        · exact deniedDecision_degradedSubtype _ _ _ _ _ _
        · cases operatorSummary posture request.requestedCapabilityId.display with
          | error e => rfl
          | ok summary => rfl

end

/-- The degraded subtype of a context is only copied. -/
theorem resolve_degradedSubtype (input : RouteResolutionInput) (context : RouteResolutionContext)
    (degradedSubtype : Option DegradedSubtype) :
    resolve input { context with degradedSubtype := degradedSubtype } =
      (resolve input context).map ({ · with degradedSubtype := degradedSubtype }) := by
  change (if collectedDenials input context ≠ [] then _ else _) =
    Except.map _ (if collectedDenials input context ≠ [] then _ else _)
  by_cases hd : collectedDenials input context ≠ []
  · rw [if_pos hd, if_pos hd]
    exact deniedDecision_degradedSubtype _ _ _ _ _ _
  · rw [if_neg hd, if_neg hd]
    simp only [bind, Except.bind]
    cases expect "requester must be present when no denials were recorded"
      input.requesterTrustOutcome.toOption with
    | error e => rfl
    | ok requester =>
      cases expect "policy must be present when no denials were recorded"
        input.policyOutcome.toOption with
      | error e => rfl
      | ok policy =>
        cases expect "capability must be present when no denials were recorded"
          input.capabilityAdmissionOutcome.toOption with
        | error e => rfl
        | ok capability => exact resolveFactors_degradedSubtype _ _ _ _ _ _ _ _

end ApprovalPostureResolver

/-- `validate_route_decision_surface`; its four copies differ in the name of
the component whose expectations are broken. -/
def routeDecisionSurface (expectations : String) (d : RouteDecision) : FaLocalResult Unit :=
  match d.resolvedApprovalPosture with
  | .denied =>
    require (!(d.executionAllowed || d.reviewRequired || d.explicitApprovalRequired))
      ("denied route decision is inconsistent with " ++ expectations)
  | .reviewRequired =>
    require (!(d.executionAllowed || !d.reviewRequired || d.explicitApprovalRequired))
      ("review_required route decision is inconsistent with " ++ expectations)
  | .explicitOperatorApproval =>
    require (!(d.executionAllowed || d.reviewRequired || !d.explicitApprovalRequired))
      ("explicit_operator_approval route decision is inconsistent with " ++ expectations)
  | .policyPreapproved | .executeAllowed =>
    require (!(!d.executionAllowed || d.reviewRequired || d.explicitApprovalRequired))
      ("admitted route decision is inconsistent with " ++ expectations)

theorem routeDecisionSurface_eq_ok {expectations : String} {d : RouteDecision} :
    routeDecisionSurface expectations d = .ok () ↔ ApprovalPostureResolver.FlagsFit d := by
  constructor
  · intro h
    cases hp : d.resolvedApprovalPosture <;>
      · simp only [routeDecisionSurface, hp, require_eq_ok, Bool.not_eq_true', Bool.or_eq_false_iff,
          Bool.not_eq_false'] at h
        constructor <;> simp [hp, h, ApprovalPostureResolver.executionAllowedFor]
  · intro h
    cases hp : d.resolvedApprovalPosture <;>
      simp [routeDecisionSurface, hp, h.execution, h.review, h.approval,
        ApprovalPostureResolver.executionAllowedFor]

end FaLocal
