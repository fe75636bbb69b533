import FaLocal.CoordinationLaws
import FaLocal.ReviewService

/-!
# The handoff to the operator

What the coordinator yields for a decision that awaits a review or an approval is
what the emission accepts, and what it builds from that is a valid package. The
coordinator, the emission input and the package check the handoff each by rules
of their own.
-/
namespace FaLocal

open ReviewPackage (mentionsDegradedOrFallback)

/-- The plan that is handed to the operator: none for a review; for an approval, a
validated plan of the same request that references the requested capability. -/
inductive HandsOver (digest : PlanDigest) (d : RouteDecision) :
    Option ValidatedExecutionPlan → Prop where
  | review : d.resolvedApprovalPosture = .reviewRequired → HandsOver digest d none
  | approval {utcNow : TimestampUtc} {capabilities : CapabilityRegistry}
      {v : ValidatedExecutionPlan} :
      d.resolvedApprovalPosture = .explicitOperatorApproval →
      ExecutionPlanValidator.validate digest utcNow v.plan capabilities = .ok v →
      v.plan.originatingRequestId = d.requestId → v.plan.correlationId = d.correlationId →
      d.capabilityDecisionSummary.requestedCapabilityId ∈ v.plan.referencedCapabilities →
      HandsOver digest d (some v)

/-- Between 1 and 160 bytes. -/
def ReviewText (text : String) : Prop := 1 ≤ text.utf8ByteSize ∧ text.utf8ByteSize ≤ 160

/-- Texts and options that a package of the decision takes. -/
structure DraftFits (d : RouteDecision) (draft : ReviewEmissionInput) : Prop where
  requester : ReviewText draft.requesterSummary
  proposed : ReviewText draft.proposedExecutionSummary
  assessment : ReviewText draft.sideEffectAssessment
  consequences : ReviewText draft.denialConsequencesIfDeclined
  narrated : mentionsDegradedOrFallback draft.proposedExecutionSummary = true ∨
    mentionsDegradedOrFallback draft.sideEffectAssessment = true → d.degradedSubtype.isSome = true
  distinct : draft.approvalOptionsAllowedByPolicy.Nodup
  approve : .approveExecute ∈ draft.approvalOptionsAllowedByPolicy
  decline : .declineRequest ∈ draft.approvalOptionsAllowedByPolicy

/-- The texts of a draft with a decision, its plan and the status it was given. -/
def handedOver (draft : ReviewEmissionInput) (d : RouteDecision)
    (validatedPlan : Option ValidatedExecutionPlan) (status : ValidatedExecutionStatus) :
    ReviewEmissionInput :=
  { draft with
    routeDecision := d
    validatedPlan := validatedPlan
    executionStatus := some status }

/-- What a package shows of a status. -/
def statusContext (status : ExecutionStatus) : ReviewExecutionStatusContext where
  state := status.state
  degradedSubtype := status.degradedSubtype
  updatedAtUtc := status.updatedAtUtc
  truthfulUserVisibleSummary := status.truthfulUserVisibleSummary

section
variable {digest : PlanDigest} {d : RouteDecision} {validatedPlan : Option ValidatedExecutionPlan}
  {draft : ReviewEmissionInput} {status : ValidatedExecutionStatus}

theorem HandsOver.posture (h : HandsOver digest d validatedPlan) :
    d.resolvedApprovalPosture = .reviewRequired ∨
      d.resolvedApprovalPosture = .explicitOperatorApproval := by
  cases h with
  | review hp => exact .inl hp
  | approval hp => exact .inr hp

/-! ## The coordinator -/

theorem HandsOver.coordinationInput (h : HandsOver digest d validatedPlan)
    (hf : ApprovalPostureResolver.FlagsFit d) (context : CoordinationContext) :
    CoordinationInput.new d validatedPlan .noExecution context =
      .ok ⟨d, validatedPlan, .noExecution, context⟩ := by
  have hsurface : ExecutionService.validateRouteDecisionSurface d = .ok () :=
    routeDecisionSurface_eq_ok.mpr hf
  have hplan : CoordinationInput.validatePlanAndDirective d validatedPlan .noExecution =
      .ok () := by
    cases h with
    | review hp =>
      rw [CoordinationInput.validatePlanAndDirective, hp]
      rfl
    | approval hp _ hrequest hcorrelation _ =>
      simp [CoordinationInput.validatePlanAndDirective, hp, seq_eq_ok, hrequest, hcorrelation,
        CoordinationInput.validatePlanMatchesRoute, CoordinationDirective.requiresAdmittedExecution]
  rw [CoordinationInput.new, hsurface, seq_of_ok rfl, hplan]
  rfl

/-! ## The emission input -/

namespace ReviewService

/-- The status of a review path is shown as it is. -/
theorem reviewStatusContext_of_resting (hrest : Resting d status.status)
    (hp : d.resolvedApprovalPosture = .reviewRequired ∨
      d.resolvedApprovalPosture = .explicitOperatorApproval) :
    reviewStatusContextFromStatus status = .ok (statusContext status.status) := by
  have hstate : status.status.state = .reviewRequired ∨
      status.status.state = .waitingExplicitApproval := by
    have hs := hrest.state
    rcases hp with hp | hp
    · rw [hp] at hs
      exact .inl (Option.some.inj hs)
    · rw [hp] at hs
      exact .inr (Option.some.inj hs)
  have hvisible := (ExecutionStatus.validate_eq_ok.mp status.valid).1.visible
  have hvalid : (statusContext status.status).validate = .ok () := by
    simp [ReviewExecutionStatusContext.validate, seq_eq_ok, statusContext, hstate,
      ReviewPackage.validateRequiredSummary, hvisible, hrest.noProgress.2.2]
  exact seq_eq_ok.mpr ⟨status.valid, seq_eq_ok.mpr ⟨hvalid, rfl⟩⟩

theorem validateStatus_of_resting (hrest : Resting d status.status)
    (hp : d.resolvedApprovalPosture = .reviewRequired ∨
      d.resolvedApprovalPosture = .explicitOperatorApproval) :
    validateStatusMatchesReviewRoute d status = .ok () := by
  have hcontext := reviewStatusContext_of_resting hrest hp
  have hs := hrest.state
  have hposture := hrest.posture
  have hids : (status.status.requestId == d.requestId) = true ∧
      (status.status.correlationId == d.correlationId) = true :=
    ⟨beq_iff_eq.mpr hrest.request, beq_iff_eq.mpr hrest.correlation⟩
  rcases hp with hp | hp
  all_goals
    rw [hp] at hs
    have hstate := Option.some.inj hs
    simp [validateStatusMatchesReviewRoute, status.valid, hids, hposture, hcontext, hp, bind,
      Except.bind, statusContext, hstate]

theorem handedOver_accepted (h : HandsOver digest d validatedPlan)
    (hf : ApprovalPostureResolver.FlagsFit d) (hrest : Resting d status.status) :
    ReviewEmissionInput.new (handedOver draft d validatedPlan status) =
      .ok (handedOver draft d validatedPlan status) := by
  have hsurface : validateRouteDecisionSurface d = .ok () := routeDecisionSurface_eq_ok.mpr hf
  have hstatus := validateStatus_of_resting hrest h.posture
  cases h with
  | review hp =>
    simp [ReviewEmissionInput.new, handedOver, seq_eq_ok, hsurface, hp, hstatus, Option.forM, pure,
      Except.pure]
  | approval hp _ hrequest hcorrelation hcapability =>
    simp [ReviewEmissionInput.new, handedOver, seq_eq_ok, hsurface, hp, hstatus, Option.forM, pure,
      Except.pure, validatePlanMatchesRoute, hrequest, hcorrelation, hcapability]

/-! ## The package -/

variable (reviewPackageId : ReviewPackageId)

theorem draft_texts (hdraft : DraftFits d draft) (context : Option ReviewExecutionStatusContext) :
    (packageFor reviewPackageId (handedOver draft d validatedPlan status) validatedPlan
      context).TextsFit where
  requester := isBoundedText_iff.mpr hdraft.requester
  proposed := isBoundedText_iff.mpr hdraft.proposed
  assessment := isBoundedText_iff.mpr hdraft.assessment
  consequences := isBoundedText_iff.mpr hdraft.consequences
  narrated := hdraft.narrated

theorem draft_options (hdraft : DraftFits d draft) :
    ReviewPackage.validateOptions draft.approvalOptionsAllowedByPolicy = .ok () := by
  have hne : draft.approvalOptionsAllowedByPolicy ≠ [] := List.ne_nil_of_mem hdraft.approve
  simp [ReviewPackage.validateOptions, seq_eq_ok, hne, hdraft.distinct, hdraft.approve,
    hdraft.decline]

/-- The package of a handoff is valid. -/
theorem package_valid (h : HandsOver digest d validatedPlan) (hdraft : DraftFits d draft)
    (hrest : Resting d status.status) :
    (packageFor reviewPackageId (handedOver draft d validatedPlan status) validatedPlan
      (some (statusContext status.status))).validate = .ok () := by
  have hoptions := draft_options hdraft
  refine ReviewPackage.validate_eq_ok.mpr ⟨draft_texts _ hdraft _, hoptions, ?_⟩
  have hcontext := reviewStatusContext_of_resting hrest h.posture
  have hvalid : (statusContext status.status).validate = .ok () :=
    (seq_eq_ok.mp (seq_eq_ok.mp hcontext).2).1
  have hs := hrest.state
  cases h with
  | review hp =>
    refine ⟨.inl ⟨hp, rfl, rfl⟩, rfl, ?_⟩
    rintro context ⟨⟩
    rw [hp] at hs
    exact ⟨hvalid, fun _ => Option.some.inj hs, fun ha => absurd (hp.symm.trans ha) (by decide)⟩
  | approval hp hplan =>
    refine ⟨.inr ⟨hp, rfl, rfl⟩, ?_, ?_⟩
    · rw [(ExecutionPlanValidator.validate_eq_ok.mp hplan).2]
      exact digest.wellFormed _
    · rintro context ⟨⟩
      rw [hp] at hs
      exact ⟨hvalid, fun hr => absurd (hp.symm.trans hr) (by decide), fun _ => Option.some.inj hs⟩

theorem emits_handedOver (h : HandsOver digest d validatedPlan) (hdraft : DraftFits d draft)
    (hrest : Resting d status.status) :
    emitReviewPackage reviewPackageId (handedOver draft d validatedPlan status) =
      .ok (.emitted ⟨_, package_valid reviewPackageId h hdraft hrest⟩) := by
  have hcontext : (handedOver draft d validatedPlan status).executionStatus.mapM
      reviewStatusContextFromStatus = .ok (some (statusContext status.status)) := by
    have hc := reviewStatusContext_of_resting hrest h.posture
    simp [handedOver, hc, Functor.map, Except.map]
  have hv := package_valid reviewPackageId h hdraft hrest
  cases h with
  | review hp => exact emits_review hp hcontext hv
  | approval hp => exact emits_approval hp rfl hcontext hv

/-- Other postures are not handed over. -/
theorem emitReviewPackage_other {input : ReviewEmissionInput}
    (hr : input.routeDecision.resolvedApprovalPosture ≠ .reviewRequired)
    (ha : input.routeDecision.resolvedApprovalPosture ≠ .explicitOperatorApproval) :
    emitReviewPackage reviewPackageId input = .ok (.notEmitted .nonReviewPath) := by
  cases hp : input.routeDecision.resolvedApprovalPosture with
  | reviewRequired => exact absurd hp hr
  | explicitOperatorApproval => exact absurd hp ha
  | denied => rw [emitReviewPackage, hp]
  | policyPreapproved => rw [emitReviewPackage, hp]
  | executeAllowed => rw [emitReviewPackage, hp]

/-! ## The handoff -/

variable {resolution : RouteResolutionInput} {resolutionContext : RouteResolutionContext}

/-- What the coordinator yields for a review path is accepted and emitted as a package of
the decision, its plan and that status. No other posture has a package. -/
theorem handoff_emitted
    (hr : ApprovalPostureResolver.resolve resolution resolutionContext = .ok d)
    (hascii : ∀ c ∈ d.operatorVisibleSummary.toList, c.toNat < 128)
    (hplan : HandsOver digest d validatedPlan) (hdraft : DraftFits d draft)
    (coordination : CoordinationContext) :
    (∃ input trace package,
      CoordinationInput.new d validatedPlan .noExecution coordination = .ok input ∧
      ExecutionService.coordinate input = .ok trace ∧
      ReviewEmissionInput.new (handedOver draft d validatedPlan trace.finalStatus) =
        .ok (handedOver draft d validatedPlan trace.finalStatus) ∧
      emitReviewPackage reviewPackageId (handedOver draft d validatedPlan trace.finalStatus) =
        .ok (.emitted package) ∧
      package.package.originatingRequestId = d.requestId ∧
      package.package.correlationId = d.correlationId ∧
      package.package.routeDecisionId = d.routeDecisionId ∧
      package.package.executionPlanId = validatedPlan.map (·.plan.executionPlanId) ∧
      package.package.stablePlanHash = validatedPlan.map (·.stablePlanHash) ∧
      package.package.currentPosture = d.resolvedApprovalPosture ∧
      package.package.executionStatusContext = some (statusContext trace.finalStatus.status)) ∧
    ∀ other : ReviewEmissionInput, other.routeDecision.resolvedApprovalPosture ≠ .reviewRequired →
      other.routeDecision.resolvedApprovalPosture ≠ .explicitOperatorApproval →
      ∀ package, emitReviewPackage reviewPackageId other ≠ .ok (.emitted package) := by
  constructor
  · obtain ⟨-, hf, -⟩ := ApprovalPostureResolver.resolve_spec hr
    have hp : d.resolvedApprovalPosture.admitted = false := by
      rcases hplan.posture with hp | hp <;> rw [hp] <;> rfl
    have hsummary := ExecutionService.operatorSummary_bounded
      (ApprovalPostureResolver.resolve_kept hr) hascii
    obtain ⟨trace, status, hok, hone, hrest⟩ := ExecutionService.coordinate_resting validatedPlan
      .noExecution coordination hp hsummary
    have hfinal : trace.finalStatus = status := by
      simp only [ExecutionTrace.finalStatus, hone, List.getLast_singleton]
    rw [← hfinal] at hrest
    exact ⟨_, trace, _, hplan.coordinationInput hf coordination, hok,
      handedOver_accepted hplan hf hrest, emits_handedOver reviewPackageId hplan hdraft hrest,
      rfl, rfl, rfl, rfl, rfl, rfl, rfl⟩
  · intro other hreview happroval package hemitted
    rw [emitReviewPackage_other reviewPackageId hreview happroval] at hemitted
    cases hemitted

end ReviewService

end

/-! The two-step plan, handed over for approval. -/

namespace Fixture

theorem awaitingApproval_ascii :
    ∀ c ∈ (awaitingApproval none).operatorVisibleSummary.toList, c.toNat < 128 :=
  forall_mem_of_all (by decide +kernel)

theorem twoStepPlan_handsOver :
    HandsOver twoStepDigest (awaitingApproval none) (some validatedTwoStepPlan) :=
  .approval rfl twoStepPlan_validated rfl rfl (by decide)

theorem handoff_draft : DraftFits (awaitingApproval none) (handoff none) where
  requester := isBoundedText_iff.mp (by decide +kernel)
  proposed := isBoundedText_iff.mp (by decide +kernel)
  assessment := isBoundedText_iff.mp (by decide +kernel)
  consequences := isBoundedText_iff.mp (by decide +kernel)
  narrated := by decide +kernel
  distinct := by decide
  approve := by decide
  decline := by decide

end Fixture

theorem ReviewService.handoff_emitted_two_steps : ∃ trace package,
    ExecutionService.coordinate ⟨Fixture.awaitingApproval none, some Fixture.validatedTwoStepPlan,
      .noExecution, Fixture.coordination⟩ = .ok trace ∧
    emitReviewPackage (Fixture.id .reviewPackage 9) (handedOver (Fixture.handoff none)
      (Fixture.awaitingApproval none) (some Fixture.validatedTwoStepPlan) trace.finalStatus) =
      .ok (.emitted package) ∧
    package.package.stablePlanHash = some Fixture.twoStepHash := by
  obtain ⟨⟨input, trace, package, hnew, hok, -, hemitted, -, -, -, -, hhash, -⟩, -⟩ :=
    handoff_emitted (Fixture.id .reviewPackage 9) (Fixture.awaitingApproval_resolved none)
      Fixture.awaitingApproval_ascii Fixture.twoStepPlan_handsOver Fixture.handoff_draft
      Fixture.coordination
  cases CoordinationInput.new_fields hnew
  exact ⟨trace, package, hok, hemitted, hhash⟩

end FaLocal
