import FaLocal.DeliveredWork
import FaLocal.PostureOrder
import FaLocal.Recording

/-!
# Emitting review packages

`ReviewEmissionInput::new` and `ReviewService::emit_review_package`, and which of
the emitted packages the recorder takes.
-/
namespace FaLocal

structure ReviewEmissionContext where
  packagedAtUtc : TimestampUtc

structure ReviewEmissionInput where
  routeDecision : RouteDecision
  validatedPlan : Option ValidatedExecutionPlan
  executionStatus : Option ValidatedExecutionStatus
  intentBasis : UserIntentBasis
  requesterSummary : String
  proposedExecutionSummary : String
  sideEffectAssessment : String
  approvalOptionsAllowedByPolicy : List ApprovalOption
  denialConsequencesIfDeclined : String
  context : ReviewEmissionContext

inductive ReviewNonEmissionReason where
  | nonReviewPath
  deriving DecidableEq

inductive ReviewEmissionOutcome where
  | emitted (package : ValidatedReviewPackage)
  | notEmitted (reason : ReviewNonEmissionReason)

namespace ReviewService

def validatePlanMatchesRoute (routeDecision : RouteDecision)
    (validatedPlan : ValidatedExecutionPlan) : FaLocalResult Unit := do
  require (validatedPlan.plan.correlationId == routeDecision.correlationId)
    "review-package emission plan correlation_id does not match route decision"
  require (validatedPlan.plan.originatingRequestId == routeDecision.requestId)
    "review-package emission plan request_id does not match route decision"
  require (validatedPlan.plan.referencedCapabilities.contains
      routeDecision.capabilityDecisionSummary.requestedCapabilityId)
    "review-package emission plan does not include route decision requested capability"

def reviewStatusContextFromStatus (executionStatus : ValidatedExecutionStatus) :
    FaLocalResult ReviewExecutionStatusContext := do
  executionStatus.status.validate
  ReviewExecutionStatusContext.new
    { state := executionStatus.status.state
      degradedSubtype := executionStatus.status.degradedSubtype
      updatedAtUtc := executionStatus.status.updatedAtUtc
      truthfulUserVisibleSummary := executionStatus.status.truthfulUserVisibleSummary }

def validateStatusMatchesReviewRoute (routeDecision : RouteDecision)
    (executionStatus : ValidatedExecutionStatus) : FaLocalResult Unit := do
  executionStatus.status.validate
  require (executionStatus.status.requestId == routeDecision.requestId)
    "review-package emission status request_id does not match route decision"
  require (executionStatus.status.correlationId == routeDecision.correlationId)
    "review-package emission status correlation_id does not match route decision"
  require (executionStatus.status.currentPosture == routeDecision.resolvedApprovalPosture)
    "review-package emission status posture does not match route decision"
  let reviewStatusContext ← reviewStatusContextFromStatus executionStatus
  match routeDecision.resolvedApprovalPosture with
  | .reviewRequired => do
    require (executionStatus.status.currentPosture == .reviewRequired)
      "review-package emission status must remain review_required"
    require (reviewStatusContext.state == .reviewRequired)
      "review-package emission status state does not match review_required posture"
  | .explicitOperatorApproval => do
    require (executionStatus.status.currentPosture == .explicitOperatorApproval)
      "review-package emission status must remain explicit_operator_approval"
    require (reviewStatusContext.state == .waitingExplicitApproval)
      "review-package emission status state does not match explicit_operator_approval posture"
  | _ => .error (contractInvalid
      "review-package emission status is only allowed for review postures")

end ReviewService

open ReviewService

/-- `ReviewEmissionInput::new`: its arguments as a record. -/
def ReviewEmissionInput.new (input : ReviewEmissionInput) :
    FaLocalResult ReviewEmissionInput := do
  validateRouteDecisionSurface input.routeDecision
  match input.routeDecision.resolvedApprovalPosture with
  | .denied => do
    require input.validatedPlan.isNone
      "non-executable review-package emission path must not include validated execution plan"
    require input.executionStatus.isNone
      "non-executable review-package emission path must not include execution status context"
  | .reviewRequired => do
    require input.validatedPlan.isNone
      "review_required review-package emission path must not include validated execution plan"
    input.executionStatus.forM (validateStatusMatchesReviewRoute input.routeDecision)
  | .explicitOperatorApproval => do
    match input.validatedPlan with
    | none => .error (contractInvalid
        "explicit approval review-package emission requires validated execution plan")
    | some validatedPlan => validatePlanMatchesRoute input.routeDecision validatedPlan
    input.executionStatus.forM (validateStatusMatchesReviewRoute input.routeDecision)
  | .policyPreapproved | .executeAllowed => do
    input.validatedPlan.forM (validatePlanMatchesRoute input.routeDecision)
    require input.executionStatus.isNone
      "non-review review-package emission path must not include execution status context"
  return input

namespace ReviewService

/-- The package of both review paths, linked to the plan if there is one. -/
def packageFor (reviewPackageId : ReviewPackageId) (input : ReviewEmissionInput)
    (plan : Option ValidatedExecutionPlan)
    (executionStatusContext : Option ReviewExecutionStatusContext) : ReviewPackage where
  reviewPackageId := reviewPackageId
  originatingRequestId := input.routeDecision.requestId
  correlationId := input.routeDecision.correlationId
  routeDecisionId := input.routeDecision.routeDecisionId
  executionPlanId := plan.map (·.plan.executionPlanId)
  stablePlanHash := plan.map (·.stablePlanHash)
  currentPosture := input.routeDecision.resolvedApprovalPosture
  executionStatusContext := executionStatusContext
  intentBasis := input.intentBasis
  requesterSummary := input.requesterSummary
  proposedExecutionSummary := input.proposedExecutionSummary
  sideEffectAssessment := input.sideEffectAssessment
  degradedOrFallbackPosture := input.routeDecision.degradedSubtype
  approvalOptionsAllowedByPolicy := input.approvalOptionsAllowedByPolicy
  denialConsequencesIfDeclined := input.denialConsequencesIfDeclined
  packagedAtUtc := input.context.packagedAtUtc

/-- `emit_review_package`; the identifier is what `ReviewPackageId::new()` draws. -/
def emitReviewPackage (reviewPackageId : ReviewPackageId) (input : ReviewEmissionInput) :
    FaLocalResult ReviewEmissionOutcome :=
  match input.routeDecision.resolvedApprovalPosture with
  | .denied | .policyPreapproved | .executeAllowed => .ok (.notEmitted .nonReviewPath)
  | .reviewRequired => do
    let executionStatusContext ← input.executionStatus.mapM reviewStatusContextFromStatus
    let package ← ReviewPackage.new (packageFor reviewPackageId input none executionStatusContext)
    let validated ← ValidatedReviewPackage.new package
    return .emitted validated
  | .explicitOperatorApproval =>
    match input.validatedPlan with
    | none => .error (contractInvalid
        "explicit approval review-package emission requires validated execution plan")
    | some validatedPlan => do
      let executionStatusContext ← input.executionStatus.mapM reviewStatusContextFromStatus
      let package ← ReviewPackage.new
        (packageFor reviewPackageId input (some validatedPlan) executionStatusContext)
      let validated ← ValidatedReviewPackage.new package
      return .emitted validated

/-! ## Emitted packages -/

variable {reviewPackageId : ReviewPackageId} {input : ReviewEmissionInput}
  {package : ValidatedReviewPackage}

theorem reviewNew_eq_ok {candidate package : ReviewPackage} :
    ReviewPackage.new candidate = .ok package ↔
      candidate.validate = .ok () ∧ package = candidate := by
  rw [ReviewPackage.new, seq_eq_ok]
  exact and_congr_right fun _ => by simp [pure, Except.pure, eq_comm]

/-- The package of an approval, with the plan and the context that it was built from. -/
theorem emitReviewPackage_approval
    (hp : input.routeDecision.resolvedApprovalPosture = .explicitOperatorApproval)
    (h : emitReviewPackage reviewPackageId input = .ok (.emitted package)) :
    ∃ plan context, input.validatedPlan = some plan ∧
      package.package = packageFor reviewPackageId input (some plan) context := by
  simp only [emitReviewPackage, hp] at h
  cases hplan : input.validatedPlan with
  | none => simp [hplan] at h
  | some plan =>
    simp only [hplan, bind_eq_ok] at h
    obtain ⟨context, -, candidate, hnew, validated, hvalid, hpackage⟩ := h
    cases hpackage
    obtain ⟨-, rfl⟩ := reviewNew_eq_ok.mp hnew
    exact ⟨plan, context, rfl, ValidatedReviewPackage.new_eq_ok.mp hvalid⟩

/-- A package that is valid is emitted. -/
theorem emits_approval
    (hp : input.routeDecision.resolvedApprovalPosture = .explicitOperatorApproval)
    {plan : ValidatedExecutionPlan} (hplan : input.validatedPlan = some plan)
    {context : Option ReviewExecutionStatusContext}
    (hcontext : input.executionStatus.mapM reviewStatusContextFromStatus = .ok context)
    (hv : (packageFor reviewPackageId input (some plan) context).validate = .ok ()) :
    emitReviewPackage reviewPackageId input = .ok (.emitted ⟨_, hv⟩) := by
  have hnew := reviewNew_eq_ok.mpr ⟨hv, rfl⟩
  have hvalid : ValidatedReviewPackage.new (packageFor reviewPackageId input (some plan) context) =
      .ok ⟨_, hv⟩ := ValidatedReviewPackage.new_eq_ok.mpr rfl
  simp [emitReviewPackage, hp, hplan, hcontext, hnew, hvalid, bind, Except.bind, pure, Except.pure]

theorem emits_review
    (hp : input.routeDecision.resolvedApprovalPosture = .reviewRequired)
    {context : Option ReviewExecutionStatusContext}
    (hcontext : input.executionStatus.mapM reviewStatusContextFromStatus = .ok context)
    (hv : (packageFor reviewPackageId input none context).validate = .ok ()) :
    emitReviewPackage reviewPackageId input = .ok (.emitted ⟨_, hv⟩) := by
  have hnew := reviewNew_eq_ok.mpr ⟨hv, rfl⟩
  have hvalid : ValidatedReviewPackage.new (packageFor reviewPackageId input none context) =
      .ok ⟨_, hv⟩ := ValidatedReviewPackage.new_eq_ok.mpr rfl
  simp [emitReviewPackage, hp, hcontext, hnew, hvalid, bind, Except.bind, pure, Except.pure]

theorem emissionInput_new (h : ReviewEmissionInput.new input = .ok input) :
    ApprovalPostureResolver.FlagsFit input.routeDecision := by
  rw [ReviewEmissionInput.new, seq_eq_ok] at h
  exact routeDecisionSurface_eq_ok.mp h.1

end ReviewService

namespace ForensicService

/-! ## Packages on record -/

variable {forensicEventId : ForensicEventId} {routeDecision : RouteDecision}
  {reviewPackage : ValidatedReviewPackage} {redactionLevel : RedactionLevel}
  {context : ForensicRecordContext}

/-- Both wordings of a handoff are bounded and use none of the forbidden words. -/
theorem reviewPackageSummary_plain (reviewPackage : ValidatedReviewPackage)
    (degradedSubtype : Option DegradedSubtype) :
    Recordable (reviewPackageSummary reviewPackage) .waitingExplicitApproval degradedSubtype := by
  have hplain : ∀ summary ∈ ["bounded review handoff prepared with explicit fallback posture",
      "bounded review handoff prepared for explicit operator approval"],
      isBoundedText summary = true ∧
        Words.mentionsAny summary (disallowedWords .waitingExplicitApproval none) = false := by
    decide +kernel
  have hmem : reviewPackageSummary reviewPackage ∈
      ["bounded review handoff prepared with explicit fallback posture",
        "bounded review handoff prepared for explicit operator approval"] := by
    rw [reviewPackageSummary]
    split <;> simp
  obtain ⟨hbounded, hwords⟩ := hplain _ hmem
  refine ⟨hbounded, Words.mentionsAny_mono (fun w hw => ?_) hwords⟩
  simp only [disallowedWords, List.mem_append] at hw ⊢
  cases degradedSubtype with
  | none => exact hw
  | some subtype =>
    simp only [Option.isNone_some, Option.isNone_none] at hw ⊢
    simp at hw ⊢
    tauto

/-- The event of an approval package waits for the operator. -/
theorem review_state (hfits : reviewPackage.package.PostureFits)
    (hp : reviewPackage.package.currentPosture = .explicitOperatorApproval) :
    (reviewPackage.package.executionStatusContext.map (·.state)).getD .waitingExplicitApproval =
      .waitingExplicitApproval := by
  cases hc : reviewPackage.package.executionStatusContext with
  | none => rfl
  | some status => exact (hfits.context status hc).2.2 hp

/-- A package of an approval breaks no rule of an event but that about its subtype. -/
theorem review_validate (hp : reviewPackage.package.currentPosture = .explicitOperatorApproval) :
    (recordedEvent forensicEventId
        ⟨.reviewPackagePrepared routeDecision reviewPackage, redactionLevel, context⟩).validate =
        .ok () ↔
      reviewPackage.package.degradedOrFallbackPosture = none ∨
        isExplicitFallbackSubtype reviewPackage.package.degradedOrFallbackPosture = true := by
  obtain ⟨-, -, hfits⟩ := ReviewPackage.validate_eq_ok.mp reviewPackage.valid
  obtain ⟨hid, hhash⟩ : reviewPackage.package.executionPlanId.isSome = true ∧
      reviewPackage.package.stablePlanHash.isSome = true := by
    simpa [hp] using hfits.posture
  have hstate := review_state hfits hp
  have hsummary := recordable_iff.mp (reviewPackageSummary_plain reviewPackage none)
  have hbounded := (reviewPackageSummary_plain reviewPackage none).bounded
  simp [ForensicEvent.validate, recordedEvent, buildForensicRecord, seq_eq_ok, hp, hstate, hid,
    hhash, hfits.hash, hbounded, hsummary.2, ForensicEvent.validateRequiredSummary,
    ForensicEvent.validateOptionalPlanLink, ForensicEvent.validateReviewPackageLinkage,
    ForensicEvent.validatePostureStatePair, ForensicEvent.validateDegradedSubtype,
    ForensicEvent.validateEventType, ForensicEvent.requirePosture, ForensicEvent.requireState,
    ForensicEvent.requireSome]

theorem review_recorded_iff
    (hp : reviewPackage.package.currentPosture = .explicitOperatorApproval) :
    (∃ event, recordEvent forensicEventId
        ⟨.reviewPackagePrepared routeDecision reviewPackage, redactionLevel, context⟩ =
        .ok event) ↔
      reviewPackage.package.degradedOrFallbackPosture = none ∨
        isExplicitFallbackSubtype reviewPackage.package.degradedOrFallbackPosture = true := by
  rw [← @review_validate forensicEventId routeDecision reviewPackage redactionLevel context hp]
  obtain ⟨-, -, hfits⟩ := ReviewPackage.validate_eq_ok.mp reviewPackage.valid
  have hstate := review_state hfits hp
  constructor
  · rintro ⟨event, h⟩
    exact (recordEvent_eq_ok.mp h).2 ▸ event.valid
  · intro hv
    refine ⟨⟨_, hv⟩, recordEvent_eq_ok.mpr ⟨?_, rfl⟩⟩
    simp only [recordedEvent, buildForensicRecord, hstate]
    exact (recordable_iff.mp (reviewPackageSummary_plain reviewPackage _)).1

end ForensicService

namespace ReviewService

open ForensicService

variable {reviewPackageId : ReviewPackageId} {input : ReviewEmissionInput}
  {package : ValidatedReviewPackage}

/-- The recorder accepts every emitted approval package. It puts it on record
exactly when the decision declares no degraded subtype or an explicit fallback. -/
theorem emitted_recorded_iff (hi : ReviewEmissionInput.new input = .ok input)
    (hp : input.routeDecision.resolvedApprovalPosture = .explicitOperatorApproval)
    (he : emitReviewPackage reviewPackageId input = .ok (.emitted package))
    (forensicEventId : ForensicEventId) (redactionLevel : RedactionLevel)
    (context : ForensicRecordContext) :
    ∃ recordInput, ForensicRecordInput.new (.reviewPackagePrepared input.routeDecision package)
        redactionLevel context = .ok recordInput ∧
      ((∃ event, recordEvent forensicEventId recordInput = .ok event) ↔
        input.routeDecision.degradedSubtype = none ∨
          isExplicitFallbackSubtype input.routeDecision.degradedSubtype = true) ∧
      ∀ event, recordEvent forensicEventId recordInput = .ok event →
        event.event.eventType = .reviewPackagePrepared ∧
        event.event.reviewPackageId = some reviewPackageId ∧
        package.package.reviewPackageId = reviewPackageId ∧
        event.event.executionPlanId = package.package.executionPlanId ∧
        event.event.stablePlanHash = package.package.stablePlanHash ∧
        ∃ plan, input.validatedPlan = some plan ∧
          package.package.executionPlanId = some plan.plan.executionPlanId ∧
          package.package.stablePlanHash = some plan.stablePlanHash := by
  obtain ⟨plan, statusContext, hplan, hpackage⟩ := emitReviewPackage_approval hp he
  have hposture : package.package.currentPosture = .explicitOperatorApproval := by
    rw [hpackage]
    exact hp
  have hids : package.package.originatingRequestId = input.routeDecision.requestId ∧
      package.package.correlationId = input.routeDecision.correlationId ∧
      package.package.routeDecisionId = input.routeDecision.routeDecisionId := by
    rw [hpackage]
    exact ⟨rfl, rfl, rfl⟩
  have hkind : validateRecordKind (.reviewPackagePrepared input.routeDecision package) = .ok () := by
    simp [validateRecordKind, ForensicService.validateRouteDecisionSurface, seq_eq_ok,
      package.valid, hp, hposture, hids, routeDecisionSurface_eq_ok.mpr (emissionInput_new hi)]
  refine ⟨⟨.reviewPackagePrepared input.routeDecision package, redactionLevel, context⟩, ?_, ?_, ?_⟩
  · rw [ForensicRecordInput.new, hkind]
    rfl
  · rw [review_recorded_iff hposture, hpackage]
    rfl
  · intro event h
    have hid : package.package.reviewPackageId = reviewPackageId := by
      rw [hpackage]
      rfl
    rw [(recordEvent_eq_ok.mp h).2]
    refine ⟨rfl, congrArg some hid, hid, rfl, rfl, plan, hplan, ?_, ?_⟩
    · rw [hpackage]
      rfl
    · rw [hpackage]
      rfl

end ReviewService

/-! A handoff of the two-step plan, with any degraded subtype in the context. -/

namespace Fixture

def approvalInput : RouteResolutionInput where
  request := request
  requesterTrustOutcome := .ok envelope
  policyOutcome := .ok policy
  capabilityAdmissionOutcome := .ok { record with approvalPosture := .explicitOperatorApproval }

def awaitingApproval (degradedSubtype : Option DegradedSubtype) : RouteDecision :=
  { decision with
    resolvedApprovalPosture := .explicitOperatorApproval
    executionAllowed := false
    explicitApprovalRequired := true
    capabilityDecisionSummary := { decision.capabilityDecisionSummary with
      capabilityApprovalPosture := some .explicitOperatorApproval }
    operatorVisibleSummary :=
      "request requires explicit operator approval for capability 44444444-4444-4444-8444-444444444444"
    degradedSubtype := degradedSubtype
    decidedAtUtc := at2030 600 }

def handoff (degradedSubtype : Option DegradedSubtype) : ReviewEmissionInput where
  routeDecision := awaitingApproval degradedSubtype
  validatedPlan := some validatedTwoStepPlan
  executionStatus := none
  intentBasis := .explicitUserAction
  requesterSummary := "trusted app surface requests a governed local export"
  proposedExecutionSummary := "write the approved local export in two steps"
  sideEffectAssessment := "bounded local file writes"
  approvalOptionsAllowedByPolicy := [.approveExecute, .declineRequest]
  denialConsequencesIfDeclined := "the export is not written"
  context := ⟨at2030 900⟩

theorem awaitingApproval_resolved (degradedSubtype : Option DegradedSubtype) :
    ApprovalPostureResolver.resolve approvalInput
      { context with degradedSubtype := degradedSubtype } =
      .ok (awaitingApproval degradedSubtype) := by
  have hnone : ApprovalPostureResolver.resolve approvalInput context =
      .ok (awaitingApproval none) := by
    decide +kernel
  rw [ApprovalPostureResolver.resolve_degradedSubtype, hnone]
  rfl

theorem handoff_valid (degradedSubtype : Option DegradedSubtype) :
    (ReviewService.packageFor (id .reviewPackage 9) (handoff degradedSubtype)
      (some validatedTwoStepPlan) none).validate = .ok () := by
  cases degradedSubtype with
  | none => decide +kernel
  | some subtype => cases subtype <;> decide +kernel

end Fixture

namespace ReviewService

open ForensicService

theorem emitted_not_recorded : ∃ package,
    ApprovalPostureResolver.resolve Fixture.approvalInput
      { Fixture.context with degradedSubtype := some .degradedPartial } =
      .ok (Fixture.handoff (some .degradedPartial)).routeDecision ∧
    ReviewEmissionInput.new (Fixture.handoff (some .degradedPartial)) =
      .ok (Fixture.handoff (some .degradedPartial)) ∧
    emitReviewPackage (Fixture.id .reviewPackage 9) (Fixture.handoff (some .degradedPartial)) =
      .ok (.emitted package) ∧
    ¬ ∃ event, recordEvent (Fixture.id .forensicEvent 9)
      ⟨.reviewPackagePrepared (Fixture.handoff (some .degradedPartial)).routeDecision package,
        .linkageOnly, ⟨Fixture.at2030 900⟩⟩ = .ok event := by
  refine ⟨_, Fixture.awaitingApproval_resolved _, rfl,
    emits_approval rfl rfl rfl (Fixture.handoff_valid _), ?_⟩
  rw [review_recorded_iff rfl]
  decide

theorem emitted_recorded_fallback : ∃ package event,
    emitReviewPackage (Fixture.id .reviewPackage 9)
      (Fixture.handoff (some .degradedFallbackLimited)) = .ok (.emitted package) ∧
    recordEvent (Fixture.id .forensicEvent 9)
      ⟨.reviewPackagePrepared (Fixture.handoff (some .degradedFallbackLimited)).routeDecision package,
        .linkageOnly, ⟨Fixture.at2030 900⟩⟩ = .ok event := by
  have he : emitReviewPackage (Fixture.id .reviewPackage 9)
      (Fixture.handoff (some .degradedFallbackLimited)) =
      .ok (.emitted ⟨_, Fixture.handoff_valid (some .degradedFallbackLimited)⟩) :=
    emits_approval rfl rfl rfl _
  obtain ⟨recordInput, hnew, hiff, -⟩ := emitted_recorded_iff rfl rfl he
    (Fixture.id .forensicEvent 9) .linkageOnly ⟨Fixture.at2030 900⟩
  obtain ⟨event, hevent⟩ := hiff.mpr (.inr rfl)
  cases hnew
  exact ⟨_, event, he, hevent⟩

end ReviewService

end FaLocal
