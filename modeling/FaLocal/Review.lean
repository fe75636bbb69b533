import FaLocal.Contracts
import FaLocal.Status
import FaLocal.Library.Words

/-!
# Review packages

The package that hands an execution to the operator, and `ReviewPackage::validate`
with its checks in the order of the source.
-/
namespace FaLocal

open Words (mentionsAny)

inductive ApprovalOption where
  | approveExecute | declineRequest | deferWithoutExecution
  deriving DecidableEq

structure ReviewExecutionStatusContext where
  state : ExecutionState
  degradedSubtype : Option DegradedSubtype
  updatedAtUtc : TimestampUtc
  truthfulUserVisibleSummary : String
  deriving DecidableEq

structure ReviewPackage where
  reviewPackageId : ReviewPackageId
  originatingRequestId : RequestId
  correlationId : CorrelationId
  routeDecisionId : RouteDecisionId
  executionPlanId : Option ExecutionPlanId
  stablePlanHash : Option String
  currentPosture : ApprovalPosture
  executionStatusContext : Option ReviewExecutionStatusContext
  intentBasis : UserIntentBasis
  requesterSummary : String
  proposedExecutionSummary : String
  sideEffectAssessment : String
  degradedOrFallbackPosture : Option DegradedSubtype
  approvalOptionsAllowedByPolicy : List ApprovalOption
  denialConsequencesIfDeclined : String
  packagedAtUtc : TimestampUtc
  deriving DecidableEq

namespace ReviewPackage

def validateRequiredSummary (summary fieldName : String) : FaLocalResult Unit :=
  require (isBoundedText summary)
    ("review package " ++ fieldName ++ " must be between 1 and 160 characters")

end ReviewPackage

namespace ReviewExecutionStatusContext

def validate (context : ReviewExecutionStatusContext) : FaLocalResult Unit := do
  ReviewPackage.validateRequiredSummary context.truthfulUserVisibleSummary
    "execution_status_context.truthful_user_visible_summary"
  require (context.state == .reviewRequired || context.state == .waitingExplicitApproval)
    "review package execution_status_context must remain review_required or waiting_explicit_approval"
  require context.degradedSubtype.isNone
    "review package execution_status_context must not imply degraded execution progress"

/-- `ReviewExecutionStatusContext::new`: its arguments as a record. -/
def new (context : ReviewExecutionStatusContext) : FaLocalResult ReviewExecutionStatusContext := do
  context.validate
  return context

end ReviewExecutionStatusContext

namespace ReviewPackage

def validateOptionalPlanLink (executionPlanId : Option ExecutionPlanId)
    (stablePlanHash : Option String) : FaLocalResult Unit :=
  require (executionPlanId.isSome == stablePlanHash.isSome)
    "review package must carry execution_plan_id and stable_plan_hash together"

def requirePlanLink (executionPlanId : Option ExecutionPlanId) (stablePlanHash : Option String)
    (message : String) : FaLocalResult Unit :=
  require (executionPlanId.isSome && stablePlanHash.isSome) message

def requireNoPlanLink (executionPlanId : Option ExecutionPlanId) (stablePlanHash : Option String)
    (message : String) : FaLocalResult Unit :=
  require (executionPlanId.isNone && stablePlanHash.isNone) message

def mentionsDegradedOrFallback (value : String) : Bool := mentionsAny value ["fallback", "degraded"]

def validateOptions (options : List ApprovalOption) : FaLocalResult Unit := do
  require (!options.isEmpty) "review package must include at least one approval option"
  require (decide options.Nodup) "review package approval options must be unique"
  require (options.contains .approveExecute)
    "review package must include approve_execute as an allowed approval option"
  require (options.contains .declineRequest)
    "review package must include decline_request as an allowed approval option"

/-- The rules of the posture that the package preserves. -/
def validatePosture (package : ReviewPackage) : FaLocalResult Unit :=
  match package.currentPosture with
  | .reviewRequired => do
    requireNoPlanLink package.executionPlanId package.stablePlanHash
      "review_required review package must not include execution_plan_id or stable_plan_hash"
    require (package.executionStatusContext.all (·.state == .reviewRequired))
      "review package execution_status_context must remain review_required for review_required posture"
  | .explicitOperatorApproval => do
    requirePlanLink package.executionPlanId package.stablePlanHash
      "explicit approval review package must include execution_plan_id and stable_plan_hash"
    require (package.executionStatusContext.all (·.state == .waitingExplicitApproval))
      "review package execution_status_context must remain waiting_explicit_approval for explicit_operator_approval posture"
  | _ => .error (.panicked "non-review postures rejected above")

def validate (package : ReviewPackage) : FaLocalResult Unit := do
  require (package.currentPosture == .reviewRequired ||
      package.currentPosture == .explicitOperatorApproval)
    "review package must preserve review_required or explicit_operator_approval posture"
  validateOptionalPlanLink package.executionPlanId package.stablePlanHash
  require (package.stablePlanHash.all isValidHash)
    "review package stable_plan_hash must be a 64-character lowercase hex digest"
  validateRequiredSummary package.requesterSummary "requester_summary"
  validateRequiredSummary package.proposedExecutionSummary "proposed_execution_summary"
  validateRequiredSummary package.sideEffectAssessment "side_effect_assessment"
  validateRequiredSummary package.denialConsequencesIfDeclined "denial_consequences_if_declined"
  validateOptions package.approvalOptionsAllowedByPolicy
  require (!((mentionsDegradedOrFallback package.proposedExecutionSummary ||
      mentionsDegradedOrFallback package.sideEffectAssessment) &&
        package.degradedOrFallbackPosture.isNone))
    "review package cannot narrate degraded or fallback posture without explicit degraded_or_fallback_posture"
  package.executionStatusContext.forM ReviewExecutionStatusContext.validate
  package.validatePosture

/-- `ReviewPackage::new`: its arguments as a record. -/
def new (package : ReviewPackage) : FaLocalResult ReviewPackage := do
  package.validate
  return package

end ReviewPackage

structure ValidatedReviewPackage where
  package : ReviewPackage
  valid : package.validate = .ok ()

def ValidatedReviewPackage.new (package : ReviewPackage) : FaLocalResult ValidatedReviewPackage :=
  match h : package.validate with
  | .ok () => .ok ⟨package, h⟩
  | .error e => .error e

theorem ValidatedReviewPackage.new_eq_ok {package : ReviewPackage} {v : ValidatedReviewPackage} :
    new package = .ok v ↔ v.package = package := by
  unfold new
  constructor
  · intro h
    split at h
    · cases h
      rfl
    · cases h
  · rintro rfl
    split
    · rfl
    · rename_i e he
      simp [v.valid] at he

/-! What a valid package has shown. -/

namespace ReviewPackage

/-- The texts of a package are bounded, and tell of a fallback only with one declared. -/
structure TextsFit (package : ReviewPackage) : Prop where
  requester : isBoundedText package.requesterSummary = true
  proposed : isBoundedText package.proposedExecutionSummary = true
  assessment : isBoundedText package.sideEffectAssessment = true
  consequences : isBoundedText package.denialConsequencesIfDeclined = true
  narrated : mentionsDegradedOrFallback package.proposedExecutionSummary = true ∨
    mentionsDegradedOrFallback package.sideEffectAssessment = true →
      package.degradedOrFallbackPosture.isSome = true

/-- A plan for an approval, none for a review, and a status of the same kind. -/
structure PostureFits (package : ReviewPackage) : Prop where
  posture : package.currentPosture = .reviewRequired ∧ package.executionPlanId = none ∧
      package.stablePlanHash = none ∨
    package.currentPosture = .explicitOperatorApproval ∧
      package.executionPlanId.isSome = true ∧ package.stablePlanHash.isSome = true
  hash : package.stablePlanHash.all isValidHash = true
  context : ∀ context, package.executionStatusContext = some context →
    context.validate = .ok () ∧
      (package.currentPosture = .reviewRequired → context.state = .reviewRequired) ∧
      (package.currentPosture = .explicitOperatorApproval →
        context.state = .waitingExplicitApproval)

theorem validatePosture_eq_ok {package : ReviewPackage} : package.validatePosture = .ok () ↔
    (package.currentPosture = .reviewRequired ∧ package.executionPlanId = none ∧
        package.stablePlanHash = none ∨
      package.currentPosture = .explicitOperatorApproval ∧
        package.executionPlanId.isSome = true ∧ package.stablePlanHash.isSome = true) ∧
    ∀ context, package.executionStatusContext = some context →
      (package.currentPosture = .reviewRequired → context.state = .reviewRequired) ∧
      (package.currentPosture = .explicitOperatorApproval →
        context.state = .waitingExplicitApproval) := by
  cases hp : package.currentPosture <;> cases hc : package.executionStatusContext <;>
    simp [validatePosture, hp, hc, seq_eq_ok, requireNoPlanLink, requirePlanLink]

theorem validateContext_eq_ok {context : Option ReviewExecutionStatusContext} :
    context.forM ReviewExecutionStatusContext.validate = .ok () ↔
      ∀ c, context = some c → c.validate = .ok () := by
  cases context with
  | none => simp [Option.forM, pure, Except.pure]
  | some c => simp [Option.forM]

theorem validate_eq_ok {package : ReviewPackage} :
    package.validate = .ok () ↔ package.TextsFit ∧
      validateOptions package.approvalOptionsAllowedByPolicy = .ok () ∧ package.PostureFits := by
  simp only [validate, seq_eq_ok, require_eq_ok, validateOptionalPlanLink,
    validateRequiredSummary, validatePosture_eq_ok, validateContext_eq_ok]
  constructor
  · rintro ⟨-, -, hhash, hrequester, hproposed, hassessment, hconsequences, hoptions, hnarrated,
      hcontext, hposture, hstates⟩
    refine ⟨⟨hrequester, hproposed, hassessment, hconsequences, fun hn => ?_⟩, hoptions,
      ⟨hposture, hhash, fun context hc => ⟨hcontext context hc, hstates context hc⟩⟩⟩
    cases hd : package.degradedOrFallbackPosture with
    | none => rcases hn with hn | hn <;> simp [hd, hn] at hnarrated
    | some subtype => rfl
  · rintro ⟨htexts, hoptions, hfits⟩
    refine ⟨?_, ?_, hfits.hash, htexts.requester, htexts.proposed, htexts.assessment,
      htexts.consequences, hoptions, ?_, fun c hc => (hfits.context c hc).1, hfits.posture,
      fun c hc => (hfits.context c hc).2⟩
    · rcases hfits.posture with ⟨hp, -⟩ | ⟨hp, -⟩ <;> simp [hp]
    · rcases hfits.posture with ⟨-, hid, hh⟩ | ⟨-, hid, hh⟩ <;> simp [hid, hh]
    · have hn := htexts.narrated
      cases hd : package.degradedOrFallbackPosture with
      | none => simpa [hd] using hn
      | some subtype => simp

end ReviewPackage

end FaLocal
