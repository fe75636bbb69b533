import FaLocal.ContractSchema
import FaLocal.Review

/-!
# The schema of a review package

A package as it is serialised, what `review-package.schema.json` asks of it, and that this
is what its validation asks, but for the rules that the schema does not state.
-/
namespace FaLocal

/-! ## Serialised packages -/

def ApprovalOption.serdeName : ApprovalOption → String
  | .approveExecute => "approve_execute"
  | .declineRequest => "decline_request"
  | .deferWithoutExecution => "defer_without_execution"

def ApprovalOption.variants : List ApprovalOption :=
  [.approveExecute, .declineRequest, .deferWithoutExecution]

theorem ApprovalOption.serdeName_inj : Function.Injective ApprovalOption.serdeName := by
  intro o o' h
  cases o <;> cases o' <;> first | rfl | exact absurd h (by decide)

theorem ApprovalOption.mem_variants (o : ApprovalOption) : o ∈ ApprovalOption.variants := by
  cases o <;> decide

def UserIntentBasis.serdeName : UserIntentBasis → String
  | .explicitUserAction => "explicit_user_action"
  | .operatorApproval => "operator_approval"

def UserIntentBasis.variants : List UserIntentBasis := [.explicitUserAction, .operatorApproval]

def ReviewExecutionStatusContext.toValue (times : DateTimes)
    (context : ReviewExecutionStatusContext) : Value := .object [
  ("state", context.state.toValue),
  ("degraded_subtype", optionValue DegradedSubtype.toValue context.degradedSubtype),
  ("updated_at_utc", .string (times.text context.updatedAtUtc)),
  ("truthful_user_visible_summary", .string context.truthfulUserVisibleSummary)]

def ReviewExecutionStatusContext.fromValue (times : TimeTexts) :
    Decoder ReviewExecutionStatusContext := fun value => do
  let state ← Decoder.field "state" .executionState value
  let degradedSubtype ← Decoder.optionalField "degraded_subtype" .degradedSubtype value
  let updatedAtUtc ← Decoder.field "updated_at_utc" (.timestamp times) value
  let truthfulUserVisibleSummary ←
    Decoder.field "truthful_user_visible_summary" .string value
  return { state, degradedSubtype, updatedAtUtc, truthfulUserVisibleSummary }

def ApprovalOption.toValue (option : ApprovalOption) : Value := .string option.serdeName

def ReviewPackage.toValue (times : DateTimes) (package : ReviewPackage) : Value := .object [
  ("review_package_id", package.reviewPackageId.toValue),
  ("originating_request_id", package.originatingRequestId.toValue),
  ("correlation_id", package.correlationId.toValue),
  ("route_decision_id", package.routeDecisionId.toValue),
  ("execution_plan_id", optionValue UuidId.toValue package.executionPlanId),
  ("stable_plan_hash", optionValue .string package.stablePlanHash),
  ("current_posture", package.currentPosture.toValue),
  ("execution_status_context", optionValue (·.toValue times) package.executionStatusContext),
  ("intent_basis", .string package.intentBasis.serdeName),
  ("requester_summary", .string package.requesterSummary),
  ("proposed_execution_summary", .string package.proposedExecutionSummary),
  ("side_effect_assessment", .string package.sideEffectAssessment),
  ("degraded_or_fallback_posture",
    optionValue DegradedSubtype.toValue package.degradedOrFallbackPosture),
  ("approval_options_allowed_by_policy",
    .array (package.approvalOptionsAllowedByPolicy.map (·.toValue))),
  ("denial_consequences_if_declined", .string package.denialConsequencesIfDeclined),
  ("packaged_at_utc", .string (times.text package.packagedAtUtc))]

def ReviewPackage.fromValue (times : TimeTexts) : Decoder ReviewPackage := fun value => do
  let reviewPackageId ← Decoder.field "review_package_id" .uuid value
  let originatingRequestId ← Decoder.field "originating_request_id" .uuid value
  let correlationId ← Decoder.field "correlation_id" .uuid value
  let routeDecisionId ← Decoder.field "route_decision_id" .uuid value
  let executionPlanId ← Decoder.optionalField "execution_plan_id" .uuid value
  let stablePlanHash ← Decoder.optionalField "stable_plan_hash" .string value
  let currentPosture ← Decoder.field "current_posture" .approvalPosture value
  let executionStatusContext ← Decoder.optionalField "execution_status_context"
    (ReviewExecutionStatusContext.fromValue times) value
  let intentBasis ← Decoder.field "intent_basis"
    (.variant UserIntentBasis.serdeName UserIntentBasis.variants) value
  let requesterSummary ← Decoder.field "requester_summary" .string value
  let proposedExecutionSummary ← Decoder.field "proposed_execution_summary" .string value
  let sideEffectAssessment ← Decoder.field "side_effect_assessment" .string value
  let degradedOrFallbackPosture ←
    Decoder.optionalField "degraded_or_fallback_posture" .degradedSubtype value
  let approvalOptionsAllowedByPolicy ← Decoder.field "approval_options_allowed_by_policy"
    (.list (.variant ApprovalOption.serdeName ApprovalOption.variants)) value
  let denialConsequencesIfDeclined ←
    Decoder.field "denial_consequences_if_declined" .string value
  let packagedAtUtc ← Decoder.field "packaged_at_utc" (.timestamp times) value
  return { reviewPackageId, originatingRequestId, correlationId, routeDecisionId,
           executionPlanId, stablePlanHash, currentPosture, executionStatusContext, intentBasis,
           requesterSummary, proposedExecutionSummary, sideEffectAssessment,
           degradedOrFallbackPosture, approvalOptionsAllowedByPolicy,
           denialConsequencesIfDeclined, packagedAtUtc }

/-! ## The schema -/

namespace ReviewPackageSchema

open Schema
open RouteDecisionSchema (uuidText degradedSubtype)

def approvalOption : Schema :=
  enum ["approve_execute", "decline_request", "defer_without_execution"]

def statusContext (times : DateTimes) : Schema := object [
  ("state", enum ["review_required", "waiting_explicit_approval"]),
  ("degraded_subtype", null),
  ("updated_at_utc", dateTime times),
  ("truthful_user_visible_summary", text 1 160)]

/-- `contains` applies to arrays only. -/
def contains (name : String) : Schema
  | .array items => items.any (enum [name])
  | _ => true

def properties (times : DateTimes) : List (String × Schema) := [
  ("review_package_id", uuidText),
  ("originating_request_id", uuidText),
  ("correlation_id", uuidText),
  ("route_decision_id", uuidText),
  ("execution_plan_id", nullable uuidText),
  ("stable_plan_hash", nullable hash),
  ("current_posture", enum ["review_required", "explicit_operator_approval"]),
  ("execution_status_context", nullable (statusContext times)),
  ("intent_basis", enum ["explicit_user_action", "operator_approval"]),
  ("requester_summary", text 1 160),
  ("proposed_execution_summary", text 1 160),
  ("side_effect_assessment", text 1 160),
  ("degraded_or_fallback_posture", nullable degradedSubtype),
  ("approval_options_allowed_by_policy", allOf [arrayOf approvalOption,
    itemCount fun n => decide (2 ≤ n) && decide (n ≤ 3), uniqueTexts]),
  ("denial_consequences_if_declined", text 1 160),
  ("packaged_at_utc", dateTime times)]

/-- A status context of one state. -/
def contextOf (times : DateTimes) (state : String) : Schema :=
  nullable (allOf [statusContext times, constrains [("state", enum [state])]])

/-- `review-package.schema.json` -/
def reviewPackage (times : DateTimes) : Schema := allOf [
  object (properties times),
  constrains [("approval_options_allowed_by_policy", contains "approve_execute")],
  constrains [("approval_options_allowed_by_policy", contains "decline_request")],
  ifConst "current_posture" "explicit_operator_approval" [
    ("execution_plan_id", uuidText),
    ("stable_plan_hash", hash),
    ("execution_status_context", contextOf times "waiting_explicit_approval")],
  ifConst "current_posture" "review_required" [
    ("execution_plan_id", null),
    ("stable_plan_hash", null),
    ("execution_status_context", contextOf times "review_required")]]

end ReviewPackageSchema

/-- `ReviewPackage::load_contract_value` -/
def ReviewPackage.loadContractValue (times : TimeTexts) : Value → Option ReviewPackage :=
  loadContract (ReviewPackageSchema.reviewPackage times.toDateTimes)
    (ReviewPackage.fromValue times)

/-- Identifiers of the versions and times of the years that contracts can write. -/
structure ReviewPackage.Writable (package : ReviewPackage) : Prop where
  reviewPackageId : package.reviewPackageId.Versioned
  originatingRequestId : package.originatingRequestId.Versioned
  correlationId : package.correlationId.Versioned
  routeDecisionId : package.routeDecisionId.Versioned
  executionPlanId : ∀ i ∈ package.executionPlanId, i.Versioned
  executionStatusContext : ∀ context ∈ package.executionStatusContext,
    FourDigitYear context.updatedAtUtc
  packagedAtUtc : FourDigitYear package.packagedAtUtc

/-! ## What the schema asks of a package -/

namespace ReviewPackageSchema

open Schema
open RouteDecisionSchema (uuidText degradedSubtype)

variable {times : TimeTexts} {package : ReviewPackage}

/-- A context before execution. -/
structure ContextFits (context : ReviewExecutionStatusContext) : Prop where
  state : context.state = .reviewRequired ∨ context.state = .waitingExplicitApproval
  subtype : context.degradedSubtype = none
  summary : text 1 160 (.string context.truthfulUserVisibleSummary) = true

theorem context_nodup : ["state", "degraded_subtype", "updated_at_utc",
    "truthful_user_visible_summary"].Nodup := by
  decide

theorem statusContext_iff (htimes : times.Rfc3339) {context : ReviewExecutionStatusContext}
    (h : FourDigitYear context.updatedAtUtc) :
    statusContext times.toDateTimes (context.toValue times.toDateTimes) = true ↔
      ContextFits context := by
  have hstate : enum ["review_required", "waiting_explicit_approval"] context.state.toValue =
      [.reviewRequired, .waitingExplicitApproval].contains context.state :=
    enum_names ExecutionState.serdeName_inj [.reviewRequired, .waitingExplicitApproval] _
  rw [statusContext, ReviewExecutionStatusContext.toValue]
  refine (object_iff (by exact rfl) (by exact context_nodup)).trans ?_
  simp only [List.forall₂_cons, hstate, null_subtypes, dateTime_text htimes h,
    List.forall₂_nil_left_iff, and_true, true_and, List.contains_iff_mem, List.mem_cons,
    List.not_mem_nil, or_false, Option.isNone_iff_eq_none]
  constructor
  · rintro ⟨h₁, h₂, h₃⟩
    exact ⟨h₁, h₂, h₃⟩
  · intro h
    exact ⟨h.state, h.subtype, h.summary⟩

theorem validate_context_iff {context : ReviewExecutionStatusContext} :
    context.validate = .ok () ↔
      ContextFits context ∧ context.truthfulUserVisibleSummary.utf8ByteSize ≤ 160 := by
  simp only [ReviewExecutionStatusContext.validate, ReviewPackage.validateRequiredSummary,
    seq_eq_ok, require_eq_ok, isBoundedText_iff_text, Bool.or_eq_true, beq_iff_eq,
    Option.isNone_iff_eq_none]
  constructor
  · rintro ⟨⟨htext, hsize⟩, hstate, hsubtype⟩
    exact ⟨⟨hstate, hsubtype, htext⟩, hsize⟩
  · rintro ⟨hfit, hsize⟩
    exact ⟨⟨hfit.summary, hsize⟩, hfit.state, hfit.subtype⟩

/-- The properties of a writable package. -/
structure PropertiesFit (package : ReviewPackage) : Prop where
  hash : package.stablePlanHash.all isValidHash = true
  posture : package.currentPosture = .reviewRequired ∨
    package.currentPosture = .explicitOperatorApproval
  context : ∀ context ∈ package.executionStatusContext, ContextFits context
  requester : text 1 160 (.string package.requesterSummary) = true
  proposed : text 1 160 (.string package.proposedExecutionSummary) = true
  assessment : text 1 160 (.string package.sideEffectAssessment) = true
  optionCount : 2 ≤ package.approvalOptionsAllowedByPolicy.length ∧
    package.approvalOptionsAllowedByPolicy.length ≤ 3
  optionsUnique : package.approvalOptionsAllowedByPolicy.Nodup
  consequences : text 1 160 (.string package.denialConsequencesIfDeclined) = true

theorem options_iff {options : List ApprovalOption} :
    allOf [arrayOf approvalOption, itemCount fun n => decide (2 ≤ n) && decide (n ≤ 3),
        uniqueTexts] (.array (options.map (·.toValue))) = true ↔
      (2 ≤ options.length ∧ options.length ≤ 3) ∧ options.Nodup := by
  have hnames : options.map (·.toValue) = (options.map ApprovalOption.serdeName).map .string := by
    rw [List.map_map]
    rfl
  have hunique : uniqueTexts (.array (options.map (·.toValue))) = true ↔ options.Nodup := by
    rw [hnames, GnatDispatchEnvelopeSchema.uniqueTexts_iff,
      List.nodup_map_iff ApprovalOption.serdeName_inj]
  have hoption : ∀ option : ApprovalOption, approvalOption option.toValue = true := by
    intro option
    cases option <;> decide
  simp only [allOf, List.all_cons, List.all_nil, Bool.and_true, hunique, arrayOf, itemCount,
    List.length_map, List.all_map, Bool.and_eq_true, decide_eq_true_eq, List.all_eq_true,
    Function.comp_apply, hoption, implies_true, true_and]

theorem contains_iff (option : ApprovalOption) (options : List ApprovalOption) :
    contains option.serdeName (.array (options.map (·.toValue))) = true ↔ option ∈ options := by
  have henum : ∀ o : ApprovalOption, enum [option.serdeName] o.toValue = true ↔ option = o := by
    intro o
    rw [show enum [option.serdeName] o.toValue = [option].contains o from
      enum_names ApprovalOption.serdeName_inj [option] o]
    simp [eq_comm]
  simp only [contains, List.any_map, List.any_eq_true, Function.comp_apply, henum,
    exists_eq_right']

/-- The validation takes the same lists of options. -/
theorem validateOptions_iff {options : List ApprovalOption} :
    ReviewPackage.validateOptions options = .ok () ↔
      ((2 ≤ options.length ∧ options.length ≤ 3) ∧ options.Nodup) ∧
        ApprovalOption.approveExecute ∈ options ∧ ApprovalOption.declineRequest ∈ options := by
  simp only [ReviewPackage.validateOptions, seq_eq_ok, require_eq_ok, Bool.not_eq_true',
    decide_eq_true_eq, List.contains_iff_mem, List.isEmpty_eq_false_iff]
  constructor
  · rintro ⟨-, hnodup, happrove, hdecline⟩
    have htwo : [ApprovalOption.approveExecute, .declineRequest].Subperm options :=
      List.subperm_of_subset (by decide) (by simp [happrove, hdecline])
    have hthree : options.Subperm ApprovalOption.variants :=
      List.subperm_of_subset hnodup fun o _ => o.mem_variants
    exact ⟨⟨⟨htwo.length_le, hthree.length_le⟩, hnodup⟩, happrove, hdecline⟩
  · rintro ⟨⟨-, hnodup⟩, happrove, hdecline⟩
    exact ⟨List.ne_nil_of_mem happrove, hnodup, happrove, hdecline⟩

theorem properties_nodup (times : DateTimes) : ((properties times).map Prod.fst).Nodup := by
  have hkeys : ["review_package_id", "originating_request_id", "correlation_id",
      "route_decision_id", "execution_plan_id", "stable_plan_hash", "current_posture",
      "execution_status_context", "intent_basis", "requester_summary",
      "proposed_execution_summary", "side_effect_assessment", "degraded_or_fallback_posture",
      "approval_options_allowed_by_policy", "denial_consequences_if_declined",
      "packaged_at_utc"].Nodup := by
    decide
  exact hkeys

theorem properties_iff (htimes : times.Rfc3339) (h : package.Writable) :
    object (properties times.toDateTimes) (package.toValue times.toDateTimes) = true ↔
      PropertiesFit package := by
  have hpackage : uuidText package.reviewPackageId.toValue = true := h.reviewPackageId
  have hrequest : uuidText package.originatingRequestId.toValue = true := h.originatingRequestId
  have hcorrelation : uuidText package.correlationId.toValue = true := h.correlationId
  have hdecision : uuidText package.routeDecisionId.toValue = true := h.routeDecisionId
  have hposture : enum ["review_required", "explicit_operator_approval"]
      package.currentPosture.toValue =
        [.reviewRequired, .explicitOperatorApproval].contains package.currentPosture :=
    enum_names ApprovalPosture.serdeName_inj [.reviewRequired, .explicitOperatorApproval] _
  have hintent : enum ["explicit_user_action", "operator_approval"]
      (.string package.intentBasis.serdeName) = true := by
    cases package.intentBasis <;> decide
  have hcontext : nullable (statusContext times.toDateTimes)
      (optionValue (·.toValue times.toDateTimes) package.executionStatusContext) = true ↔
        ∀ context ∈ package.executionStatusContext, ContextFits context := by
    rw [nullable_optionValue (fun _ => rfl) rfl, Option.all_eq_true]
    exact forall₂_congr fun context hc =>
      statusContext_iff htimes (h.executionStatusContext context hc)
  rw [properties, ReviewPackage.toValue]
  refine (object_iff (by exact rfl) (by exact properties_nodup _)).trans ?_
  simp only [List.forall₂_cons, hpackage, hrequest, hcorrelation, hdecision,
    nullable_ids h.executionPlanId, nullable_hash, hposture, hcontext, hintent, nullable_subtypes,
    options_iff, dateTime_text htimes h.packagedAtUtc, List.forall₂_nil_left_iff, and_true,
    true_and, List.contains_iff_mem, List.mem_cons, List.not_mem_nil, or_false]
  constructor
  · rintro ⟨h₁, h₂, h₃, h₄, h₅, h₆, ⟨h₇, h₈⟩, h₉⟩
    exact ⟨h₁, h₂, h₃, h₄, h₅, h₆, h₇, h₈, h₉⟩
  · intro h
    exact ⟨h.hash, h.posture, h.context, h.requester, h.proposed, h.assessment,
      ⟨h.optionCount, h.optionsUnique⟩, h.consequences⟩

/-- What the schema takes is writable. -/
theorem writable_of_accepted (htimes : times.Rfc3339)
    (h : reviewPackage times.toDateTimes (package.toValue times.toDateTimes) = true) :
    package.Writable := by
  rw [reviewPackage, allOf, List.all_cons, Bool.and_eq_true] at h
  have hobject := h.1
  rw [properties, ReviewPackage.toValue] at hobject
  have hfields := (object_iff (by exact rfl) (by exact properties_nodup _)).mp hobject
  simp only [List.forall₂_cons] at hfields
  obtain ⟨hpackage, hrequest, hcorrelation, hdecision, hplan, -, -, hcontext, -, -, -, -, -, -, -,
    htime, -⟩ := hfields
  refine ⟨hpackage, hrequest, hcorrelation, hdecision, ids_of_nullable hplan,
    fun context hc => ?_, (htimes.printable _).mp htime⟩
  rw [nullable_optionValue (fun _ => rfl) rfl, Option.all_eq_true] at hcontext
  have haccepted := hcontext context hc
  rw [statusContext, ReviewExecutionStatusContext.toValue] at haccepted
  have hparts := (object_iff (by exact rfl) (by exact context_nodup)).mp haccepted
  simp only [List.forall₂_cons] at hparts
  exact (htimes.printable _).mp hparts.2.2.1

/-- A conditional asks for a context of its own state. -/
theorem contextOf_iff (htimes : times.Rfc3339) (h : package.Writable)
    (hfit : PropertiesFit package) (state : ExecutionState) :
    contextOf times.toDateTimes state.serdeName
        (optionValue (·.toValue times.toDateTimes) package.executionStatusContext) = true ↔
      ∀ context ∈ package.executionStatusContext, context.state = state := by
  rw [contextOf, nullable_optionValue (fun _ => rfl) rfl, Option.all_eq_true]
  refine forall₂_congr fun context hc => ?_
  have hcontext : statusContext times.toDateTimes (context.toValue times.toDateTimes) = true :=
    (statusContext_iff htimes (h.executionStatusContext context hc)).mpr (hfit.context context hc)
  have hstate : constrains [("state", enum [state.serdeName])]
      (context.toValue times.toDateTimes) = [state].contains context.state := by
    rw [constrains_cons rfl, constrains_nil, Bool.and_true]
    exact enum_names ExecutionState.serdeName_inj [state] _
  rw [allOf, List.all_cons, hcontext, List.all_cons, hstate]
  simp

/-- The rules of the posture, and a context of its state. -/
theorem accepted_iff (htimes : times.Rfc3339) (h : package.Writable) :
    reviewPackage times.toDateTimes (package.toValue times.toDateTimes) = true ↔
      PropertiesFit package ∧
      (.approveExecute ∈ package.approvalOptionsAllowedByPolicy ∧
        .declineRequest ∈ package.approvalOptionsAllowedByPolicy) ∧
      (package.currentPosture = .explicitOperatorApproval →
        package.executionPlanId.isSome = true ∧ package.stablePlanHash.isSome = true ∧
          ∀ context ∈ package.executionStatusContext,
            context.state = .waitingExplicitApproval) ∧
      (package.currentPosture = .reviewRequired →
        package.executionPlanId = none ∧ package.stablePlanHash = none ∧
          ∀ context ∈ package.executionStatusContext, context.state = .reviewRequired) := by
  have hposture : (package.toValue times.toDateTimes).get "current_posture" =
      some (.string package.currentPosture.serdeName) := rfl
  have hid : (package.toValue times.toDateTimes).get "execution_plan_id" =
      some (optionValue UuidId.toValue package.executionPlanId) := rfl
  have hhash : (package.toValue times.toDateTimes).get "stable_plan_hash" =
      some (optionValue .string package.stablePlanHash) := rfl
  have hcontext : (package.toValue times.toDateTimes).get "execution_status_context" =
      some (optionValue (·.toValue times.toDateTimes) package.executionStatusContext) := rfl
  have hoptions : (package.toValue times.toDateTimes).get "approval_options_allowed_by_policy" =
      some (.array (package.approvalOptionsAllowedByPolicy.map (·.toValue))) := rfl
  have hexplicit : package.currentPosture.serdeName = "explicit_operator_approval" ↔
      package.currentPosture = .explicitOperatorApproval :=
    ApprovalPosture.serdeName_inj.eq_iff (b := .explicitOperatorApproval)
  have hreview : package.currentPosture.serdeName = "review_required" ↔
      package.currentPosture = .reviewRequired :=
    ApprovalPosture.serdeName_inj.eq_iff (b := .reviewRequired)
  rw [← properties_iff htimes h, reviewPackage, allOf, List.all_cons, Bool.and_eq_true]
  refine and_congr_right fun hobject => ?_
  have hfit := (properties_iff htimes h).mp hobject
  have happrove := contains_iff .approveExecute package.approvalOptionsAllowedByPolicy
  have hdecline := contains_iff .declineRequest package.approvalOptionsAllowedByPolicy
  have hwaiting := contextOf_iff htimes h hfit .waitingExplicitApproval
  have hrequired := contextOf_iff htimes h hfit .reviewRequired
  simp only [ApprovalOption.serdeName] at happrove hdecline
  simp only [ExecutionState.serdeName] at hwaiting hrequired
  simp only [List.all_cons, List.all_nil, Bool.and_true, Bool.and_eq_true,
    constrains_cons hoptions, constrains_nil, happrove, hdecline, ifConst_of_get hposture,
    hexplicit, hreview, constrains_cons hid, constrains_cons hhash, constrains_cons hcontext,
    required_ids h.executionPlanId, required_hash hfit.hash, null_ids, null_strings, hwaiting,
    hrequired, Option.isNone_iff_eq_none, and_assoc]

/-- The rules that the schema does not state. -/
structure BeyondSchema (package : ReviewPackage) : Prop where
  requester : package.requesterSummary.utf8ByteSize ≤ 160
  proposed : package.proposedExecutionSummary.utf8ByteSize ≤ 160
  assessment : package.sideEffectAssessment.utf8ByteSize ≤ 160
  consequences : package.denialConsequencesIfDeclined.utf8ByteSize ≤ 160
  context : ∀ context ∈ package.executionStatusContext,
    context.truthfulUserVisibleSummary.utf8ByteSize ≤ 160
  narrated : ReviewPackage.mentionsDegradedOrFallback package.proposedExecutionSummary = true ∨
    ReviewPackage.mentionsDegradedOrFallback package.sideEffectAssessment = true →
      package.degradedOrFallbackPosture.isSome = true

theorem validate_iff (htimes : times.Rfc3339) (h : package.Writable) :
    package.validate = .ok () ↔
      reviewPackage times.toDateTimes (package.toValue times.toDateTimes) = true ∧
        BeyondSchema package := by
  rw [ReviewPackage.validate_eq_ok, accepted_iff htimes h, validateOptions_iff]
  constructor
  · rintro ⟨htexts, ⟨⟨hcount, hunique⟩, hdecisions⟩, hposture⟩
    obtain ⟨hrequester, hrequesterSize⟩ := isBoundedText_iff_text.mp htexts.requester
    obtain ⟨hproposed, hproposedSize⟩ := isBoundedText_iff_text.mp htexts.proposed
    obtain ⟨hassessment, hassessmentSize⟩ := isBoundedText_iff_text.mp htexts.assessment
    obtain ⟨hconsequences, hconsequencesSize⟩ := isBoundedText_iff_text.mp htexts.consequences
    have hcontext : ∀ context ∈ package.executionStatusContext,
        ContextFits context ∧ context.truthfulUserVisibleSummary.utf8ByteSize ≤ 160 :=
      fun context hc => validate_context_iff.mp (hposture.context context hc).1
    refine ⟨⟨⟨hposture.hash, ?_, fun context hc => (hcontext context hc).1, hrequester, hproposed,
      hassessment, hcount, hunique, hconsequences⟩, hdecisions, ?_, ?_⟩, hrequesterSize,
      hproposedSize, hassessmentSize, hconsequencesSize, fun context hc => (hcontext context hc).2,
      htexts.narrated⟩
    · exact hposture.posture.imp (·.1) (·.1)
    · intro hp
      rcases hposture.posture with ⟨hr, -⟩ | ⟨-, hid, hhash⟩
      · rw [hp] at hr
        cases hr
      · exact ⟨hid, hhash, fun context hc => (hposture.context context hc).2.2 hp⟩
    · intro hp
      rcases hposture.posture with ⟨-, hid, hhash⟩ | ⟨he, -⟩
      · exact ⟨hid, hhash, fun context hc => (hposture.context context hc).2.1 hp⟩
      · rw [hp] at he
        cases he
  · rintro ⟨⟨hfit, hdecisions, hexplicit, hreview⟩, hbeyond⟩
    refine ⟨⟨isBoundedText_iff_text.mpr ⟨hfit.requester, hbeyond.requester⟩,
      isBoundedText_iff_text.mpr ⟨hfit.proposed, hbeyond.proposed⟩,
      isBoundedText_iff_text.mpr ⟨hfit.assessment, hbeyond.assessment⟩,
      isBoundedText_iff_text.mpr ⟨hfit.consequences, hbeyond.consequences⟩, hbeyond.narrated⟩,
      ⟨⟨hfit.optionCount, hfit.optionsUnique⟩, hdecisions⟩, ⟨?_, hfit.hash, fun context hc =>
        ⟨validate_context_iff.mpr ⟨hfit.context context hc, hbeyond.context context hc⟩,
          fun hp => (hreview hp).2.2 context hc, fun hp => (hexplicit hp).2.2 context hc⟩⟩⟩
    rcases hfit.posture with hp | hp
    · exact .inl ⟨hp, (hreview hp).1, (hreview hp).2.1⟩
    · exact .inr ⟨hp, (hexplicit hp).1, (hexplicit hp).2.1⟩

/-- The arm behind the check of the posture is not reached. -/
theorem validate_returns (package : ReviewPackage) : Returns package.validate := by
  have hcontext : Returns (package.executionStatusContext.forM
      ReviewExecutionStatusContext.validate) := by
    cases package.executionStatusContext with
    | none => exact returns_ok ()
    | some context =>
      exact (returns_require _ _).seq fun _ => (returns_require _ _).seq fun _ =>
        returns_require _ _
  have hoptions : Returns (ReviewPackage.validateOptions
      package.approvalOptionsAllowedByPolicy) :=
    (returns_require _ _).seq fun _ => (returns_require _ _).seq fun _ =>
      (returns_require _ _).seq fun _ => returns_require _ _
  refine (returns_require _ _).seq fun hposture => ?_
  refine (returns_require _ _).seq fun _ => (returns_require _ _).seq fun _ => ?_
  refine (returns_require _ _).seq fun _ => (returns_require _ _).seq fun _ => ?_
  refine (returns_require _ _).seq fun _ => (returns_require _ _).seq fun _ => ?_
  refine hoptions.seq fun _ => (returns_require _ _).seq fun _ => hcontext.seq fun _ => ?_
  rw [ReviewPackage.validatePosture]
  cases hp : package.currentPosture <;> rw [hp] at hposture
  case reviewRequired =>
    exact (returns_require _ _).seq fun _ => returns_require _ _
  case explicitOperatorApproval =>
    exact (returns_require _ _).seq fun _ => returns_require _ _
  all_goals cases hposture

open Decoder in
/-- A writable context is read back. -/
theorem context_fromValue_toValue (htimes : times.Rfc3339)
    {context : ReviewExecutionStatusContext} (h : FourDigitYear context.updatedAtUtc) :
    ReviewExecutionStatusContext.fromValue times (context.toValue times.toDateTimes) =
      some context := by
  rw [ReviewExecutionStatusContext.fromValue]
  refine (bind_field rfl (executionState_toValue _)).trans ?_
  refine (bind_optionalField rfl (option_subtypes _)).trans ?_
  refine (bind_field rfl (timestamp_text htimes h)).trans ?_
  refine (bind_field rfl (string_string _)).trans ?_
  rfl

open Decoder in
/-- A writable package is read back. -/
theorem fromValue_toValue (htimes : times.Rfc3339) (h : package.Writable) :
    ReviewPackage.fromValue times (package.toValue times.toDateTimes) = some package := by
  have hcontext : option (ReviewExecutionStatusContext.fromValue times)
      (optionValue (·.toValue times.toDateTimes) package.executionStatusContext) =
        some package.executionStatusContext :=
    option_optionValue (fun _ => rfl) fun context hc =>
      context_fromValue_toValue htimes (h.executionStatusContext context hc)
  have hintent : variant UserIntentBasis.serdeName UserIntentBasis.variants
      (.string package.intentBasis.serdeName) = some package.intentBasis :=
    variant_name (by decide) (by cases package.intentBasis <;> decide)
  have hoptions : list (variant ApprovalOption.serdeName ApprovalOption.variants)
      (.array (package.approvalOptionsAllowedByPolicy.map (·.toValue))) =
        some package.approvalOptionsAllowedByPolicy :=
    list_map fun option _ => variant_name (by decide) option.mem_variants
  rw [ReviewPackage.fromValue]
  refine (bind_field rfl (uuid_toValue _)).trans ?_
  refine (bind_field rfl (uuid_toValue _)).trans ?_
  refine (bind_field rfl (uuid_toValue _)).trans ?_
  refine (bind_field rfl (uuid_toValue _)).trans ?_
  refine (bind_optionalField rfl (option_ids _)).trans ?_
  refine (bind_optionalField rfl (option_strings _)).trans ?_
  refine (bind_field rfl (approvalPosture_toValue _)).trans ?_
  refine (bind_optionalField rfl hcontext).trans ?_
  refine (bind_field rfl hintent).trans ?_
  refine (bind_field rfl (string_string _)).trans ?_
  refine (bind_field rfl (string_string _)).trans ?_
  refine (bind_field rfl (string_string _)).trans ?_
  refine (bind_optionalField rfl (option_subtypes _)).trans ?_
  refine (bind_field rfl hoptions).trans ?_
  refine (bind_field rfl (string_string _)).trans ?_
  refine (bind_field rfl (timestamp_text htimes h.packagedAtUtc)).trans ?_
  rfl

end ReviewPackageSchema

open ReviewPackageSchema (reviewPackage BeyondSchema validate_iff fromValue_toValue
  validate_returns)

/-- A package is valid when the schema takes it and the further rules hold; and then it is
loaded as what it is. The validation always returns. -/
theorem ReviewPackage.package_valid_iff_accepted {times : TimeTexts} (htimes : times.Rfc3339)
    {package : ReviewPackage} (h : package.Writable) :
    Returns package.validate ∧
    (package.validate = .ok () ↔
      reviewPackage times.toDateTimes (package.toValue times.toDateTimes) = true ∧
        BeyondSchema package) ∧
    (package.validate = .ok () →
      ReviewPackage.loadContractValue times (package.toValue times.toDateTimes) =
        some package) := by
  refine ⟨validate_returns package, validate_iff htimes h, fun hvalid => ?_⟩
  exact loadContract_eq_some.mpr
    ⟨((validate_iff htimes h).mp hvalid).1, fromValue_toValue htimes h⟩

namespace Fixture

/-- The basic package of an explicit approval. -/
def reviewPackage : ReviewPackage where
  reviewPackageId := idOf .reviewPackage 0xab 0xb
  originatingRequestId := id .request 5
  correlationId := id .correlation 6
  routeDecisionId := ⟨⟨(uuid 7).bytes.setIfInBounds 15 0x73⟩⟩
  executionPlanId := some (id .executionPlan 9)
  stablePlanHash := some "a8f7e75a4a4ea309803cf16fec43a4adb788ddcaa5589d91a9c00a41a8f56df7"
  currentPosture := .explicitOperatorApproval
  executionStatusContext := some
    { state := .waitingExplicitApproval
      degradedSubtype := none
      updatedAtUtc := at2030 570
      truthfulUserVisibleSummary := "waiting for explicit operator approval" }
  intentBasis := .explicitUserAction
  requesterSummary := "trusted app surface requested a governed export write"
  proposedExecutionSummary := "bounded two-step local export plan using admitted capability only"
  sideEffectAssessment := "local_file_write only; no external network or process spawn"
  degradedOrFallbackPosture := none
  approvalOptionsAllowedByPolicy := [.approveExecute, .declineRequest]
  denialConsequencesIfDeclined :=
    "request remains denied until a new governed approval path exists"
  packagedAtUtc := at2030 570

theorem reviewPackage_writable : Fixture.reviewPackage.Writable where
  reviewPackageId := by decide +kernel
  originatingRequestId := by decide +kernel
  correlationId := by decide +kernel
  routeDecisionId := by decide +kernel
  executionPlanId := by decide +kernel
  executionStatusContext := by decide
  packagedAtUtc := by decide

theorem reviewPackage_valid : Fixture.reviewPackage.validate = .ok () := by decide +kernel

end Fixture

theorem ReviewPackage.package_valid_iff_accepted_basic :
    reviewPackage Fixture.timeTexts.toDateTimes
        (Fixture.reviewPackage.toValue Fixture.timeTexts.toDateTimes) = true ∧
      ReviewPackage.loadContractValue Fixture.timeTexts
        (Fixture.reviewPackage.toValue Fixture.timeTexts.toDateTimes) =
          some Fixture.reviewPackage := by
  obtain ⟨-, hiff, hload⟩ := ReviewPackage.package_valid_iff_accepted Fixture.timeTexts_rfc3339
    Fixture.reviewPackage_writable
  exact ⟨(hiff.mp Fixture.reviewPackage_valid).1, hload Fixture.reviewPackage_valid⟩

end FaLocal
