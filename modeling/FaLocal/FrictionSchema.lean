import FaLocal.ContractSchema
import FaLocal.Friction

/-!
# The schema of a friction payload

A payload as it is serialised, what `friction-payload.schema.json` asks of it, and that this
is what its validation asks, but for the rules that the schema does not state.
-/
namespace FaLocal

/-! ## Serialised payloads -/

def FrictionKind.serdeName : FrictionKind → String
  | .denial => "denial"
  | .reviewRequired => "review_required"
  | .explicitApprovalRequired => "explicit_approval_required"
  | .executionConstraint => "execution_constraint"

def FrictionKind.variants : List FrictionKind :=
  [.denial, .reviewRequired, .explicitApprovalRequired, .executionConstraint]

theorem FrictionKind.serdeName_inj : Function.Injective FrictionKind.serdeName := by
  intro k k' h
  cases k <;> cases k' <;> first | rfl | exact absurd h (by decide)

theorem FrictionKind.mem_variants (k : FrictionKind) : k ∈ FrictionKind.variants := by
  cases k <;> decide

def OperatorAction.serdeName : OperatorAction → String
  | .stop => "stop"
  | .review => "review"
  | .approveOrDecline => "approve_or_decline"
  | .acknowledge => "acknowledge"

def OperatorAction.variants : List OperatorAction :=
  [.stop, .review, .approveOrDecline, .acknowledge]

theorem OperatorAction.serdeName_inj : Function.Injective OperatorAction.serdeName := by
  intro a a' h
  cases a <;> cases a' <;> first | rfl | exact absurd h (by decide)

def DenialReasonClass.variants : List DenialReasonClass :=
  [.unknownRequester, .untrustedRequester, .missingPolicy, .policyDenied, .capabilityNotAdmitted,
    .contractInvalid, .integrityFailed, .dependencyUnavailable, .privacyScopeViolation,
    .reviewRequired, .unsupportedRoute, .disabledByOperator]

def DenialScope.variants : List DenialScope :=
  [.request, .capability, .route, .service, .artifact, .operation]

def DenialBasis.variants : List DenialBasis :=
  [.contract, .policy, .contractAndPolicy, .runtimeSafety]

def DenialGuard.fromValue (times : TimeTexts) : Decoder DenialGuard := fun value => do
  let reasonClass ← Decoder.field "reason_class"
    (.variant DenialReasonClass.serdeName DenialReasonClass.variants) value
  let scope ← Decoder.field "scope" (.variant DenialScope.serdeName DenialScope.variants) value
  let basis ← Decoder.field "basis" (.variant DenialBasis.serdeName DenialBasis.variants) value
  let remediable ← Decoder.field "remediable" .bool value
  let reviewAvailable ← Decoder.field "review_available" .bool value
  let summary ← Decoder.field "summary" .string value
  let timestampUtc ← Decoder.field "timestamp_utc" (.timestamp times) value
  return { reasonClass, scope, basis, remediable, reviewAvailable, summary, timestampUtc }

def FrictionPayload.toValue (times : DateTimes) (payload : FrictionPayload) : Value := .object [
  ("friction_payload_id", payload.frictionPayloadId.toValue),
  ("correlation_id", payload.correlationId.toValue),
  ("request_id", payload.requestId.toValue),
  ("friction_kind", .string payload.frictionKind.serdeName),
  ("operator_action", .string payload.operatorAction.serdeName),
  ("route_decision_id", optionValue UuidId.toValue payload.routeDecisionId),
  ("execution_plan_id", optionValue UuidId.toValue payload.executionPlanId),
  ("stable_plan_hash", optionValue .string payload.stablePlanHash),
  ("review_package_id", optionValue UuidId.toValue payload.reviewPackageId),
  ("forensic_event_id", optionValue UuidId.toValue payload.forensicEventId),
  ("current_posture", payload.currentPosture.toValue),
  ("execution_state", payload.executionState.toValue),
  ("degraded_subtype", optionValue DegradedSubtype.toValue payload.degradedSubtype),
  ("denial_guards", .array (payload.denialGuards.map (·.toValue times))),
  ("operator_visible_summary", .string payload.operatorVisibleSummary),
  ("payload_minimized", .bool payload.payloadMinimized),
  ("created_at_utc", .string (times.text payload.createdAtUtc))]

def FrictionPayload.fromValue (times : TimeTexts) : Decoder FrictionPayload := fun value => do
  let frictionPayloadId ← Decoder.field "friction_payload_id" .uuid value
  let correlationId ← Decoder.field "correlation_id" .uuid value
  let requestId ← Decoder.field "request_id" .uuid value
  let frictionKind ← Decoder.field "friction_kind"
    (.variant FrictionKind.serdeName FrictionKind.variants) value
  let operatorAction ← Decoder.field "operator_action"
    (.variant OperatorAction.serdeName OperatorAction.variants) value
  let routeDecisionId ← Decoder.optionalField "route_decision_id" .uuid value
  let executionPlanId ← Decoder.optionalField "execution_plan_id" .uuid value
  let stablePlanHash ← Decoder.optionalField "stable_plan_hash" .string value
  let reviewPackageId ← Decoder.optionalField "review_package_id" .uuid value
  let forensicEventId ← Decoder.optionalField "forensic_event_id" .uuid value
  let currentPosture ← Decoder.field "current_posture" .approvalPosture value
  let executionState ← Decoder.field "execution_state" .executionState value
  let degradedSubtype ← Decoder.optionalField "degraded_subtype" .degradedSubtype value
  let denialGuards ← Decoder.field "denial_guards" (.list (DenialGuard.fromValue times)) value
  let operatorVisibleSummary ← Decoder.field "operator_visible_summary" .string value
  let payloadMinimized ← Decoder.field "payload_minimized" .bool value
  let createdAtUtc ← Decoder.field "created_at_utc" (.timestamp times) value
  return { frictionPayloadId, correlationId, requestId, frictionKind, operatorAction,
           routeDecisionId, executionPlanId, stablePlanHash, reviewPackageId, forensicEventId,
           currentPosture, executionState, degradedSubtype, denialGuards,
           operatorVisibleSummary, payloadMinimized, createdAtUtc }

/-! ## The schema -/

namespace FrictionPayloadSchema

open Schema
open RouteDecisionSchema (uuidText approvalPosture degradedSubtype)

def frictionKind : Schema := enum ["denial", "review_required", "explicit_approval_required",
  "execution_constraint"]

def operatorAction : Schema := enum ["stop", "review", "approve_or_decline", "acknowledge"]

/-- Its summaries are longer than those of the guards of a decision. -/
def denialGuard (times : DateTimes) : Schema := object [
  ("reason_class", enum ["unknown_requester", "untrusted_requester", "missing_policy",
    "policy_denied", "capability_not_admitted", "contract_invalid", "integrity_failed",
    "dependency_unavailable", "privacy_scope_violation", "review_required", "unsupported_route",
    "disabled_by_operator"]),
  ("scope", enum ["request", "capability", "route", "service", "artifact", "operation"]),
  ("basis", enum ["contract", "policy", "contract_and_policy", "runtime_safety"]),
  ("remediable", boolean),
  ("review_available", boolean),
  ("summary", text 1 500),
  ("timestamp_utc", dateTime times)]

def properties (times : DateTimes) : List (String × Schema) := [
  ("friction_payload_id", uuidText),
  ("correlation_id", uuidText),
  ("request_id", uuidText),
  ("friction_kind", frictionKind),
  ("operator_action", operatorAction),
  ("route_decision_id", nullable uuidText),
  ("execution_plan_id", nullable uuidText),
  ("stable_plan_hash", nullable hash),
  ("review_package_id", nullable uuidText),
  ("forensic_event_id", nullable uuidText),
  ("current_posture", approvalPosture),
  ("execution_state", executionState),
  ("degraded_subtype", nullable degradedSubtype),
  ("denial_guards", allOf [arrayOf (denialGuard times), itemCount fun n => decide (n ≤ 5)]),
  ("operator_visible_summary", text 1 160),
  ("payload_minimized", constBool true),
  ("created_at_utc", dateTime times)]

/-- The `then` part of each kind of friction. -/
def kindRules : FrictionKind → List (String × Schema)
  | .denial => [
      ("operator_action", enum ["stop"]),
      ("current_posture", enum ["denied"]),
      ("execution_state", enum ["denied"]),
      ("execution_plan_id", null),
      ("stable_plan_hash", null),
      ("review_package_id", null),
      ("degraded_subtype", null),
      ("denial_guards", itemCount fun n => decide (1 ≤ n))]
  | .reviewRequired => [
      ("operator_action", enum ["review"]),
      ("route_decision_id", uuidText),
      ("current_posture", enum ["review_required"]),
      ("execution_state", enum ["review_required"]),
      ("execution_plan_id", null),
      ("stable_plan_hash", null),
      ("review_package_id", null),
      ("degraded_subtype", null),
      ("denial_guards", itemCount fun n => decide (n ≤ 0))]
  | .explicitApprovalRequired => [
      ("operator_action", enum ["approve_or_decline"]),
      ("route_decision_id", uuidText),
      ("execution_plan_id", uuidText),
      ("stable_plan_hash", hash),
      ("review_package_id", uuidText),
      ("current_posture", enum ["explicit_operator_approval"]),
      ("execution_state", enum ["waiting_explicit_approval"]),
      ("degraded_subtype", null),
      ("denial_guards", itemCount fun n => decide (n ≤ 0))]
  | .executionConstraint => [
      ("operator_action", enum ["acknowledge"]),
      ("execution_plan_id", uuidText),
      ("stable_plan_hash", hash),
      ("review_package_id", null),
      ("current_posture", admittedPosture),
      ("execution_state", enum ["degraded", "partial_success", "completed_with_constraints",
        "failed", "canceled"]),
      ("denial_guards", itemCount fun n => decide (n ≤ 0))]

/-- `friction-payload.schema.json` -/
def frictionPayload (times : DateTimes) : Schema :=
  allOf (object (properties times) :: planLinked ++ FrictionKind.variants.map fun kind =>
    ifConst "friction_kind" kind.serdeName (kindRules kind))

end FrictionPayloadSchema

/-- `FrictionPayload::load_contract_value` -/
def FrictionPayload.loadContractValue (times : TimeTexts) : Value → Option FrictionPayload :=
  loadContract (FrictionPayloadSchema.frictionPayload times.toDateTimes)
    (FrictionPayload.fromValue times)

/-- Identifiers of the versions and times of the years that contracts can write. -/
structure FrictionPayload.Writable (payload : FrictionPayload) : Prop where
  frictionPayloadId : payload.frictionPayloadId.Versioned
  correlationId : payload.correlationId.Versioned
  requestId : payload.requestId.Versioned
  routeDecisionId : ∀ i ∈ payload.routeDecisionId, i.Versioned
  executionPlanId : ∀ i ∈ payload.executionPlanId, i.Versioned
  reviewPackageId : ∀ i ∈ payload.reviewPackageId, i.Versioned
  forensicEventId : ∀ i ∈ payload.forensicEventId, i.Versioned
  denialGuards : ∀ guard ∈ payload.denialGuards, FourDigitYear guard.timestampUtc
  createdAtUtc : FourDigitYear payload.createdAtUtc

/-! ## What the schema asks of a payload -/

namespace FrictionPayloadSchema

open Schema
open RouteDecisionSchema (uuidText approvalPosture degradedSubtype)

variable {times : TimeTexts} {payload : FrictionPayload}

theorem guard_nodup : ["reason_class", "scope", "basis", "remediable", "review_available", "summary",
    "timestamp_utc"].Nodup := by
  decide

theorem denialGuard_iff (htimes : times.Rfc3339) {guard : DenialGuard}
    (h : FourDigitYear guard.timestampUtc) :
    denialGuard times.toDateTimes (guard.toValue times.toDateTimes) = true ↔
      text 1 500 (.string guard.summary) = true := by
  rw [denialGuard, DenialGuard.toValue]
  refine (object_iff (by exact rfl) (by exact guard_nodup)).trans ?_
  simp only [List.forall₂_cons, RouteDecisionSchema.reasonClass_accepted,
    RouteDecisionSchema.scope_accepted, RouteDecisionSchema.basis_accepted, boolean,
    dateTime_text htimes h, List.forall₂_nil_left_iff, and_true, true_and]

/-- The properties of a writable payload. -/
structure PropertiesFit (payload : FrictionPayload) : Prop where
  hash : payload.stablePlanHash.all isValidHash = true
  guards : ∀ guard ∈ payload.denialGuards, text 1 500 (.string guard.summary) = true
  guardCount : payload.denialGuards.length ≤ 5
  summary : text 1 160 (.string payload.operatorVisibleSummary) = true
  minimized : payload.payloadMinimized = true

theorem guards_iff (htimes : times.Rfc3339)
    (h : ∀ guard ∈ payload.denialGuards, FourDigitYear guard.timestampUtc) :
    allOf [arrayOf (denialGuard times.toDateTimes), itemCount fun n => decide (n ≤ 5)]
        (.array (payload.denialGuards.map (·.toValue times.toDateTimes))) = true ↔
      (∀ guard ∈ payload.denialGuards, text 1 500 (.string guard.summary) = true) ∧
        payload.denialGuards.length ≤ 5 := by
  simp only [allOf, List.all_cons, List.all_nil, Bool.and_true, Bool.and_eq_true, arrayOf,
    itemCount, List.length_map, decide_eq_true_eq, List.all_map, List.all_eq_true,
    Function.comp_apply]
  refine and_congr_left fun _ => forall₂_congr fun guard hguard => ?_
  exact denialGuard_iff htimes (h guard hguard)

theorem properties_nodup (times : DateTimes) : ((properties times).map Prod.fst).Nodup := by
  have hkeys : ["friction_payload_id", "correlation_id", "request_id", "friction_kind",
      "operator_action", "route_decision_id", "execution_plan_id", "stable_plan_hash",
      "review_package_id", "forensic_event_id", "current_posture", "execution_state",
      "degraded_subtype", "denial_guards", "operator_visible_summary", "payload_minimized",
      "created_at_utc"].Nodup := by
    decide
  exact hkeys

theorem properties_iff (htimes : times.Rfc3339) (h : payload.Writable) :
    object (properties times.toDateTimes) (payload.toValue times.toDateTimes) = true ↔
      PropertiesFit payload := by
  have hpayload : uuidText payload.frictionPayloadId.toValue = true := h.frictionPayloadId
  have hcorrelation : uuidText payload.correlationId.toValue = true := h.correlationId
  have hrequest : uuidText payload.requestId.toValue = true := h.requestId
  have hkind : frictionKind (.string payload.frictionKind.serdeName) = true := by
    cases payload.frictionKind <;> decide
  have haction : operatorAction (.string payload.operatorAction.serdeName) = true := by
    cases payload.operatorAction <;> decide
  rw [properties, FrictionPayload.toValue]
  refine (object_iff (by exact rfl) (by exact properties_nodup _)).trans ?_
  simp only [List.forall₂_cons, hpayload, hcorrelation, hrequest, hkind, haction,
    nullable_ids h.routeDecisionId, nullable_ids h.executionPlanId, nullable_hash,
    nullable_ids h.reviewPackageId, nullable_ids h.forensicEventId,
    RouteDecisionSchema.posture_accepted, executionState_accepted, nullable_subtypes,
    guards_iff htimes h.denialGuards, constBool, beq_iff_eq, dateTime_text htimes h.createdAtUtc,
    List.forall₂_nil_left_iff, and_true, true_and]
  constructor
  · rintro ⟨h₁, ⟨h₂, h₃⟩, h₄, h₅⟩
    exact ⟨h₁, h₂, h₃, h₄, h₅⟩
  · intro h
    exact ⟨h.hash, ⟨h.guards, h.guardCount⟩, h.summary, h.minimized⟩

/-- What the schema takes is writable. -/
theorem writable_of_accepted (htimes : times.Rfc3339)
    (h : frictionPayload times.toDateTimes (payload.toValue times.toDateTimes) = true) :
    payload.Writable := by
  rw [frictionPayload, allOf, List.cons_append, List.all_cons, Bool.and_eq_true] at h
  have hobject := h.1
  rw [properties, FrictionPayload.toValue] at hobject
  have hfields := (object_iff (by exact rfl) (by exact properties_nodup _)).mp hobject
  simp only [List.forall₂_cons] at hfields
  obtain ⟨hpayload, hcorrelation, hrequest, -, -, hdecision, hplan, -, hpackage, hevent, -, -, -,
    hguards, -, -, htime, -⟩ := hfields
  refine ⟨hpayload, hcorrelation, hrequest, ids_of_nullable hdecision, ids_of_nullable hplan,
    ids_of_nullable hpackage, ids_of_nullable hevent, fun guard hguard => ?_,
    (htimes.printable _).mp htime⟩
  simp only [allOf, List.all_cons, Bool.and_eq_true, arrayOf, List.all_map, List.all_eq_true]
    at hguards
  have haccepted := hguards.1 guard hguard
  rw [Function.comp_apply, denialGuard, DenialGuard.toValue] at haccepted
  have hparts := (object_iff (by exact rfl) (by exact guard_nodup)).mp haccepted
  simp only [List.forall₂_cons] at hparts
  exact (htimes.printable _).mp hparts.2.2.2.2.2.2.1

/-- What a degraded subtype may be in a state. -/
def SubtypeFits (state : ExecutionState) (subtype : Option DegradedSubtype) : Prop :=
  match state with
  | .degraded | .partialSuccess => subtype.isSome = true
  | .completedWithConstraints => isExplicitFallbackSubtype subtype = true
  | _ => subtype = none

/-- The rules that the schema does not state. -/
structure BeyondSchema (payload : FrictionPayload) : Prop where
  summary : payload.operatorVisibleSummary.utf8ByteSize ≤ 160
  silent : FrictionPayload.mentionsSemanticOrWorkflowNarration payload.operatorVisibleSummary =
    false
  guards : ∀ guard ∈ payload.denialGuards, guard.summary.utf8ByteSize ≤ 500
  subtype : SubtypeFits payload.executionState payload.degradedSubtype

theorem subtype_iff : FrictionPayload.validateDegradedSubtype payload.executionState
    payload.degradedSubtype = .ok () ↔
      SubtypeFits payload.executionState payload.degradedSubtype := by
  have hsome : isExplicitFallbackSubtype payload.degradedSubtype = true →
      payload.degradedSubtype.isSome = true := by
    intro h
    cases hs : payload.degradedSubtype with
    | none =>
      rw [hs] at h
      cases h
    | some subtype => rfl
  cases payload.executionState
  all_goals
    simp only [FrictionPayload.validateDegradedSubtype, SubtypeFits, FrictionPayload.requireSome,
      FrictionPayload.requireNone, seq_eq_ok, require_eq_ok, Option.isNone_iff_eq_none]
  exact and_iff_right_of_imp hsome

theorem validateDenialGuards_iff : FrictionPayload.validateDenialGuards payload.denialGuards =
    .ok () ↔ ((∀ guard ∈ payload.denialGuards, text 1 500 (.string guard.summary) = true) ∧
      payload.denialGuards.length ≤ 5) ∧
        ∀ guard ∈ payload.denialGuards, guard.summary.utf8ByteSize ≤ 500 := by
  have hguard : ∀ guard : DenialGuard, FrictionPayload.validateGuardSummary guard = .ok () ↔
      text 1 500 (.string guard.summary) = true ∧ guard.summary.utf8ByteSize ≤ 500 := by
    intro guard
    rw [← text_iff, FrictionPayload.validateGuardSummary, require_eq_ok, Bool.and_eq_true,
      decide_eq_true_eq, Bool.not_eq_true', Bool.eq_false_iff, ne_eq, String.isEmpty_iff,
      ← String.utf8ByteSize_eq_zero_iff]
    omega
  rw [FrictionPayload.validateDenialGuards, seq_eq_ok, require_eq_ok, ExecutionPlanValidator.forM_eq_ok,
    decide_eq_true_eq]
  simp only [hguard, forall_and]
  tauto

/-- What a conditional asks of its kind is what the validation asks of it. -/
theorem kindRules_iff (h : payload.Writable) (hfit : PropertiesFit payload) :
    constrains (kindRules payload.frictionKind) (payload.toValue times.toDateTimes) = true ↔
      payload.validateKind = .ok () := by
  have hstate : ∀ allowed : List ExecutionState,
      enum (allowed.map ExecutionState.serdeName) payload.executionState.toValue =
        allowed.contains payload.executionState := by
    intro allowed
    exact enum_names ExecutionState.serdeName_inj allowed _
  have haction : ∀ action : OperatorAction,
      enum [action.serdeName] (.string payload.operatorAction.serdeName) =
        [action].contains payload.operatorAction := by
    intro action
    exact enum_names OperatorAction.serdeName_inj [action] _
  have hdenied : enum ["denied"] payload.executionState.toValue =
      [.denied].contains payload.executionState := hstate [.denied]
  have hreview : enum ["review_required"] payload.executionState.toValue =
      [.reviewRequired].contains payload.executionState := hstate [.reviewRequired]
  have hwaiting : enum ["waiting_explicit_approval"] payload.executionState.toValue =
      [.waitingExplicitApproval].contains payload.executionState :=
    hstate [.waitingExplicitApproval]
  have hconstrained : enum ["degraded", "partial_success", "completed_with_constraints",
      "failed", "canceled"] payload.executionState.toValue =
      [.degraded, .partialSuccess, .completedWithConstraints, .failed, .canceled].contains
        payload.executionState :=
    hstate [.degraded, .partialSuccess, .completedWithConstraints, .failed, .canceled]
  have hstop : enum ["stop"] (.string payload.operatorAction.serdeName) =
      [.stop].contains payload.operatorAction := haction .stop
  have hlook : enum ["review"] (.string payload.operatorAction.serdeName) =
      [.review].contains payload.operatorAction := haction .review
  have hdecide : enum ["approve_or_decline"] (.string payload.operatorAction.serdeName) =
      [.approveOrDecline].contains payload.operatorAction := haction .approveOrDecline
  have hacknowledge : enum ["acknowledge"] (.string payload.operatorAction.serdeName) =
      [.acknowledge].contains payload.operatorAction := haction .acknowledge
  have hsome : decide (1 ≤ payload.denialGuards.length) = !payload.denialGuards.isEmpty := by
    cases payload.denialGuards <;> simp
  have hempty : decide (payload.denialGuards.length ≤ 0) = payload.denialGuards.isEmpty := by
    cases payload.denialGuards <;> simp
  cases hk : payload.frictionKind
  all_goals
    simp only [kindRules, constrains, List.all_cons, List.all_nil, Bool.and_true,
      FrictionPayload.toValue, Value.get, List.lookup_cons, String.reduceBEq, Option.all_some,
      required_ids h.routeDecisionId, required_ids h.executionPlanId,
      required_ids h.reviewPackageId, required_hash hfit.hash, null_ids, null_strings,
      null_subtypes, posture_denied, posture_reviewRequired, posture_explicitApproval,
      admittedPosture_toValue, hdenied, hreview, hwaiting, hconstrained, hstop, hlook, hdecide,
      hacknowledge, itemCount, List.length_map, hsome, hempty, Bool.and_eq_true,
      FrictionPayload.validateKind, hk, FrictionPayload.requireAction,
      FrictionPayload.requirePosture, FrictionPayload.requireState,
      FrictionPayload.requireNonEmptyDenialGuards, FrictionPayload.requireEmptyDenialGuards,
      FrictionPayload.requireNone, FrictionPayload.requireSome, seq_eq_ok, require_eq_ok]
    tauto

/-- The posture and the state that a kind asks for fit each other. -/
theorem posturePair_of_kind (h : payload.validateKind = .ok ()) :
    FrictionPayload.validatePostureStatePair payload.currentPosture payload.executionState =
      .ok () := by
  cases hk : payload.frictionKind
  all_goals
    simp only [FrictionPayload.validateKind, hk, FrictionPayload.requirePosture,
      FrictionPayload.requireState, seq_eq_ok, require_eq_ok] at h
    obtain ⟨-, hposture, hstate, -⟩ := h
    cases hs : payload.executionState <;> rw [hs] at hstate <;> first
      | exact absurd hstate (by decide)
      | simpa [FrictionPayload.validatePostureStatePair, FrictionPayload.requirePosture]
          using hposture

theorem accepted_iff (htimes : times.Rfc3339) (h : payload.Writable) :
    frictionPayload times.toDateTimes (payload.toValue times.toDateTimes) = true ↔
      PropertiesFit payload ∧ payload.executionPlanId.isSome = payload.stablePlanHash.isSome ∧
        constrains (kindRules payload.frictionKind) (payload.toValue times.toDateTimes) =
          true := by
  have hkind : (payload.toValue times.toDateTimes).get "friction_kind" =
      some (.string payload.frictionKind.serdeName) := rfl
  rw [← properties_iff htimes h, ← allOf_ifConst FrictionKind.serdeName_inj
    payload.frictionKind.mem_variants hkind, frictionPayload, allOf, List.all_append,
    List.all_cons, Bool.and_eq_true, Bool.and_eq_true, and_assoc]
  refine and_congr_right fun hobject => and_congr_left fun _ => ?_
  exact planLinked_iff rfl rfl h.executionPlanId ((properties_iff htimes h).mp hobject).hash

theorem validate_iff (htimes : times.Rfc3339) (h : payload.Writable) :
    payload.validate = .ok () ↔
      frictionPayload times.toDateTimes (payload.toValue times.toDateTimes) = true ∧
        BeyondSchema payload := by
  simp only [FrictionPayload.validate, seq_eq_ok, FrictionPayload.validateRequiredSummary,
    FrictionPayload.validateOptionalPlanLink, require_eq_ok, isBoundedText_iff_text, beq_iff_eq,
    validateDenialGuards_iff, subtype_iff, Bool.not_eq_true', accepted_iff htimes h]
  constructor
  · rintro ⟨⟨htext, hsize⟩, hlinked, ⟨⟨hguards, hcount⟩, hguardSizes⟩, -, hsubtype, hminimized,
      hhash, hsilent, hkind⟩
    have hfit : PropertiesFit payload := ⟨hhash, hguards, hcount, htext, hminimized⟩
    exact ⟨⟨hfit, hlinked, (kindRules_iff h hfit).mpr hkind⟩, hsize, hsilent, hguardSizes,
      hsubtype⟩
  · rintro ⟨⟨hfit, hlinked, hrules⟩, hbeyond⟩
    have hkind := (kindRules_iff h hfit).mp hrules
    exact ⟨⟨hfit.summary, hbeyond.summary⟩, hlinked, ⟨⟨hfit.guards, hfit.guardCount⟩,
      hbeyond.guards⟩, posturePair_of_kind hkind, hbeyond.subtype, hfit.minimized, hfit.hash,
      hbeyond.silent, hkind⟩

open Decoder in
/-- A writable guard is read back. -/
theorem guard_fromValue_toValue (htimes : times.Rfc3339) {guard : DenialGuard}
    (h : FourDigitYear guard.timestampUtc) :
    DenialGuard.fromValue times (guard.toValue times.toDateTimes) = some guard := by
  have hreason : variant DenialReasonClass.serdeName DenialReasonClass.variants
      (.string guard.reasonClass.serdeName) = some guard.reasonClass :=
    variant_name (by decide) (by cases guard.reasonClass <;> decide)
  have hscope : variant DenialScope.serdeName DenialScope.variants
      (.string guard.scope.serdeName) = some guard.scope :=
    variant_name (by decide) (by cases guard.scope <;> decide)
  have hbasis : variant DenialBasis.serdeName DenialBasis.variants
      (.string guard.basis.serdeName) = some guard.basis :=
    variant_name (by decide) (by cases guard.basis <;> decide)
  rw [DenialGuard.fromValue]
  refine (bind_field rfl hreason).trans ?_
  refine (bind_field rfl hscope).trans ?_
  refine (bind_field rfl hbasis).trans ?_
  refine (bind_field rfl (bool_bool _)).trans ?_
  refine (bind_field rfl (bool_bool _)).trans ?_
  refine (bind_field rfl (string_string _)).trans ?_
  refine (bind_field rfl (timestamp_text htimes h)).trans ?_
  rfl

open Decoder in
/-- A writable payload is read back. -/
theorem fromValue_toValue (htimes : times.Rfc3339) (h : payload.Writable) :
    FrictionPayload.fromValue times (payload.toValue times.toDateTimes) = some payload := by
  have hkind : variant FrictionKind.serdeName FrictionKind.variants
      (.string payload.frictionKind.serdeName) = some payload.frictionKind :=
    variant_name (by decide) payload.frictionKind.mem_variants
  have haction : variant OperatorAction.serdeName OperatorAction.variants
      (.string payload.operatorAction.serdeName) = some payload.operatorAction :=
    variant_name (by decide) (by cases payload.operatorAction <;> decide)
  have hguards : list (DenialGuard.fromValue times)
      (.array (payload.denialGuards.map (·.toValue times.toDateTimes))) =
        some payload.denialGuards :=
    list_map fun guard hguard => guard_fromValue_toValue htimes (h.denialGuards guard hguard)
  rw [FrictionPayload.fromValue]
  refine (bind_field rfl (uuid_toValue _)).trans ?_
  refine (bind_field rfl (uuid_toValue _)).trans ?_
  refine (bind_field rfl (uuid_toValue _)).trans ?_
  refine (bind_field rfl hkind).trans ?_
  refine (bind_field rfl haction).trans ?_
  refine (bind_optionalField rfl (option_ids _)).trans ?_
  refine (bind_optionalField rfl (option_ids _)).trans ?_
  refine (bind_optionalField rfl (option_strings _)).trans ?_
  refine (bind_optionalField rfl (option_ids _)).trans ?_
  refine (bind_optionalField rfl (option_ids _)).trans ?_
  refine (bind_field rfl (approvalPosture_toValue _)).trans ?_
  refine (bind_field rfl (executionState_toValue _)).trans ?_
  refine (bind_optionalField rfl (option_subtypes _)).trans ?_
  refine (bind_field rfl hguards).trans ?_
  refine (bind_field rfl (string_string _)).trans ?_
  refine (bind_field rfl (bool_bool _)).trans ?_
  refine (bind_field rfl (timestamp_text htimes h.createdAtUtc)).trans ?_
  rfl

end FrictionPayloadSchema

open FrictionPayloadSchema (frictionPayload BeyondSchema validate_iff fromValue_toValue)

/-- A payload is valid when the schema takes it and the further rules hold; and then it is
loaded as what it is. -/
theorem FrictionPayload.payload_valid_iff_accepted {times : TimeTexts} (htimes : times.Rfc3339)
    {payload : FrictionPayload} (h : payload.Writable) :
    (payload.validate = .ok () ↔
      frictionPayload times.toDateTimes (payload.toValue times.toDateTimes) = true ∧
        BeyondSchema payload) ∧
    (payload.validate = .ok () →
      FrictionPayload.loadContractValue times (payload.toValue times.toDateTimes) =
        some payload) := by
  refine ⟨validate_iff htimes h, fun hvalid => ?_⟩
  exact loadContract_eq_some.mpr
    ⟨((validate_iff htimes h).mp hvalid).1, fromValue_toValue htimes h⟩

namespace Fixture

/-- The basic payload of a denial. -/
def denialFriction : FrictionPayload where
  frictionPayloadId := idOf .frictionPayload 0xc1 0xc
  correlationId := id .correlation 6
  requestId := id .request 5
  frictionKind := .denial
  operatorAction := .stop
  routeDecisionId := none
  executionPlanId := none
  stablePlanHash := none
  reviewPackageId := none
  forensicEventId := some (idOf .forensicEvent 0xf0 0xf)
  currentPosture := .denied
  executionState := .denied
  degradedSubtype := none
  denialGuards := [deny (at2030 0) .unknownRequester .request .runtimeSafety
    "unknown requester denied"]
  operatorVisibleSummary := "request denied due to missing trust basis"
  payloadMinimized := true
  createdAtUtc := at2030 511

theorem denialFriction_writable : denialFriction.Writable where
  frictionPayloadId := by decide +kernel
  correlationId := by decide +kernel
  requestId := by decide +kernel
  routeDecisionId := by decide
  executionPlanId := by decide
  reviewPackageId := by decide
  forensicEventId := by decide +kernel
  denialGuards := by decide
  createdAtUtc := by decide

theorem denialFriction_valid : denialFriction.validate = .ok () := by decide +kernel

end Fixture

theorem FrictionPayload.payload_valid_iff_accepted_basic :
    frictionPayload Fixture.timeTexts.toDateTimes
        (Fixture.denialFriction.toValue Fixture.timeTexts.toDateTimes) = true ∧
      FrictionPayload.loadContractValue Fixture.timeTexts
        (Fixture.denialFriction.toValue Fixture.timeTexts.toDateTimes) =
          some Fixture.denialFriction := by
  obtain ⟨hiff, hload⟩ := FrictionPayload.payload_valid_iff_accepted Fixture.timeTexts_rfc3339
    Fixture.denialFriction_writable
  exact ⟨(hiff.mp Fixture.denialFriction_valid).1, hload Fixture.denialFriction_valid⟩

end FaLocal
