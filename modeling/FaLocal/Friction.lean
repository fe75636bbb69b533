import FaLocal.Forensics

/-!
# Friction payloads

`FrictionPayload::validate` with its checks in the order of the source: what holds of every
payload, and what its kind asks for.
-/
namespace FaLocal

open Words (mentionsAny)

abbrev FrictionPayloadId := UuidId .frictionPayload

inductive FrictionKind where
  | denial | reviewRequired | explicitApprovalRequired | executionConstraint
  deriving DecidableEq

inductive OperatorAction where
  | stop | review | approveOrDecline | acknowledge
  deriving DecidableEq

structure FrictionPayload where
  frictionPayloadId : FrictionPayloadId
  correlationId : CorrelationId
  requestId : RequestId
  frictionKind : FrictionKind
  operatorAction : OperatorAction
  routeDecisionId : Option RouteDecisionId
  executionPlanId : Option ExecutionPlanId
  stablePlanHash : Option String
  reviewPackageId : Option ReviewPackageId
  forensicEventId : Option ForensicEventId
  currentPosture : ApprovalPosture
  executionState : ExecutionState
  degradedSubtype : Option DegradedSubtype
  denialGuards : List DenialGuard
  operatorVisibleSummary : String
  payloadMinimized : Bool
  createdAtUtc : TimestampUtc
  deriving DecidableEq

namespace FrictionPayload

def requirePosture (posture : ApprovalPosture) (allowed : List ApprovalPosture)
    (message : String) : FaLocalResult Unit :=
  require (allowed.contains posture) message

def requireState (state : ExecutionState) (allowed : List ExecutionState) (message : String) :
    FaLocalResult Unit :=
  require (allowed.contains state) message

def requireAction (action : OperatorAction) (allowed : List OperatorAction) (message : String) :
    FaLocalResult Unit :=
  require (allowed.contains action) message

def requireNonEmptyDenialGuards (denialGuards : List DenialGuard) (message : String) :
    FaLocalResult Unit :=
  require (!denialGuards.isEmpty) message

def requireEmptyDenialGuards (denialGuards : List DenialGuard) (message : String) :
    FaLocalResult Unit :=
  require denialGuards.isEmpty message

def requireNone {β : Type} (value : Option β) (message : String) : FaLocalResult Unit :=
  require value.isNone message

def requireSome {β : Type} (value : Option β) (message : String) : FaLocalResult Unit :=
  require value.isSome message

def validateRequiredSummary (summary : String) : FaLocalResult Unit :=
  require (isBoundedText summary)
    "friction payload operator_visible_summary must be between 1 and 160 characters"

def validateOptionalPlanLink (executionPlanId : Option ExecutionPlanId)
    (stablePlanHash : Option String) : FaLocalResult Unit :=
  require (executionPlanId.isSome == stablePlanHash.isSome)
    "friction payload execution_plan_id and stable_plan_hash must be present together or absent together"

/-- The check of one guard in the loop of `validate_denial_guards`. -/
def validateGuardSummary (guard : DenialGuard) : FaLocalResult Unit :=
  require (!guard.summary.isEmpty && guard.summary.utf8ByteSize ≤ 500)
    "friction payload denial guard summaries must be between 1 and 500 characters"

def validateDenialGuards (denialGuards : List DenialGuard) : FaLocalResult Unit := do
  require (denialGuards.length ≤ 5) "friction payload denial_guards must contain at most 5 items"
  denialGuards.forM validateGuardSummary

def validatePostureStatePair (currentPosture : ApprovalPosture)
    (executionState : ExecutionState) : FaLocalResult Unit :=
  match executionState with
  | .denied => requirePosture currentPosture [.denied]
      "denied friction payload state must use denied posture"
  | .reviewRequired => requirePosture currentPosture [.reviewRequired]
      "review_required friction payload state must use review_required posture"
  | .waitingExplicitApproval => requirePosture currentPosture [.explicitOperatorApproval]
      "waiting_explicit_approval friction payload state must use explicit_operator_approval posture"
  | .degraded | .partialSuccess | .completedWithConstraints | .failed | .canceled =>
    requirePosture currentPosture [.policyPreapproved, .executeAllowed]
      "constrained friction payload states must use policy_preapproved or execute_allowed posture"
  | .admittedNotStarted | .inProgress | .completed => .error (contractInvalid
      "friction payload execution_state must represent active friction, not friction-free execution")

def validateDegradedSubtype (executionState : ExecutionState)
    (degradedSubtype : Option DegradedSubtype) : FaLocalResult Unit :=
  match executionState with
  | .degraded | .partialSuccess => requireSome degradedSubtype
      "constrained friction payload must include degraded_subtype for degraded or partial_success state"
  | .completedWithConstraints => do
    requireSome degradedSubtype
      "completed_with_constraints friction payload must include an explicit fallback degraded_subtype"
    require (isExplicitFallbackSubtype degradedSubtype)
      "completed_with_constraints friction payload must include an explicit fallback degraded_subtype"
  | _ => requireNone degradedSubtype
      "friction payload must not include degraded_subtype for this execution_state"

def mentionsSemanticOrWorkflowNarration (value : String) : Bool :=
  mentionsAny value ["planner", "workflow", "semantic", "next step"]

/-- The last match of `validate`. -/
def validateKind (payload : FrictionPayload) : FaLocalResult Unit :=
  match payload.frictionKind with
  | .denial => do
    requireAction payload.operatorAction [.stop]
      "denial friction payload must use stop operator_action"
    requirePosture payload.currentPosture [.denied]
      "denial friction payload must use denied posture"
    requireState payload.executionState [.denied]
      "denial friction payload must use denied execution_state"
    requireNonEmptyDenialGuards payload.denialGuards
      "denial friction payload must include at least one denial guard"
    requireNone payload.executionPlanId
      "denial friction payload must not include execution_plan_id"
    requireNone payload.stablePlanHash
      "denial friction payload must not include stable_plan_hash"
    requireNone payload.reviewPackageId
      "denial friction payload must not include review_package_id"
    requireNone payload.degradedSubtype
      "denial friction payload must not include degraded_subtype"
  | .reviewRequired => do
    requireAction payload.operatorAction [.review]
      "review_required friction payload must use review operator_action"
    requirePosture payload.currentPosture [.reviewRequired]
      "review_required friction payload must use review_required posture"
    requireState payload.executionState [.reviewRequired]
      "review_required friction payload must use review_required execution_state"
    requireSome payload.routeDecisionId
      "review_required friction payload must include route_decision_id"
    requireEmptyDenialGuards payload.denialGuards
      "review_required friction payload must not include denial guards"
    requireNone payload.executionPlanId
      "review_required friction payload must not include execution_plan_id"
    requireNone payload.stablePlanHash
      "review_required friction payload must not include stable_plan_hash"
    requireNone payload.reviewPackageId
      "review_required friction payload must not include review_package_id"
    requireNone payload.degradedSubtype
      "review_required friction payload must not include degraded_subtype"
  | .explicitApprovalRequired => do
    requireAction payload.operatorAction [.approveOrDecline]
      "explicit_approval_required friction payload must use approve_or_decline operator_action"
    requirePosture payload.currentPosture [.explicitOperatorApproval]
      "explicit_approval_required friction payload must use explicit_operator_approval posture"
    requireState payload.executionState [.waitingExplicitApproval]
      "explicit_approval_required friction payload must use waiting_explicit_approval execution_state"
    requireSome payload.routeDecisionId
      "explicit_approval_required friction payload must include route_decision_id"
    requireSome payload.executionPlanId
      "explicit_approval_required friction payload must include execution_plan_id"
    requireSome payload.stablePlanHash
      "explicit_approval_required friction payload must include stable_plan_hash"
    requireSome payload.reviewPackageId
      "explicit_approval_required friction payload must include review_package_id"
    requireEmptyDenialGuards payload.denialGuards
      "explicit_approval_required friction payload must not include denial guards"
    requireNone payload.degradedSubtype
      "explicit_approval_required friction payload must not include degraded_subtype"
  | .executionConstraint => do
    requireAction payload.operatorAction [.acknowledge]
      "execution_constraint friction payload must use acknowledge operator_action"
    requirePosture payload.currentPosture [.policyPreapproved, .executeAllowed]
      "execution_constraint friction payload must use policy_preapproved or execute_allowed posture"
    requireState payload.executionState
      [.degraded, .partialSuccess, .completedWithConstraints, .failed, .canceled]
      "execution_constraint friction payload must use a constrained execution_state"
    requireSome payload.executionPlanId
      "execution_constraint friction payload must include execution_plan_id"
    requireSome payload.stablePlanHash
      "execution_constraint friction payload must include stable_plan_hash"
    requireEmptyDenialGuards payload.denialGuards
      "execution_constraint friction payload must not include denial guards"
    requireNone payload.reviewPackageId
      "execution_constraint friction payload must not include review_package_id"

def validate (payload : FrictionPayload) : FaLocalResult Unit := do
  validateRequiredSummary payload.operatorVisibleSummary
  validateOptionalPlanLink payload.executionPlanId payload.stablePlanHash
  validateDenialGuards payload.denialGuards
  validatePostureStatePair payload.currentPosture payload.executionState
  validateDegradedSubtype payload.executionState payload.degradedSubtype
  require payload.payloadMinimized
    "friction payload payload_minimized must remain true for bounded friction"
  require (payload.stablePlanHash.all isValidHash)
    "friction payload stable_plan_hash must be a 64-character lowercase hex digest"
  require (!mentionsSemanticOrWorkflowNarration payload.operatorVisibleSummary)
    "friction payload summary must not narrate planner, workflow, or semantic interpretation"
  validateKind payload

end FrictionPayload

end FaLocal
