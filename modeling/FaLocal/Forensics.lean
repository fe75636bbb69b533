import FaLocal.PostureLaws
import FaLocal.Review

/-!
# Forensic events and their recorder

`ForensicEvent::validate` and the recorder of route decisions, review packages and
observed execution statuses, with its rules about the words a summary may use.
-/
namespace FaLocal

open Words (mentionsAny)

inductive ForensicEventType where
  | denialIssued | routeDecisionResolved | reviewPackagePrepared | executionStatusObserved
  deriving DecidableEq

inductive RedactionLevel where
  | none | sensitiveFieldsRedacted | linkageOnly
  deriving DecidableEq

structure ForensicEvent where
  forensicEventId : ForensicEventId
  correlationId : CorrelationId
  requestId : RequestId
  eventType : ForensicEventType
  routeDecisionId : Option RouteDecisionId
  executionPlanId : Option ExecutionPlanId
  stablePlanHash : Option String
  reviewPackageId : Option ReviewPackageId
  timestampUtc : TimestampUtc
  currentPosture : ApprovalPosture
  executionState : ExecutionState
  degradedSubtype : Option DegradedSubtype
  summary : String
  redactionLevel : RedactionLevel
  payloadMinimized : Bool
  deriving DecidableEq

/-- The states of an execution that was admitted. -/
def admittedStates : List ExecutionState :=
  [.admittedNotStarted, .inProgress, .degraded, .partialSuccess, .completedWithConstraints,
    .completed, .failed, .canceled]

def isExplicitFallbackSubtype : Option DegradedSubtype → Bool
  | some .degradedFallbackEquivalent | some .degradedFallbackLimited => true
  | _ => false

namespace ForensicEvent

def requirePosture (posture : ApprovalPosture) (allowed : List ApprovalPosture)
    (message : String) : FaLocalResult Unit :=
  require (allowed.contains posture) message

def requireState (state : ExecutionState) (allowed : List ExecutionState) (message : String) :
    FaLocalResult Unit :=
  require (allowed.contains state) message

def requireNone {β : Type} (value : Option β) (message : String) : FaLocalResult Unit :=
  require value.isNone message

def requireSome {β : Type} (value : Option β) (message : String) : FaLocalResult Unit :=
  require value.isSome message

def validateRequiredSummary (summary : String) : FaLocalResult Unit :=
  require (isBoundedText summary) "forensic event summary must be between 1 and 160 characters"

def validateOptionalPlanLink (executionPlanId : Option ExecutionPlanId)
    (stablePlanHash : Option String) : FaLocalResult Unit :=
  require (executionPlanId.isSome == stablePlanHash.isSome)
    "forensic event execution_plan_id and stable_plan_hash must be present together or absent together"

def validateReviewPackageLinkage (event : ForensicEvent) : FaLocalResult Unit :=
  require (!(event.reviewPackageId.isSome && (event.routeDecisionId.isNone ||
      event.executionPlanId.isNone || event.stablePlanHash.isNone)))
    "forensic event review_package_id requires route_decision_id, execution_plan_id, and stable_plan_hash"

def validatePostureStatePair (currentPosture : ApprovalPosture)
    (executionState : ExecutionState) : FaLocalResult Unit :=
  match executionState with
  | .denied => requirePosture currentPosture [.denied]
      "denied forensic event state must use denied posture"
  | .reviewRequired => requirePosture currentPosture [.reviewRequired]
      "review_required forensic event state must use review_required posture"
  | .waitingExplicitApproval => requirePosture currentPosture [.explicitOperatorApproval]
      "waiting_explicit_approval forensic event state must use explicit_operator_approval posture"
  | _ => requirePosture currentPosture [.policyPreapproved, .executeAllowed]
      "admitted forensic event states must use policy_preapproved or execute_allowed posture"

def validateDegradedSubtype (eventType : ForensicEventType) (executionState : ExecutionState)
    (degradedSubtype : Option DegradedSubtype) : FaLocalResult Unit :=
  match eventType with
  | .reviewPackagePrepared =>
    require (degradedSubtype.isNone || isExplicitFallbackSubtype degradedSubtype)
      "review_package_prepared forensic event may only declare explicit fallback degraded_subtype values"
  | _ =>
    match executionState with
    | .degraded => requireSome degradedSubtype
        "degraded forensic event must include degraded_subtype"
    | .partialSuccess => requireSome degradedSubtype
        "partial_success forensic event must include degraded_subtype"
    | .completedWithConstraints => require (isExplicitFallbackSubtype degradedSubtype)
        "completed_with_constraints forensic event must include an explicit fallback degraded_subtype"
    | _ => requireNone degradedSubtype
        "forensic event execution_state must not include degraded_subtype"

/-- The words of `mentions_semantic_or_workflow_narration`. -/
def narrationWords : List String := ["planner", "workflow", "semantic", "next step"]

def mentionsSemanticOrWorkflowNarration (value : String) : Bool :=
  mentionsAny value narrationWords

def validateEventType (event : ForensicEvent) : FaLocalResult Unit :=
  match event.eventType with
  | .denialIssued => do
    requirePosture event.currentPosture [.denied]
      "denial_issued forensic event must use denied posture"
    requireState event.executionState [.denied]
      "denial_issued forensic event must use denied execution_state"
    requireNone event.routeDecisionId
      "denial_issued forensic event must not include route_decision_id"
    requireNone event.executionPlanId
      "denial_issued forensic event must not include execution_plan_id"
    requireNone event.stablePlanHash
      "denial_issued forensic event must not include stable_plan_hash"
    requireNone event.reviewPackageId
      "denial_issued forensic event must not include review_package_id"
  | .routeDecisionResolved => do
    requireSome event.routeDecisionId
      "route_decision_resolved forensic event must include route_decision_id"
    requireNone event.executionPlanId
      "route_decision_resolved forensic event must not include execution_plan_id"
    requireNone event.stablePlanHash
      "route_decision_resolved forensic event must not include stable_plan_hash"
    requireNone event.reviewPackageId
      "route_decision_resolved forensic event must not include review_package_id"
    requireState event.executionState
      [.denied, .reviewRequired, .waitingExplicitApproval, .admittedNotStarted]
      "route_decision_resolved forensic event must remain pre-execution"
  | .reviewPackagePrepared => do
    requireSome event.routeDecisionId
      "review_package_prepared forensic event must include route_decision_id"
    requireSome event.executionPlanId
      "review_package_prepared forensic event must include execution_plan_id"
    requireSome event.stablePlanHash
      "review_package_prepared forensic event must include stable_plan_hash"
    requireSome event.reviewPackageId
      "review_package_prepared forensic event must include review_package_id"
    requirePosture event.currentPosture [.explicitOperatorApproval]
      "review_package_prepared forensic event must use explicit_operator_approval posture"
    requireState event.executionState [.waitingExplicitApproval]
      "review_package_prepared forensic event must use waiting_explicit_approval execution_state"
  | .executionStatusObserved => do
    requireSome event.executionPlanId
      "execution_status_observed forensic event must include execution_plan_id"
    requireSome event.stablePlanHash
      "execution_status_observed forensic event must include stable_plan_hash"
    requireState event.executionState admittedStates
      "execution_status_observed forensic event must use an admitted execution_state"
    requirePosture event.currentPosture [.policyPreapproved, .executeAllowed]
      "execution_status_observed forensic event must use policy_preapproved or execute_allowed posture"

def validate (event : ForensicEvent) : FaLocalResult Unit := do
  validateRequiredSummary event.summary
  validateOptionalPlanLink event.executionPlanId event.stablePlanHash
  validateReviewPackageLinkage event
  validatePostureStatePair event.currentPosture event.executionState
  validateDegradedSubtype event.eventType event.executionState event.degradedSubtype
  require event.payloadMinimized
    "forensic event payload_minimized must remain true for bounded forensics"
  require (event.stablePlanHash.all isValidHash)
    "forensic event stable_plan_hash must be a 64-character lowercase hex digest"
  require (!mentionsSemanticOrWorkflowNarration event.summary)
    "forensic event summary must not narrate planner, workflow, or semantic interpretation"
  validateEventType event

/-- `ForensicEvent::new`: its arguments as a record. -/
def new (event : ForensicEvent) : FaLocalResult ForensicEvent := do
  event.validate
  return event

end ForensicEvent

structure ValidatedForensicEvent where
  event : ForensicEvent
  valid : event.validate = .ok ()

def ValidatedForensicEvent.new (event : ForensicEvent) : FaLocalResult ValidatedForensicEvent :=
  match h : event.validate with
  | .ok () => .ok ⟨event, h⟩
  | .error e => .error e

/-! ## Recording -/

inductive ForensicRecordKind where
  | denialIssued (routeDecision : RouteDecision)
  | routeDecisionResolved (routeDecision : RouteDecision)
  | reviewPackagePrepared (routeDecision : RouteDecision) (reviewPackage : ValidatedReviewPackage)
  | executionStatusObserved (routeDecision : RouteDecision)
      (executionStatus : ValidatedExecutionStatus)

structure ForensicRecordContext where
  recordedAtUtc : TimestampUtc

structure ForensicRecordInput where
  kind : ForensicRecordKind
  redactionLevel : RedactionLevel
  context : ForensicRecordContext

structure ForensicRecord where
  correlationId : CorrelationId
  requestId : RequestId
  eventType : ForensicEventType
  routeDecisionId : Option RouteDecisionId
  executionPlanId : Option ExecutionPlanId
  stablePlanHash : Option String
  reviewPackageId : Option ReviewPackageId
  currentPosture : ApprovalPosture
  executionState : ExecutionState
  degradedSubtype : Option DegradedSubtype
  summary : String

namespace ForensicService

def validateRouteDecisionSurface (routeDecision : RouteDecision) : FaLocalResult Unit :=
  routeDecisionSurface "forensic recorder expectations" routeDecision

def validateRecordKind : ForensicRecordKind → FaLocalResult Unit
  | .denialIssued routeDecision => do
    validateRouteDecisionSurface routeDecision
    require (routeDecision.resolvedApprovalPosture == .denied)
      "forensic denial record requires denied route posture"
  | .routeDecisionResolved routeDecision => validateRouteDecisionSurface routeDecision
  | .reviewPackagePrepared routeDecision reviewPackage => do
    validateRouteDecisionSurface routeDecision
    reviewPackage.package.validate
    require (routeDecision.resolvedApprovalPosture == .explicitOperatorApproval)
      "forensic review-package record currently requires explicit_operator_approval posture"
    require (reviewPackage.package.currentPosture == .explicitOperatorApproval)
      "forensic review-package record currently requires explicit_operator_approval review package posture"
    require (reviewPackage.package.originatingRequestId == routeDecision.requestId)
      "forensic review-package record request_id does not match route decision"
    require (reviewPackage.package.correlationId == routeDecision.correlationId)
      "forensic review-package record correlation_id does not match route decision"
    require (reviewPackage.package.routeDecisionId == routeDecision.routeDecisionId)
      "forensic review-package record route_decision_id does not match route decision"
  | .executionStatusObserved routeDecision executionStatus => do
    validateRouteDecisionSurface routeDecision
    executionStatus.status.validate
    require routeDecision.resolvedApprovalPosture.admitted
      "forensic execution-status record requires an admitted route posture"
    require (executionStatus.status.requestId == routeDecision.requestId)
      "forensic execution-status record request_id does not match route decision"
    require (executionStatus.status.correlationId == routeDecision.correlationId)
      "forensic execution-status record correlation_id does not match route decision"
    require (executionStatus.status.currentPosture == routeDecision.resolvedApprovalPosture)
      "forensic execution-status record posture does not match route decision"
    require (admittedStates.contains executionStatus.status.state)
      "forensic execution-status record must use an admitted execution_state"

def preExecutionStateFor : ApprovalPosture → ExecutionState
  | .denied => .denied
  | .reviewRequired => .reviewRequired
  | .explicitOperatorApproval => .waitingExplicitApproval
  | .policyPreapproved | .executeAllowed => .admittedNotStarted

def reviewPackageSummary (reviewPackage : ValidatedReviewPackage) : String :=
  if isExplicitFallbackSubtype reviewPackage.package.degradedOrFallbackPosture then
    "bounded review handoff prepared with explicit fallback posture"
  else "bounded review handoff prepared for explicit operator approval"

def buildForensicRecord : ForensicRecordKind → ForensicRecord
  | .denialIssued routeDecision =>
    { correlationId := routeDecision.correlationId
      requestId := routeDecision.requestId
      eventType := .denialIssued
      routeDecisionId := none
      executionPlanId := none
      stablePlanHash := none
      reviewPackageId := none
      currentPosture := .denied
      executionState := .denied
      degradedSubtype := none
      summary := routeDecision.operatorVisibleSummary }
  | .routeDecisionResolved routeDecision =>
    { correlationId := routeDecision.correlationId
      requestId := routeDecision.requestId
      eventType := .routeDecisionResolved
      routeDecisionId := some routeDecision.routeDecisionId
      executionPlanId := none
      stablePlanHash := none
      reviewPackageId := none
      currentPosture := routeDecision.resolvedApprovalPosture
      executionState := preExecutionStateFor routeDecision.resolvedApprovalPosture
      degradedSubtype := none
      summary := routeDecision.operatorVisibleSummary }
  | .reviewPackagePrepared routeDecision reviewPackage =>
    { correlationId := routeDecision.correlationId
      requestId := routeDecision.requestId
      eventType := .reviewPackagePrepared
      routeDecisionId := some routeDecision.routeDecisionId
      executionPlanId := reviewPackage.package.executionPlanId
      stablePlanHash := reviewPackage.package.stablePlanHash
      reviewPackageId := some reviewPackage.package.reviewPackageId
      currentPosture := reviewPackage.package.currentPosture
      executionState :=
        (reviewPackage.package.executionStatusContext.map (·.state)).getD .waitingExplicitApproval
      degradedSubtype := reviewPackage.package.degradedOrFallbackPosture
      summary := reviewPackageSummary reviewPackage }
  | .executionStatusObserved routeDecision executionStatus =>
    { correlationId := routeDecision.correlationId
      requestId := routeDecision.requestId
      eventType := .executionStatusObserved
      routeDecisionId := some routeDecision.routeDecisionId
      executionPlanId := executionStatus.status.executionPlanId
      stablePlanHash := executionStatus.status.stablePlanHash
      reviewPackageId := none
      currentPosture := executionStatus.status.currentPosture
      executionState := executionStatus.status.state
      degradedSubtype := executionStatus.status.degradedSubtype
      summary := executionStatus.status.truthfulUserVisibleSummary }

def successWords : List String := ["success", "succeeded", "completed"]

def failureWords : List String := ["failed", "failure"]

def cancellationWords : List String := ["canceled", "cancelled"]

def degradedWords : List String := ["degraded", "constraint", "constraints", "limited"]

def mentionsSuccessOrCompletion (value : String) : Bool := mentionsAny value successWords

def mentionsFailure (value : String) : Bool := mentionsAny value failureWords

def mentionsCancellation (value : String) : Bool := mentionsAny value cancellationWords

def mentionsDegradedOrConstraints (value : String) : Bool := mentionsAny value degradedWords

def validateBoundedDetail (value fieldName : String) : FaLocalResult Unit :=
  require (isBoundedText value) (fieldName ++ " must be between 1 and 160 characters")

def validateSummaryTruthfulness (summary : String) (executionState : ExecutionState)
    (degradedSubtype : Option DegradedSubtype) : FaLocalResult Unit := do
  validateBoundedDetail summary "forensic event summary"
  require (!(mentionsSuccessOrCompletion summary && !(executionState == .completed ||
      executionState == .completedWithConstraints || executionState == .partialSuccess)))
    "forensic event summary must not claim success or completion before truthful execution completion"
  require (!(mentionsFailure summary && executionState != .failed))
    "forensic event summary must not claim failure outside failed execution_state"
  require (!(mentionsCancellation summary && executionState != .canceled))
    "forensic event summary must not claim cancellation outside canceled execution_state"
  require (!(mentionsDegradedOrConstraints summary && degradedSubtype.isNone))
    "forensic event summary must not claim degraded or constrained execution without explicit degraded_subtype"

end ForensicService

def ForensicRecordInput.new (kind : ForensicRecordKind) (redactionLevel : RedactionLevel)
    (context : ForensicRecordContext) : FaLocalResult ForensicRecordInput := do
  ForensicService.validateRecordKind kind
  return { kind := kind, redactionLevel := redactionLevel, context := context }

namespace ForensicService

/-- `record_event`; the identifier is what `ForensicEventId::new()` draws. -/
def recordEvent (forensicEventId : ForensicEventId) (input : ForensicRecordInput) :
    FaLocalResult ValidatedForensicEvent := do
  let record := buildForensicRecord input.kind
  validateSummaryTruthfulness record.summary record.executionState record.degradedSubtype
  let event ← ForensicEvent.new
    { forensicEventId := forensicEventId
      correlationId := record.correlationId
      requestId := record.requestId
      eventType := record.eventType
      routeDecisionId := record.routeDecisionId
      executionPlanId := record.executionPlanId
      stablePlanHash := record.stablePlanHash
      reviewPackageId := record.reviewPackageId
      timestampUtc := input.context.recordedAtUtc
      currentPosture := record.currentPosture
      executionState := record.executionState
      degradedSubtype := record.degradedSubtype
      summary := record.summary
      redactionLevel := input.redactionLevel
      payloadMinimized := true }
  ValidatedForensicEvent.new event

end ForensicService

end FaLocal
