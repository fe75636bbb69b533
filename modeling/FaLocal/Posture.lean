import FaLocal.Admission

/-!
# Approval posture resolution

`ApprovalPostureResolver::resolve` and the route decision it returns. The
`expect` calls and the byte-index `truncate` are modelled as panics.
-/
namespace FaLocal

structure PolicyReference where
  policyId : PolicyId
  policyVersion : String
  deriving DecidableEq

structure CapabilityDecisionSummary where
  requestedCapabilityId : CapabilityId
  capabilityAdmitted : Bool
  capabilityOwnerService : Option String
  requestedSideEffectClass : SideEffectClass
  capabilityApprovalPosture : Option ApprovalPosture
  policyRequiredApprovalPosture : Option ApprovalPosture
  requesterMaxApprovalPosture : Option ApprovalPosture
  sideEffectMinimumApprovalPosture : ApprovalPosture
  reviewClass : Option ReviewClass
  deriving DecidableEq

structure RouteDecision where
  routeDecisionId : RouteDecisionId
  correlationId : CorrelationId
  requestId : RequestId
  resolvedApprovalPosture : ApprovalPosture
  executionAllowed : Bool
  denialGuards : List DenialGuard
  reviewRequired : Bool
  explicitApprovalRequired : Bool
  policyReference : Option PolicyReference
  capabilityDecisionSummary : CapabilityDecisionSummary
  operatorVisibleSummary : String
  degradedSubtype : Option DegradedSubtype
  decidedAtUtc : TimestampUtc
  deriving DecidableEq

structure RouteResolutionInput where
  request : ExecutionRequest
  requesterTrustOutcome : Except DenialGuard RequesterTrustEnvelope
  policyOutcome : Except DenialGuard PolicyArtifact
  capabilityAdmissionOutcome : Except DenialGuard CapabilityRecord

structure RouteResolutionContext where
  routeDecisionId : RouteDecisionId
  decidedAtUtc : TimestampUtc
  degradedSubtype : Option DegradedSubtype

/-- `Option::expect`. -/
def expect {β : Type} (message : String) : Option β → FaLocalResult β
  | some b => .ok b
  | none => .error (.panicked message)

/-- The guard an outcome carries, if it is an `Err`. -/
def denialsOf {β : Type} : Except DenialGuard β → List DenialGuard
  | .ok _ => []
  | .error denial => [denial]

/-- `String::truncate`: `none` where the index is not on a character boundary. -/
def truncate : Nat → List Char → Option (List Char)
  | _, [] => some []
  | newLen, c :: s =>
    if newLen = 0 then some []
    else if c.utf8Size ≤ newLen then (truncate (newLen - c.utf8Size) s).map (c :: ·)
    else none

/-- Cut to 160 code points; a cut text loses its end from byte 157 on and gets an ellipsis. -/
def boundedSummary (summary : String) : FaLocalResult String :=
  let bounded := summary.toList.take 160
  if 160 < summary.toList.length then
    match truncate 157 bounded with
    | some kept => .ok (String.ofList (kept ++ ['.', '.', '.']))
    | none => .error (.panicked "assertion failed: self.is_char_boundary(new_len)")
  else .ok (String.ofList bounded)

/-- `Iterator::min_by_key`: the first of the smallest elements. -/
def minByKey {β : Type} (key : β → Nat) : List β → Option β
  | [] => none
  | x :: xs => some (xs.foldl (fun best y => if key y < key best then y else best) x)

theorem foldl_min {β : Type} (key : β → Nat) (xs : List β) (x : β) :
    let m := xs.foldl (fun best y => if key y < key best then y else best) x
    m ∈ x :: xs ∧ ∀ y ∈ x :: xs, key m ≤ key y := by
  induction xs generalizing x with
  | nil => simp
  | cons z xs ih =>
    simp only [List.foldl_cons]
    obtain ⟨hm, hle⟩ := ih (if key z < key x then z else x)
    refine ⟨?_, fun y hy => ?_⟩
    · rcases List.mem_cons.mp hm with he | hm
      · rw [he]
        split <;> simp
      · simp [hm]
    · have hb := hle _ List.mem_cons_self
      rcases List.mem_cons.mp hy with rfl | hy
      · refine Nat.le_trans hb ?_
        split <;> omega
      · rcases List.mem_cons.mp hy with rfl | hy
        · refine Nat.le_trans hb ?_
          split <;> omega
        · exact hle y (by simp [hy])

theorem minByKey_eq_some {β : Type} {key : β → Nat} {l : List β} {m : β}
    (h : minByKey key l = some m) : m ∈ l ∧ ∀ y ∈ l, key m ≤ key y := by
  cases l with
  | nil => cases h
  | cons x xs =>
    cases h
    exact foldl_min key xs x

namespace ApprovalPostureResolver

def approvalRuleFor (policy : PolicyArtifact) (requester : RequesterTrustEnvelope) :
    Option ApprovalRule :=
  policy.approvalRules.find? fun rule => rule.requesterClass == requester.requesterClass

def sideEffectRuleFor (policy : PolicyArtifact) (sideEffectClass : SideEffectClass) :
    Option SideEffectRule :=
  policy.sideEffectRules.find? fun rule => rule.sideEffectClass == sideEffectClass

def sideEffectMinimumPosture : SideEffectClass → ApprovalPosture
  | .none => .executeAllowed
  | .localFileWrite | .localDbMutation => .policyPreapproved
  | .localProcessSpawn | .otherGoverned => .explicitOperatorApproval
  | .externalNetworkDeniedByDefault => .denied

def reviewClassMinimumPosture : ReviewClass → ApprovalPosture
  | .none => .executeAllowed
  | .operator => .explicitOperatorApproval

def userIntentMinimumPosture : Option UserIntentBasis → ApprovalPosture
  | some _ => .executeAllowed
  | none => .reviewRequired

def postureRank : ApprovalPosture → Nat
  | .denied => 0
  | .reviewRequired => 1
  | .explicitOperatorApproval => 2
  | .policyPreapproved => 3
  | .executeAllowed => 4

def executionAllowedFor : ApprovalPosture → Bool
  | .policyPreapproved | .executeAllowed => true
  | _ => false

theorem executionAllowedFor_iff (posture : ApprovalPosture) :
    executionAllowedFor posture = true ↔ 3 ≤ postureRank posture := by
  cases posture <;> simp [executionAllowedFor, postureRank]

def stampedDenial (reasonClass : DenialReasonClass) (scope : DenialScope) (basis : DenialBasis)
    (summary : String) (timestampUtc : TimestampUtc) : DenialGuard :=
  deny timestampUtc reasonClass scope basis summary

/-- `if condition { denials.push(denial) }` -/
def pushIf (condition : Prop) [Decidable condition] (denial : DenialGuard) : List DenialGuard :=
  if condition then [denial] else []

@[simp] theorem pushIf_eq_nil {condition : Prop} [Decidable condition] {denial : DenialGuard} :
    pushIf condition denial = [] ↔ ¬ condition := by
  simp [pushIf]

theorem mem_pushIf {condition : Prop} [Decidable condition] {denial g : DenialGuard}
    (h : g ∈ pushIf condition denial) : g = denial := by
  simp only [pushIf] at h
  split at h <;> simp_all

def validateConsistency (request : ExecutionRequest) (requester : RequesterTrustEnvelope)
    (policy : PolicyArtifact) (capability : CapabilityRecord) (decidedAtUtc : TimestampUtc) :
    List DenialGuard :=
  pushIf (request.requesterId ≠ requester.requesterId)
    (stampedDenial .contractInvalid .request .contract
      "requester envelope does not match execution request" decidedAtUtc) ++
  pushIf (request.environmentMode ≠ requester.environmentMode)
    (stampedDenial .contractInvalid .request .contract
      "requester environment does not match execution request" decidedAtUtc) ++
  pushIf (policy.scope.serviceId ≠ serviceId)
    (stampedDenial .policyDenied .artifact .policy
      "policy service scope does not match fa-local" decidedAtUtc) ++
  pushIf (request.environmentMode ∉ policy.scope.environmentModes ∨
      request.environmentMode ∉ policy.environmentConditions)
    (stampedDenial .policyDenied .capability .policy
      "policy does not admit this environment" decidedAtUtc) ++
  pushIf (capability.capabilityId ≠ request.requestedCapabilityId)
    (stampedDenial .capabilityNotAdmitted .capability .policy
      "capability decision does not match execution request" decidedAtUtc) ++
  pushIf (capability.ownerService ≠ serviceId)
    (stampedDenial .capabilityNotAdmitted .capability .policy
      "capability owner does not match fa-local" decidedAtUtc) ++
  pushIf (capability.sideEffectClass ≠ request.requestedSideEffectClass)
    (stampedDenial .policyDenied .capability .contractAndPolicy
      "policy/capability mismatch: requested side effect does not match capability"
      decidedAtUtc) ++
  pushIf (policy.capabilityRuleFor capability.capabilityId = none)
    (stampedDenial .policyDenied .capability .contractAndPolicy
      "policy/capability mismatch: capability missing from policy" decidedAtUtc) ++
  pushIf (approvalRuleFor policy requester = none)
    (stampedDenial .policyDenied .request .policy
      "policy lacks requester approval rule" decidedAtUtc) ++
  pushIf (¬ ((sideEffectRuleFor policy request.requestedSideEffectClass).any (·.allowed) = true))
    (stampedDenial .policyDenied .operation .policy
      "policy denies requested side effect class" decidedAtUtc)

def buildCapabilityDecisionSummary (request : ExecutionRequest)
    (requester : Option RequesterTrustEnvelope) (policy : Option PolicyArtifact)
    (capability : Option CapabilityRecord) : CapabilityDecisionSummary where
  requestedCapabilityId := request.requestedCapabilityId
  capabilityAdmitted := capability.isSome
  capabilityOwnerService := capability.map (·.ownerService)
  requestedSideEffectClass := request.requestedSideEffectClass
  capabilityApprovalPosture := capability.map (·.approvalPosture)
  policyRequiredApprovalPosture := policy.bind fun policy =>
    (policy.capabilityRuleFor request.requestedCapabilityId).map (·.requiredApprovalPosture)
  requesterMaxApprovalPosture := requester.bind fun requester => policy.bind fun policy =>
    (approvalRuleFor policy requester).map (·.maxPosture)
  sideEffectMinimumApprovalPosture := sideEffectMinimumPosture request.requestedSideEffectClass
  reviewClass := capability.map (·.reviewClass)

def firstDenialSummary (denialGuards : List DenialGuard) : String :=
  match denialGuards with
  | denial :: _ => denial.summary
  | [] => "request denied"

def deniedDecision (request : ExecutionRequest) (policyReference : Option PolicyReference)
    (capabilityDecisionSummary : CapabilityDecisionSummary) (denialGuards : List DenialGuard)
    (context : RouteResolutionContext) : FaLocalResult RouteDecision := do
  let summary ← boundedSummary ("request denied: " ++ firstDenialSummary denialGuards)
  return {
    routeDecisionId := context.routeDecisionId
    correlationId := request.correlationId
    requestId := request.requestId
    resolvedApprovalPosture := .denied
    executionAllowed := false
    denialGuards := denialGuards
    reviewRequired := false
    explicitApprovalRequired := false
    policyReference := policyReference
    capabilityDecisionSummary := capabilityDecisionSummary
    operatorVisibleSummary := summary
    degradedSubtype := context.degradedSubtype
    decidedAtUtc := context.decidedAtUtc }

def deniedSummary (request : ExecutionRequest) : String :=
  match request.requestedSideEffectClass with
  | .externalNetworkDeniedByDefault => "requested side effect is denied by bounded doctrine"
  | _ => "approval posture resolution denied request"

def operatorSummary (posture : ApprovalPosture) (capabilityId : String) : FaLocalResult String :=
  boundedSummary (match posture with
    | .denied => "request denied for capability " ++ capabilityId
    | .reviewRequired => "request requires review for capability " ++ capabilityId
    | .explicitOperatorApproval =>
      "request requires explicit operator approval for capability " ++ capabilityId
    | .policyPreapproved => "request is policy preapproved for capability " ++ capabilityId
    | .executeAllowed => "request is execute allowed for capability " ++ capabilityId)

/-- The six posture factors, in the order of the source. -/
def postureFactors (request : ExecutionRequest) (requester : RequesterTrustEnvelope)
    (capability : CapabilityRecord) (approvalRule : ApprovalRule) (policyRule : CapabilityRule) :
    List ApprovalPosture :=
  [approvalRule.maxPosture, policyRule.requiredApprovalPosture, capability.approvalPosture,
    reviewClassMinimumPosture capability.reviewClass,
    sideEffectMinimumPosture request.requestedSideEffectClass,
    userIntentMinimumPosture requester.userIntentBasis]

/-- The part of `resolve` that is reached when no denial was recorded. -/
def resolveFactors (request : ExecutionRequest) (requester : RequesterTrustEnvelope)
    (policy : PolicyArtifact) (capability : CapabilityRecord)
    (policyReference : Option PolicyReference)
    (capabilityDecisionSummary : CapabilityDecisionSummary) (context : RouteResolutionContext) :
    FaLocalResult RouteDecision := do
  let policyRule ← expect
    "policy capability rule must be present after consistency validation"
    (policy.capabilityRuleFor capability.capabilityId)
  let approvalRule ← expect
    "policy approval rule must be present after consistency validation"
    (approvalRuleFor policy requester)
  let resolvedApprovalPosture ← expect "approval posture factor set must not be empty"
    (minByKey postureRank
      (postureFactors request requester capability approvalRule policyRule))
  if resolvedApprovalPosture = .denied then
    deniedDecision request policyReference capabilityDecisionSummary
      [stampedDenial .policyDenied .operation .contractAndPolicy (deniedSummary request)
        context.decidedAtUtc] context
  else
    let summary ← operatorSummary resolvedApprovalPosture request.requestedCapabilityId.display
    return {
      routeDecisionId := context.routeDecisionId
      correlationId := request.correlationId
      requestId := request.requestId
      resolvedApprovalPosture := resolvedApprovalPosture
      executionAllowed := executionAllowedFor resolvedApprovalPosture
      denialGuards := []
      reviewRequired := resolvedApprovalPosture = .reviewRequired
      explicitApprovalRequired := resolvedApprovalPosture = .explicitOperatorApproval
      policyReference := policyReference
      capabilityDecisionSummary := capabilityDecisionSummary
      operatorVisibleSummary := summary
      degradedSubtype := context.degradedSubtype
      decidedAtUtc := context.decidedAtUtc }

def resolve (input : RouteResolutionInput) (context : RouteResolutionContext) :
    FaLocalResult RouteDecision :=
  let request := input.request
  let requester := input.requesterTrustOutcome.toOption
  let policy := input.policyOutcome.toOption
  let capability := input.capabilityAdmissionOutcome.toOption
  let policyReference := policy.map fun policy =>
    { policyId := policy.policyId, policyVersion := policy.policyVersion }
  let consistency := match requester, policy, capability with
    | some requester, some policy, some capability =>
      validateConsistency request requester policy capability context.decidedAtUtc
    | _, _, _ => []
  let denials := denialsOf input.requesterTrustOutcome ++ denialsOf input.policyOutcome ++
    denialsOf input.capabilityAdmissionOutcome ++ consistency
  let capabilityDecisionSummary :=
    buildCapabilityDecisionSummary request requester policy capability
  if denials ≠ [] then
    deniedDecision request policyReference capabilityDecisionSummary denials context
  else do
    let requester ← expect "requester must be present when no denials were recorded" requester
    let policy ← expect "policy must be present when no denials were recorded" policy
    let capability ← expect "capability must be present when no denials were recorded" capability
    resolveFactors request requester policy capability policyReference capabilityDecisionSummary
      context

end ApprovalPostureResolver

end FaLocal
