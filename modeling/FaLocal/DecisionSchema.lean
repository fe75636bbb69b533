import FaLocal.PostureOrder

/-!
# The schema of a route decision

The JSON Schema keywords that the contract uses, as checks of a value; a decision
as it is serialised; and what the schema asks of it.
-/
namespace FaLocal

/-! ## Keywords -/

abbrev Schema := Value → Bool

namespace Schema

def null : Schema
  | .null => true
  | _ => false

def boolean : Schema
  | .bool _ => true
  | _ => false

def constBool (expected : Bool) : Schema
  | .bool b => b == expected
  | _ => false

/-- A string of bounded length, counted in code points. -/
def text (minLength maxLength : Nat) : Schema
  | .string s => decide (minLength ≤ s.toList.length) && decide (s.toList.length ≤ maxLength)
  | _ => false

/-- A string that passes a check, such as that of a pattern or a format. -/
def checked (accepts : String → Bool) : Schema
  | .string s => accepts s
  | _ => false

def enum (names : List String) : Schema :=
  checked names.contains

/-- What a number that is written in decimal digits denotes. -/
def decimal (digits : List Char) : Option Nat :=
  if !digits.isEmpty && digits.all Char.isDigit then some (Nat.ofDigitChars 10 digits 0) else none

/-- An integer within bounds, in the spelling of serialised integers. -/
def integer (minimum maximum : Nat) : Schema
  | .number digits => (decimal digits.toList).any fun n =>
      decide (minimum ≤ n) && decide (n ≤ maximum)
  | _ => false

/-- The bounds on the number of items apply to arrays only. -/
def itemCount (accepts : Nat → Bool) : Schema
  | .array items => accepts items.length
  | _ => true

def arrayOf (item : Schema) : Schema
  | .array items => items.all item
  | _ => false

def textOf : Value → Option String
  | .string s => some s
  | _ => none

/-- `uniqueItems`, for arrays of texts. -/
def uniqueTexts : Schema
  | .array items => decide (items.filterMap textOf).Nodup
  | _ => true

def oneOf (first second : Schema) : Schema := fun value => first value != second value

def nullable (schema : Schema) : Schema := oneOf null schema

/-- All properties are required, and there are no others. -/
def object (properties : List (String × Schema)) : Schema
  | .object fields =>
    (properties.all fun property => (fields.lookup property.1).any property.2) &&
      fields.all fun field => (properties.lookup field.1).isSome
  | _ => false

/-- None of these properties is there. -/
def lacks (keys : List String) : Schema
  | .object fields => keys.all fun key => (fields.lookup key).isNone
  | _ => false

/-- `if` a property has this constant value, `then` other properties are constrained. -/
def ifConst (key expected : String) (constrained : List (String × Schema)) : Schema := fun value =>
  if (value.get key).all (enum [expected]) then
    constrained.all fun property => (value.get property.1).all property.2
  else true

def allOf (schemas : List Schema) : Schema := fun value => schemas.all fun schema => schema value

end Schema

def isHex (c : Char) : Bool :=
  c.isDigit || ('a' ≤ c && c ≤ 'f') || ('A' ≤ c && c ≤ 'F')

/-- The characters of the pattern of a UUID: versions 1 to 5 of the standard variant. -/
def uuidShape : List (Char → Bool) :=
  let hex := fun n => List.replicate n isHex
  let hyphen := fun c : Char => c == '-'
  hex 8 ++ hyphen :: hex 4 ++ hyphen :: (fun c => '1' ≤ c && c ≤ '5') :: hex 3 ++
    hyphen :: (fun c => ['8', '9', 'a', 'b', 'A', 'B'].contains c) :: hex 3 ++ hyphen :: hex 12

/-- Every character passes the check of its place. -/
def matchesShape : List (Char → Bool) → List Char → Bool
  | [], [] => true
  | check :: shape, c :: text => check c && matchesShape shape text
  | _, _ => false

def isUuidText (value : String) : Bool := matchesShape uuidShape value.toList

/-- An identifier of one of the versions and the variant that the schemas ask for. -/
def UuidId.Versioned {k : IdKind} (i : UuidId k) : Prop := isUuidText i.display = true

instance {k : IdKind} : DecidablePred (@UuidId.Versioned k) := fun i =>
  inferInstanceAs (Decidable (isUuidText i.display = true))

/-- The text of a time, and the check of the `date-time` format. -/
structure DateTimes where
  text : TimestampUtc → String
  accepts : String → Bool

/-- A time whose text passes for a date and time. -/
def DateTimes.Printable (times : DateTimes) (t : TimestampUtc) : Prop :=
  times.accepts (times.text t) = true

/-! ## Serialised decisions -/

def ApprovalPosture.serdeName : ApprovalPosture → String
  | .denied => "denied"
  | .reviewRequired => "review_required"
  | .explicitOperatorApproval => "explicit_operator_approval"
  | .policyPreapproved => "policy_preapproved"
  | .executeAllowed => "execute_allowed"

def DegradedSubtype.serdeName : DegradedSubtype → String
  | .degradedPreStart => "degraded_pre_start"
  | .degradedInFlight => "degraded_in_flight"
  | .degradedFallbackEquivalent => "degraded_fallback_equivalent"
  | .degradedFallbackLimited => "degraded_fallback_limited"
  | .degradedPartial => "degraded_partial"
  | .unavailableDependencyBlock => "unavailable_dependency_block"

def SideEffectClass.serdeName : SideEffectClass → String
  | .none => "none"
  | .localFileWrite => "local_file_write"
  | .localDbMutation => "local_db_mutation"
  | .localProcessSpawn => "local_process_spawn"
  | .externalNetworkDeniedByDefault => "external_network_denied_by_default"
  | .otherGoverned => "other_governed"

def ReviewClass.serdeName : ReviewClass → String
  | .none => "none"
  | .operator => "operator"

def DenialReasonClass.serdeName : DenialReasonClass → String
  | .unknownRequester => "unknown_requester"
  | .untrustedRequester => "untrusted_requester"
  | .missingPolicy => "missing_policy"
  | .policyDenied => "policy_denied"
  | .capabilityNotAdmitted => "capability_not_admitted"
  | .contractInvalid => "contract_invalid"
  | .integrityFailed => "integrity_failed"
  | .dependencyUnavailable => "dependency_unavailable"
  | .privacyScopeViolation => "privacy_scope_violation"
  | .reviewRequired => "review_required"
  | .unsupportedRoute => "unsupported_route"
  | .disabledByOperator => "disabled_by_operator"

def DenialScope.serdeName : DenialScope → String
  | .request => "request"
  | .capability => "capability"
  | .route => "route"
  | .service => "service"
  | .artifact => "artifact"
  | .operation => "operation"

def DenialBasis.serdeName : DenialBasis → String
  | .contract => "contract"
  | .policy => "policy"
  | .contractAndPolicy => "contract_and_policy"
  | .runtimeSafety => "runtime_safety"

/-- `Option` serialises to its value or to `null`. -/
def optionValue {β : Type} (toValue : β → Value) : Option β → Value
  | none => .null
  | some b => toValue b

def UuidId.toValue {k : IdKind} (i : UuidId k) : Value := .string i.display

def ApprovalPosture.toValue (posture : ApprovalPosture) : Value := .string posture.serdeName

def DenialGuard.toValue (times : DateTimes) (guard : DenialGuard) : Value := .object [
  ("reason_class", .string guard.reasonClass.serdeName),
  ("scope", .string guard.scope.serdeName),
  ("basis", .string guard.basis.serdeName),
  ("remediable", .bool guard.remediable),
  ("review_available", .bool guard.reviewAvailable),
  ("summary", .string guard.summary),
  ("timestamp_utc", .string (times.text guard.timestampUtc))]

def PolicyReference.toValue (reference : PolicyReference) : Value := .object [
  ("policy_id", reference.policyId.toValue),
  ("policy_version", .string reference.policyVersion)]

def CapabilityDecisionSummary.toValue (summary : CapabilityDecisionSummary) : Value := .object [
  ("requested_capability_id", summary.requestedCapabilityId.toValue),
  ("capability_admitted", .bool summary.capabilityAdmitted),
  ("capability_owner_service", optionValue .string summary.capabilityOwnerService),
  ("requested_side_effect_class", .string summary.requestedSideEffectClass.serdeName),
  ("capability_approval_posture",
    optionValue ApprovalPosture.toValue summary.capabilityApprovalPosture),
  ("policy_required_approval_posture",
    optionValue ApprovalPosture.toValue summary.policyRequiredApprovalPosture),
  ("requester_max_approval_posture",
    optionValue ApprovalPosture.toValue summary.requesterMaxApprovalPosture),
  ("side_effect_minimum_approval_posture", summary.sideEffectMinimumApprovalPosture.toValue),
  ("review_class", optionValue (fun c : ReviewClass => .string c.serdeName) summary.reviewClass)]

def RouteDecision.toValue (times : DateTimes) (d : RouteDecision) : Value := .object [
  ("route_decision_id", d.routeDecisionId.toValue),
  ("correlation_id", d.correlationId.toValue),
  ("request_id", d.requestId.toValue),
  ("resolved_approval_posture", d.resolvedApprovalPosture.toValue),
  ("execution_allowed", .bool d.executionAllowed),
  ("denial_guards", .array (d.denialGuards.map (·.toValue times))),
  ("review_required", .bool d.reviewRequired),
  ("explicit_approval_required", .bool d.explicitApprovalRequired),
  ("policy_reference", optionValue PolicyReference.toValue d.policyReference),
  ("capability_decision_summary", d.capabilityDecisionSummary.toValue),
  ("operator_visible_summary", .string d.operatorVisibleSummary),
  ("degraded_subtype", optionValue (fun s : DegradedSubtype => .string s.serdeName)
    d.degradedSubtype),
  ("decided_at_utc", .string (times.text d.decidedAtUtc))]

/-! ## The schema -/

namespace RouteDecisionSchema

open Schema

def uuidText : Schema := checked isUuidText

def approvalPosture : Schema := enum ["denied", "review_required", "explicit_operator_approval",
  "policy_preapproved", "execute_allowed"]

def sideEffectClass : Schema := enum ["none", "local_file_write", "local_db_mutation",
  "local_process_spawn", "external_network_denied_by_default", "other_governed"]

def reviewClass : Schema := enum ["none", "operator"]

def degradedSubtype : Schema := enum ["degraded_pre_start", "degraded_in_flight",
  "degraded_fallback_equivalent", "degraded_fallback_limited", "degraded_partial",
  "unavailable_dependency_block"]

def denialGuard (times : DateTimes) : Schema := object [
  ("reason_class", enum ["unknown_requester", "untrusted_requester", "missing_policy",
    "policy_denied", "capability_not_admitted", "contract_invalid", "integrity_failed",
    "dependency_unavailable", "privacy_scope_violation", "review_required", "unsupported_route",
    "disabled_by_operator"]),
  ("scope", enum ["request", "capability", "route", "service", "artifact", "operation"]),
  ("basis", enum ["contract", "policy", "contract_and_policy", "runtime_safety"]),
  ("remediable", boolean),
  ("review_available", boolean),
  ("summary", text 1 160),
  ("timestamp_utc", checked times.accepts)]

def policyReference : Schema := object [
  ("policy_id", uuidText),
  ("policy_version", text 1 32)]

def capabilityDecisionSummary : Schema := object [
  ("requested_capability_id", uuidText),
  ("capability_admitted", boolean),
  ("capability_owner_service", nullable (text 1 64)),
  ("requested_side_effect_class", sideEffectClass),
  ("capability_approval_posture", nullable approvalPosture),
  ("policy_required_approval_posture", nullable approvalPosture),
  ("requester_max_approval_posture", nullable approvalPosture),
  ("side_effect_minimum_approval_posture", approvalPosture),
  ("review_class", nullable reviewClass)]

/-- The `then` part of a posture: its three flags and its number of guards. -/
def flagsOf (executionAllowed reviewRequired explicitApprovalRequired : Bool)
    (guardCount : Nat → Bool) : List (String × Schema) := [
  ("execution_allowed", constBool executionAllowed),
  ("review_required", constBool reviewRequired),
  ("explicit_approval_required", constBool explicitApprovalRequired),
  ("denial_guards", itemCount guardCount)]

def conditionals : List Schema := [
  ifConst "resolved_approval_posture" "denied"
    (flagsOf false false false fun n => decide (1 ≤ n)),
  ifConst "resolved_approval_posture" "review_required"
    (flagsOf false true false fun n => decide (n ≤ 0)),
  ifConst "resolved_approval_posture" "explicit_operator_approval"
    (flagsOf false false true fun n => decide (n ≤ 0)),
  ifConst "resolved_approval_posture" "policy_preapproved"
    (flagsOf true false false fun n => decide (n ≤ 0)),
  ifConst "resolved_approval_posture" "execute_allowed"
    (flagsOf true false false fun n => decide (n ≤ 0))]

def properties (times : DateTimes) : List (String × Schema) := [
  ("route_decision_id", uuidText),
  ("correlation_id", uuidText),
  ("request_id", uuidText),
  ("resolved_approval_posture", approvalPosture),
  ("execution_allowed", boolean),
  ("denial_guards", allOf [arrayOf (denialGuard times), itemCount fun n => decide (n ≤ 8)]),
  ("review_required", boolean),
  ("explicit_approval_required", boolean),
  ("policy_reference", nullable policyReference),
  ("capability_decision_summary", capabilityDecisionSummary),
  ("operator_visible_summary", text 1 160),
  ("degraded_subtype", nullable degradedSubtype),
  ("decided_at_utc", checked times.accepts)]

/-- `route-decision.schema.json` -/
def routeDecision (times : DateTimes) : Schema :=
  allOf (object (properties times) :: conditionals)

end RouteDecisionSchema

/-! ## What the schema asks of a decision -/

namespace Schema

theorem lookup_isSome_of_mem {β : Type} {l : List (String × β)} {key : String}
    (h : key ∈ l.map Prod.fst) : (l.lookup key).isSome = true := by
  induction l with
  | nil => cases h
  | cons q l ih =>
    obtain ⟨k, b⟩ := q
    rw [List.lookup_cons]
    split
    · rfl
    · rename_i hne
      refine ih ?_
      rcases List.mem_cons.mp h with he | hm
      · simp [he] at hne
      · exact hm

/-- Fields that are listed in the order of the properties are checked one for one. -/
theorem object_iff {properties : List (String × Schema)} {fields : List (String × Value)}
    (hk : fields.map Prod.fst = properties.map Prod.fst) (hn : (properties.map Prod.fst).Nodup) :
    object properties (.object fields) = true ↔
      List.Forall₂ (fun property field => property.2 field.2 = true) properties fields := by
  have hknown : (fields.all fun field => (properties.lookup field.1).isSome) = true :=
    List.all_eq_true.mpr fun field hf =>
      lookup_isSome_of_mem (hk ▸ List.mem_map_of_mem (f := Prod.fst) hf)
  simp only [object, hknown, Bool.and_true, List.all_eq_true]
  clear hknown
  induction properties generalizing fields with
  | nil =>
    have hnil : fields = [] := by simpa using hk
    subst hnil
    simp
  | cons property properties ih =>
    cases fields with
    | nil => cases hk
    | cons field fields =>
      simp only [List.map_cons, List.cons.injEq] at hk
      obtain ⟨hkey, hrest⟩ := hk
      obtain ⟨hnotin, hn⟩ := List.nodup_cons.mp hn
      have hother : ∀ p ∈ properties, ((field :: fields).lookup p.1) = fields.lookup p.1 := by
        intro p hp
        have hne : (p.1 == field.1) = false := by
          rw [beq_eq_false_iff_ne, hkey]
          intro he
          exact hnotin (he ▸ List.mem_map_of_mem (f := Prod.fst) hp)
        obtain ⟨k, v⟩ := field
        rw [List.lookup_cons, hne]
      have hfirst : ((field :: fields).lookup property.1) = some field.2 := by
        obtain ⟨k, v⟩ := field
        rw [List.lookup_cons, ← hkey, beq_self_eq_true]
      rw [List.forall₂_cons, List.forall_mem_cons, hfirst]
      refine and_congr Iff.rfl (Iff.trans (forall₂_congr fun p hp => ?_) (ih hrest hn))
      rw [hother p hp]

end Schema

namespace RouteDecisionSchema

open Schema

/-- What the schema asks of a guard. -/
structure GuardFits (times : DateTimes) (guard : DenialGuard) : Prop where
  nonempty : 1 ≤ guard.summary.toList.length
  short : guard.summary.toList.length ≤ 160
  stamped : times.Printable guard.timestampUtc

theorem reasonClass_accepted (reasonClass : DenialReasonClass) :
    enum ["unknown_requester", "untrusted_requester", "missing_policy", "policy_denied",
      "capability_not_admitted", "contract_invalid", "integrity_failed", "dependency_unavailable",
      "privacy_scope_violation", "review_required", "unsupported_route", "disabled_by_operator"]
      (.string reasonClass.serdeName) = true := by
  cases reasonClass <;> decide

theorem scope_accepted (scope : DenialScope) :
    enum ["request", "capability", "route", "service", "artifact", "operation"]
      (.string scope.serdeName) = true := by
  cases scope <;> decide

theorem basis_accepted (basis : DenialBasis) :
    enum ["contract", "policy", "contract_and_policy", "runtime_safety"]
      (.string basis.serdeName) = true := by
  cases basis <;> decide

theorem guard_accepted_iff {times : DateTimes} {guard : DenialGuard} :
    denialGuard times (guard.toValue times) = true ↔ GuardFits times guard := by
  have hkeys : ["reason_class", "scope", "basis", "remediable", "review_available", "summary",
      "timestamp_utc"].Nodup := by
    decide
  rw [denialGuard, DenialGuard.toValue]
  refine (object_iff (by exact rfl) (by exact hkeys)).trans ?_
  simp only [List.forall₂_cons, reasonClass_accepted, scope_accepted, basis_accepted, boolean,
    text, checked, Bool.and_eq_true, decide_eq_true_eq, List.forall₂_nil_left_iff, and_true,
    true_and]
  exact ⟨fun ⟨⟨h₁, h₂⟩, h₃⟩ => ⟨h₁, h₂, h₃⟩, fun h => ⟨⟨h.nonempty, h.short⟩, h.stamped⟩⟩

/-- What it asks of a policy reference. -/
structure ReferenceFits (reference : PolicyReference) : Prop where
  policyId : reference.policyId.Versioned
  nonempty : 1 ≤ reference.policyVersion.toList.length
  short : reference.policyVersion.toList.length ≤ 32

theorem reference_accepted_iff {reference : PolicyReference} :
    policyReference reference.toValue = true ↔ ReferenceFits reference := by
  have hkeys : ["policy_id", "policy_version"].Nodup := by decide
  rw [policyReference, PolicyReference.toValue]
  refine (object_iff (by exact rfl) (by exact hkeys)).trans ?_
  simp only [List.forall₂_cons, uuidText, text, checked, UuidId.toValue, Bool.and_eq_true,
    decide_eq_true_eq, List.forall₂_nil_left_iff, and_true]
  exact ⟨fun ⟨h₁, h₂, h₃⟩ => ⟨h₁, h₂, h₃⟩, fun h => ⟨h.policyId, h.nonempty, h.short⟩⟩

theorem posture_accepted (posture : ApprovalPosture) :
    approvalPosture posture.toValue = true := by
  cases posture <;> decide

theorem optionalPosture_accepted (posture : Option ApprovalPosture) :
    nullable approvalPosture (optionValue ApprovalPosture.toValue posture) = true := by
  cases posture with
  | none => rfl
  | some posture => cases posture <;> decide

/-- What it asks of the summary of the capability decision. -/
structure CapabilityFits (summary : CapabilityDecisionSummary) : Prop where
  capabilityId : summary.requestedCapabilityId.Versioned
  owner : ∀ owner, summary.capabilityOwnerService = some owner →
    1 ≤ owner.toList.length ∧ owner.toList.length ≤ 64

theorem capability_accepted_iff {summary : CapabilityDecisionSummary} :
    capabilityDecisionSummary summary.toValue = true ↔ CapabilityFits summary := by
  have hkeys : ["requested_capability_id", "capability_admitted", "capability_owner_service",
      "requested_side_effect_class", "capability_approval_posture",
      "policy_required_approval_posture", "requester_max_approval_posture",
      "side_effect_minimum_approval_posture", "review_class"].Nodup := by
    decide
  have heffect : sideEffectClass (.string summary.requestedSideEffectClass.serdeName) = true := by
    cases summary.requestedSideEffectClass <;> decide
  have hreview : nullable reviewClass (optionValue (fun c : ReviewClass => .string c.serdeName)
      summary.reviewClass) = true := by
    cases summary.reviewClass with
    | none => rfl
    | some c => cases c <;> decide
  have howner : nullable (text 1 64) (optionValue .string summary.capabilityOwnerService) = true ↔
      ∀ owner, summary.capabilityOwnerService = some owner →
        1 ≤ owner.toList.length ∧ owner.toList.length ≤ 64 := by
    cases summary.capabilityOwnerService with
    | none => simp [nullable, oneOf, optionValue, null, text]
    | some owner => simp [nullable, oneOf, optionValue, null, text]
  rw [capabilityDecisionSummary, CapabilityDecisionSummary.toValue]
  refine (object_iff (by exact rfl) (by exact hkeys)).trans ?_
  simp only [List.forall₂_cons, heffect, hreview, howner, posture_accepted,
    optionalPosture_accepted, boolean, uuidText, checked, UuidId.toValue,
    List.forall₂_nil_left_iff, and_true, true_and]
  exact ⟨fun ⟨h₁, h₂⟩ => ⟨h₁, h₂⟩, fun h => ⟨h.capabilityId, h.owner⟩⟩

/-- What it asks of a decision. -/
structure DecisionFits (times : DateTimes) (d : RouteDecision) : Prop where
  routeDecisionId : d.routeDecisionId.Versioned
  correlationId : d.correlationId.Versioned
  requestId : d.requestId.Versioned
  guardCount : d.denialGuards.length ≤ 8
  guards : ∀ guard ∈ d.denialGuards, GuardFits times guard
  reference : ∀ reference, d.policyReference = some reference → ReferenceFits reference
  capability : CapabilityFits d.capabilityDecisionSummary
  nonempty : 1 ≤ d.operatorVisibleSummary.toList.length
  short : d.operatorVisibleSummary.toList.length ≤ 160
  decided : times.Printable d.decidedAtUtc
  flags : ApprovalPostureResolver.FlagsFit d
  guarded : d.denialGuards ≠ [] ↔ d.resolvedApprovalPosture = .denied

theorem properties_accepted_iff {times : DateTimes} {d : RouteDecision} :
    object (properties times) (d.toValue times) = true ↔
      d.routeDecisionId.Versioned ∧ d.correlationId.Versioned ∧ d.requestId.Versioned ∧
        ((∀ guard ∈ d.denialGuards, GuardFits times guard) ∧ d.denialGuards.length ≤ 8) ∧
        (∀ reference, d.policyReference = some reference → ReferenceFits reference) ∧
        CapabilityFits d.capabilityDecisionSummary ∧
        (1 ≤ d.operatorVisibleSummary.toList.length ∧
          d.operatorVisibleSummary.toList.length ≤ 160) ∧
        times.Printable d.decidedAtUtc := by
  have hkeys : ["route_decision_id", "correlation_id", "request_id", "resolved_approval_posture",
      "execution_allowed", "denial_guards", "review_required", "explicit_approval_required",
      "policy_reference", "capability_decision_summary", "operator_visible_summary",
      "degraded_subtype", "decided_at_utc"].Nodup := by
    decide
  have hsubtype : nullable degradedSubtype (optionValue
      (fun s : DegradedSubtype => .string s.serdeName) d.degradedSubtype) = true := by
    cases d.degradedSubtype with
    | none => rfl
    | some s => cases s <;> decide
  have hguards : allOf [arrayOf (denialGuard times), itemCount fun n => decide (n ≤ 8)]
      (.array (d.denialGuards.map (·.toValue times))) = true ↔
      (∀ guard ∈ d.denialGuards, GuardFits times guard) ∧ d.denialGuards.length ≤ 8 := by
    simp [allOf, arrayOf, itemCount, guard_accepted_iff]
  have hreference : nullable policyReference
      (optionValue PolicyReference.toValue d.policyReference) = true ↔
      ∀ reference, d.policyReference = some reference → ReferenceFits reference := by
    cases d.policyReference with
    | none => simp [nullable, oneOf, optionValue, null, policyReference, object]
    | some reference =>
      have hnull : null reference.toValue = false := rfl
      simp [nullable, oneOf, optionValue, hnull, reference_accepted_iff]
  rw [properties, RouteDecision.toValue]
  refine (object_iff (by exact rfl) (by exact hkeys)).trans ?_
  simp only [List.forall₂_cons, hsubtype, hguards, hreference, capability_accepted_iff,
    posture_accepted, boolean, uuidText, checked, text, UuidId.toValue, Bool.and_eq_true,
    decide_eq_true_eq, List.forall₂_nil_left_iff, and_true, true_and]
  rfl

theorem serdeName_inj {posture posture' : ApprovalPosture} :
    posture.serdeName = posture'.serdeName ↔ posture = posture' := by
  cases posture <;> cases posture' <;> decide

/-- One conditional constrains the decisions of its posture. -/
theorem ifConst_posture_iff {times : DateTimes} {d : RouteDecision} (posture : ApprovalPosture)
    (executionAllowed reviewRequired explicitApprovalRequired : Bool) (guardCount : Nat → Bool) :
    ifConst "resolved_approval_posture" posture.serdeName
        (flagsOf executionAllowed reviewRequired explicitApprovalRequired guardCount)
        (d.toValue times) = true ↔
      (d.resolvedApprovalPosture = posture → d.executionAllowed = executionAllowed ∧
        d.reviewRequired = reviewRequired ∧
        d.explicitApprovalRequired = explicitApprovalRequired ∧
        guardCount d.denialGuards.length = true) := by
  have hposture : (d.toValue times).get "resolved_approval_posture" =
      some d.resolvedApprovalPosture.toValue := rfl
  have hexecution : (d.toValue times).get "execution_allowed" = some (.bool d.executionAllowed) :=
    rfl
  have hreview : (d.toValue times).get "review_required" = some (.bool d.reviewRequired) := rfl
  have happroval : (d.toValue times).get "explicit_approval_required" =
      some (.bool d.explicitApprovalRequired) := rfl
  have hguards : (d.toValue times).get "denial_guards" =
      some (.array (d.denialGuards.map (·.toValue times))) := rfl
  simp only [ifConst, flagsOf, hposture, hexecution, hreview, happroval, hguards, Option.all_some,
    enum, checked, ApprovalPosture.toValue, List.all_cons, List.all_nil, constBool, itemCount,
    List.length_map]
  by_cases hp : d.resolvedApprovalPosture = posture
  · simp [hp]
  · have hne : d.resolvedApprovalPosture.serdeName ≠ posture.serdeName := fun he =>
      hp (serdeName_inj.mp he)
    simp [hp, hne]

theorem conditionals_accepted_iff {times : DateTimes} {d : RouteDecision} :
    (conditionals.all fun schema => schema (d.toValue times)) = true ↔
      ApprovalPostureResolver.FlagsFit d ∧
        (d.denialGuards ≠ [] ↔ d.resolvedApprovalPosture = .denied) := by
  have hall : (conditionals.all fun schema => schema (d.toValue times)) = true ↔
      (∀ posture, ifConst "resolved_approval_posture" (ApprovalPosture.serdeName posture)
        (flagsOf (ApprovalPostureResolver.executionAllowedFor posture)
          (decide (posture = .reviewRequired)) (decide (posture = .explicitOperatorApproval))
          fun n => if posture = .denied then decide (1 ≤ n) else decide (n ≤ 0))
        (d.toValue times) = true) := by
    simp only [conditionals, List.all_cons, List.all_nil, Bool.and_true, Bool.and_eq_true]
    constructor
    · rintro ⟨h₁, h₂, h₃, h₄, h₅⟩ posture
      cases posture
      · exact h₁
      · exact h₂
      · exact h₃
      · exact h₄
      · exact h₅
    · intro h
      exact ⟨h .denied, h .reviewRequired, h .explicitOperatorApproval, h .policyPreapproved,
        h .executeAllowed⟩
  rw [hall]
  simp only [ifConst_posture_iff]
  constructor
  · intro h
    obtain ⟨h₁, h₂, h₃, hcount⟩ := h d.resolvedApprovalPosture rfl
    refine ⟨⟨h₁, h₂, h₃⟩, ?_⟩
    split at hcount
    · rename_i hp
      exact iff_of_true (List.length_pos_iff.mp (of_decide_eq_true hcount)) hp
    · rename_i hp
      have hnil : d.denialGuards.length = 0 := Nat.le_zero.mp (of_decide_eq_true hcount)
      exact iff_of_false (not_not.mpr (List.length_eq_zero_iff.mp hnil)) hp
  · rintro ⟨hflags, hguarded⟩ posture rfl
    refine ⟨hflags.execution, hflags.review, hflags.approval, ?_⟩
    split
    · rename_i hp
      exact decide_eq_true (List.length_pos_iff.mpr (hguarded.mpr hp))
    · rename_i hp
      have hnil : d.denialGuards = [] := not_not.mp (mt hguarded.mp hp)
      simp [hnil]

/-- A serialised decision is accepted exactly when it fits. -/
theorem routeDecision_accepted_iff {times : DateTimes} {d : RouteDecision} :
    routeDecision times (d.toValue times) = true ↔ DecisionFits times d := by
  have hsplit : routeDecision times (d.toValue times) = true ↔
      object (properties times) (d.toValue times) = true ∧
        (conditionals.all fun schema => schema (d.toValue times)) = true := by
    simp [routeDecision, allOf]
  rw [hsplit, properties_accepted_iff, conditionals_accepted_iff]
  constructor
  · rintro ⟨⟨h₁, h₂, h₃, ⟨h₄, h₅⟩, h₆, h₇, ⟨h₈, h₉⟩, h₁₀⟩, h₁₁, h₁₂⟩
    exact ⟨h₁, h₂, h₃, h₅, h₄, h₆, h₇, h₈, h₉, h₁₀, h₁₁, h₁₂⟩
  · rintro ⟨h₁, h₂, h₃, h₅, h₄, h₆, h₇, h₈, h₉, h₁₀, h₁₁, h₁₂⟩
    exact ⟨⟨h₁, h₂, h₃, ⟨h₄, h₅⟩, h₆, h₇, ⟨h₈, h₉⟩, h₁₀⟩, h₁₁, h₁₂⟩

end RouteDecisionSchema

end FaLocal
