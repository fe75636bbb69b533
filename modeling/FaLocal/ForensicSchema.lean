import FaLocal.ContractSchema

/-!
# The schema of a forensic event

What `forensic-event.schema.json` asks of a serialised event, and that this is what its
validation asks, but for the rules that the schema does not state.
-/
namespace FaLocal

def ForensicEventType.variants : List ForensicEventType :=
  [.denialIssued, .routeDecisionResolved, .reviewPackagePrepared, .executionStatusObserved]

theorem ForensicEventType.serdeName_inj : Function.Injective ForensicEventType.serdeName := by
  intro t t' h
  cases t <;> cases t' <;> first | rfl | exact absurd h (by decide)

theorem ForensicEventType.mem_variants (t : ForensicEventType) :
    t ∈ ForensicEventType.variants := by
  cases t <;> decide

def ForensicEvent.fromValue (times : TimeTexts) : Decoder ForensicEvent := fun value => do
  let forensicEventId ← Decoder.field "forensic_event_id" .uuid value
  let correlationId ← Decoder.field "correlation_id" .uuid value
  let requestId ← Decoder.field "request_id" .uuid value
  let eventType ← Decoder.field "event_type"
    (.variant ForensicEventType.serdeName ForensicEventType.variants) value
  let routeDecisionId ← Decoder.optionalField "route_decision_id" .uuid value
  let executionPlanId ← Decoder.optionalField "execution_plan_id" .uuid value
  let stablePlanHash ← Decoder.optionalField "stable_plan_hash" .string value
  let reviewPackageId ← Decoder.optionalField "review_package_id" .uuid value
  let timestampUtc ← Decoder.field "timestamp_utc" (.timestamp times) value
  let currentPosture ← Decoder.field "current_posture" .approvalPosture value
  let executionState ← Decoder.field "execution_state" .executionState value
  let degradedSubtype ← Decoder.optionalField "degraded_subtype" .degradedSubtype value
  let summary ← Decoder.field "summary" .string value
  let redactionLevel ← Decoder.field "redaction_level" .redactionLevel value
  let payloadMinimized ← Decoder.field "payload_minimized" .bool value
  return { forensicEventId, correlationId, requestId, eventType, routeDecisionId,
           executionPlanId, stablePlanHash, reviewPackageId, timestampUtc, currentPosture,
           executionState, degradedSubtype, summary, redactionLevel, payloadMinimized }

/-! ## The schema -/

namespace ForensicEventSchema

open Schema
open RouteDecisionSchema (uuidText approvalPosture degradedSubtype)

def eventType : Schema := enum ["denial_issued", "route_decision_resolved",
  "review_package_prepared", "execution_status_observed"]

def properties (times : DateTimes) : List (String × Schema) := [
  ("forensic_event_id", uuidText),
  ("correlation_id", uuidText),
  ("request_id", uuidText),
  ("event_type", eventType),
  ("route_decision_id", nullable uuidText),
  ("execution_plan_id", nullable uuidText),
  ("stable_plan_hash", nullable hash),
  ("review_package_id", nullable uuidText),
  ("timestamp_utc", dateTime times),
  ("current_posture", approvalPosture),
  ("execution_state", executionState),
  ("degraded_subtype", nullable degradedSubtype),
  ("summary", text 1 160),
  ("redaction_level", redactionLevel),
  ("payload_minimized", constBool true)]

/-- The `then` part of each type of event. -/
def eventRules : ForensicEventType → List (String × Schema)
  | .denialIssued => [
      ("route_decision_id", null),
      ("execution_plan_id", null),
      ("stable_plan_hash", null),
      ("review_package_id", null),
      ("current_posture", enum ["denied"]),
      ("execution_state", enum ["denied"]),
      ("degraded_subtype", null)]
  | .routeDecisionResolved => [
      ("route_decision_id", uuidText),
      ("execution_plan_id", null),
      ("stable_plan_hash", null),
      ("review_package_id", null),
      ("execution_state",
        enum ["denied", "review_required", "waiting_explicit_approval", "admitted_not_started"])]
  | .reviewPackagePrepared => [
      ("route_decision_id", uuidText),
      ("execution_plan_id", uuidText),
      ("stable_plan_hash", hash),
      ("review_package_id", uuidText),
      ("current_posture", enum ["explicit_operator_approval"]),
      ("execution_state", enum ["waiting_explicit_approval"])]
  | .executionStatusObserved => [
      ("execution_plan_id", uuidText),
      ("stable_plan_hash", hash),
      ("current_posture", admittedPosture),
      ("execution_state", enum ["admitted_not_started", "in_progress", "degraded",
        "partial_success", "completed_with_constraints", "completed", "failed", "canceled"])]

/-- `forensic-event.schema.json` -/
def forensicEvent (times : DateTimes) : Schema :=
  allOf (object (properties times) :: planLinked ++ ForensicEventType.variants.map fun type =>
    ifConst "event_type" type.serdeName (eventRules type))

end ForensicEventSchema

/-- `ForensicEvent::load_contract_value` -/
def ForensicEvent.loadContractValue (times : TimeTexts) : Value → Option ForensicEvent :=
  loadContract (ForensicEventSchema.forensicEvent times.toDateTimes)
    (ForensicEvent.fromValue times)

/-! ## What the schema asks of an event -/

/-- Identifiers of the versions and a time of the years that contracts can write. -/
structure ForensicEvent.Writable (event : ForensicEvent) : Prop where
  forensicEventId : event.forensicEventId.Versioned
  correlationId : event.correlationId.Versioned
  requestId : event.requestId.Versioned
  routeDecisionId : ∀ i ∈ event.routeDecisionId, i.Versioned
  executionPlanId : ∀ i ∈ event.executionPlanId, i.Versioned
  reviewPackageId : ∀ i ∈ event.reviewPackageId, i.Versioned
  timestampUtc : FourDigitYear event.timestampUtc

namespace ForensicEventSchema

open Schema
open RouteDecisionSchema (uuidText approvalPosture degradedSubtype)

variable {times : TimeTexts} {event : ForensicEvent}

/-- The same object, in the words of the shared parts. -/
theorem toValue_eq (times : DateTimes) (event : ForensicEvent) : event.toValue times = .object [
    ("forensic_event_id", event.forensicEventId.toValue),
    ("correlation_id", event.correlationId.toValue),
    ("request_id", event.requestId.toValue),
    ("event_type", .string event.eventType.serdeName),
    ("route_decision_id", optionValue UuidId.toValue event.routeDecisionId),
    ("execution_plan_id", optionValue UuidId.toValue event.executionPlanId),
    ("stable_plan_hash", optionValue .string event.stablePlanHash),
    ("review_package_id", optionValue UuidId.toValue event.reviewPackageId),
    ("timestamp_utc", .string (times.text event.timestampUtc)),
    ("current_posture", event.currentPosture.toValue),
    ("execution_state", event.executionState.toValue),
    ("degraded_subtype", optionValue DegradedSubtype.toValue event.degradedSubtype),
    ("summary", .string event.summary),
    ("redaction_level", .string event.redactionLevel.serdeName),
    ("payload_minimized", .bool event.payloadMinimized)] := rfl

/-- The properties of a writable event. -/
structure PropertiesFit (event : ForensicEvent) : Prop where
  hash : event.stablePlanHash.all isValidHash = true
  summary : text 1 160 (.string event.summary) = true
  minimized : event.payloadMinimized = true

theorem properties_nodup (times : DateTimes) : ((properties times).map Prod.fst).Nodup := by
  have hkeys : ["forensic_event_id", "correlation_id", "request_id", "event_type",
      "route_decision_id", "execution_plan_id", "stable_plan_hash", "review_package_id",
      "timestamp_utc", "current_posture", "execution_state", "degraded_subtype", "summary",
      "redaction_level", "payload_minimized"].Nodup := by
    decide
  exact hkeys

theorem properties_iff (htimes : times.Rfc3339) (h : event.Writable) :
    object (properties times.toDateTimes) (event.toValue times.toDateTimes) = true ↔
      PropertiesFit event := by
  have hevent : uuidText event.forensicEventId.toValue = true := h.forensicEventId
  have hcorrelation : uuidText event.correlationId.toValue = true := h.correlationId
  have hrequest : uuidText event.requestId.toValue = true := h.requestId
  have htype : eventType (.string event.eventType.serdeName) = true := by
    cases event.eventType <;> decide
  rw [properties, toValue_eq]
  refine (object_iff (by exact rfl) (by exact properties_nodup _)).trans ?_
  simp only [List.forall₂_cons, hevent, hcorrelation, hrequest, htype,
    nullable_ids h.routeDecisionId, nullable_ids h.executionPlanId, nullable_hash,
    nullable_ids h.reviewPackageId, dateTime_text htimes h.timestampUtc,
    RouteDecisionSchema.posture_accepted, executionState_accepted, nullable_subtypes,
    redactionLevel_accepted, constBool, beq_iff_eq, List.forall₂_nil_left_iff, and_true, true_and]
  constructor
  · rintro ⟨h₁, h₂, h₃⟩
    exact ⟨h₁, h₂, h₃⟩
  · intro h
    exact ⟨h.hash, h.summary, h.minimized⟩

/-- What the schema takes is writable. -/
theorem writable_of_accepted (htimes : times.Rfc3339)
    (h : forensicEvent times.toDateTimes (event.toValue times.toDateTimes) = true) :
    event.Writable := by
  rw [forensicEvent, allOf, List.cons_append, List.all_cons, Bool.and_eq_true] at h
  have hobject := h.1
  rw [properties, toValue_eq] at hobject
  have hfields := (object_iff (by exact rfl) (by exact properties_nodup _)).mp hobject
  simp only [List.forall₂_cons] at hfields
  obtain ⟨hevent, hcorrelation, hrequest, -, hdecision, hplan, -, hpackage, htime, -⟩ := hfields
  exact ⟨hevent, hcorrelation, hrequest, ids_of_nullable hdecision, ids_of_nullable hplan,
    ids_of_nullable hpackage, (htimes.printable _).mp htime⟩

/-- What a posture may be in a state. -/
def posturesOf : ExecutionState → List ApprovalPosture
  | .denied => [.denied]
  | .reviewRequired => [.reviewRequired]
  | .waitingExplicitApproval => [.explicitOperatorApproval]
  | _ => [.policyPreapproved, .executeAllowed]

/-- What a degraded subtype may be in an event of a type and a state. -/
def SubtypeFits (type : ForensicEventType) (state : ExecutionState)
    (subtype : Option DegradedSubtype) : Prop :=
  match type with
  | .reviewPackagePrepared => subtype = none ∨ isExplicitFallbackSubtype subtype = true
  | _ =>
    match state with
    | .degraded | .partialSuccess => subtype.isSome = true
    | .completedWithConstraints => isExplicitFallbackSubtype subtype = true
    | _ => subtype = none

/-- The rules that the schema does not state. -/
structure BeyondSchema (event : ForensicEvent) : Prop where
  summary : event.summary.utf8ByteSize ≤ 160
  silent : ForensicEvent.mentionsSemanticOrWorkflowNarration event.summary = false
  reviewLinked : event.reviewPackageId.isSome = true → event.routeDecisionId.isSome = true ∧
    event.executionPlanId.isSome = true ∧ event.stablePlanHash.isSome = true
  posture : event.currentPosture ∈ posturesOf event.executionState
  subtype : SubtypeFits event.eventType event.executionState event.degradedSubtype

theorem reviewLinked_iff : event.validateReviewPackageLinkage = .ok () ↔
    (event.reviewPackageId.isSome = true → event.routeDecisionId.isSome = true ∧
      event.executionPlanId.isSome = true ∧ event.stablePlanHash.isSome = true) := by
  rw [ForensicEvent.validateReviewPackageLinkage, require_eq_ok]
  cases event.reviewPackageId <;> cases event.routeDecisionId <;> cases event.executionPlanId <;>
    cases event.stablePlanHash <;> simp

theorem posture_iff : ForensicEvent.validatePostureStatePair event.currentPosture
    event.executionState = .ok () ↔ event.currentPosture ∈ posturesOf event.executionState := by
  cases event.executionState <;>
    simp only [ForensicEvent.validatePostureStatePair, ForensicEvent.requirePosture,
      require_eq_ok, List.contains_iff_mem, posturesOf]

theorem subtype_iff : ForensicEvent.validateDegradedSubtype event.eventType event.executionState
    event.degradedSubtype = .ok () ↔
      SubtypeFits event.eventType event.executionState event.degradedSubtype := by
  cases ht : event.eventType <;> cases event.executionState <;>
    simp [ForensicEvent.validateDegradedSubtype, SubtypeFits, ForensicEvent.requireSome,
      ForensicEvent.requireNone]

/-- What a conditional asks of its type of event is what the validation asks of it, but for
the subtype of a denial. -/
theorem eventRules_iff (h : event.Writable) (hfit : PropertiesFit event)
    (hsubtype : SubtypeFits event.eventType event.executionState event.degradedSubtype) :
    constrains (eventRules event.eventType) (event.toValue times.toDateTimes) = true ↔
      event.validateEventType = .ok () := by
  have hstate : ∀ allowed : List ExecutionState,
      enum (allowed.map ExecutionState.serdeName) event.executionState.toValue =
        allowed.contains event.executionState := by
    intro allowed
    exact enum_names ExecutionState.serdeName_inj allowed _
  have hdenied : enum ["denied"] event.executionState.toValue =
      [.denied].contains event.executionState := hstate [.denied]
  have hwaiting : enum ["waiting_explicit_approval"] event.executionState.toValue =
      [.waitingExplicitApproval].contains event.executionState :=
    hstate [.waitingExplicitApproval]
  have hpre : enum ["denied", "review_required", "waiting_explicit_approval",
      "admitted_not_started"] event.executionState.toValue =
      [.denied, .reviewRequired, .waitingExplicitApproval, .admittedNotStarted].contains
        event.executionState :=
    hstate [.denied, .reviewRequired, .waitingExplicitApproval, .admittedNotStarted]
  have hadmitted : enum ["admitted_not_started", "in_progress", "degraded", "partial_success",
      "completed_with_constraints", "completed", "failed", "canceled"]
      event.executionState.toValue = admittedStates.contains event.executionState :=
    hstate admittedStates
  rw [toValue_eq]
  cases ht : event.eventType
  all_goals
    simp only [eventRules, constrains, List.all_cons, List.all_nil, Bool.and_true, Value.get,
      List.lookup_cons, String.reduceBEq, Option.all_some, required_ids h.routeDecisionId,
      required_ids h.executionPlanId, required_ids h.reviewPackageId, required_hash hfit.hash,
      null_ids, null_strings, null_subtypes, posture_denied, posture_explicitApproval,
      admittedPosture_toValue, hdenied, hwaiting, hpre, hadmitted, Bool.and_eq_true,
      ForensicEvent.validateEventType, ht, ForensicEvent.requirePosture,
      ForensicEvent.requireState, ForensicEvent.requireNone, ForensicEvent.requireSome,
      seq_eq_ok, require_eq_ok]
  case denialIssued =>
    have hnone : [ExecutionState.denied].contains event.executionState = true →
        event.degradedSubtype.isNone = true := by
      intro hstate
      have hs : event.executionState = .denied := by simpa using hstate
      rw [ht, hs] at hsubtype
      exact Option.isNone_iff_eq_none.mpr hsubtype
    tauto
  all_goals tauto

theorem accepted_iff (htimes : times.Rfc3339) (h : event.Writable) :
    forensicEvent times.toDateTimes (event.toValue times.toDateTimes) = true ↔
      PropertiesFit event ∧ event.executionPlanId.isSome = event.stablePlanHash.isSome ∧
        constrains (eventRules event.eventType) (event.toValue times.toDateTimes) = true := by
  have htype : (event.toValue times.toDateTimes).get "event_type" =
      some (.string event.eventType.serdeName) := rfl
  rw [← properties_iff htimes h, ← allOf_ifConst ForensicEventType.serdeName_inj
    event.eventType.mem_variants htype, forensicEvent, allOf, List.all_append, List.all_cons,
    Bool.and_eq_true, Bool.and_eq_true, and_assoc]
  refine and_congr_right fun hobject => and_congr_left fun _ => ?_
  exact planLinked_iff rfl rfl h.executionPlanId ((properties_iff htimes h).mp hobject).hash

theorem validate_iff (htimes : times.Rfc3339) (h : event.Writable) :
    event.validate = .ok () ↔
      forensicEvent times.toDateTimes (event.toValue times.toDateTimes) = true ∧
        BeyondSchema event := by
  simp only [ForensicEvent.validate, seq_eq_ok, ForensicEvent.validateRequiredSummary,
    ForensicEvent.validateOptionalPlanLink, require_eq_ok, isBoundedText_iff_text, beq_iff_eq,
    reviewLinked_iff, posture_iff, subtype_iff, Bool.not_eq_true', accepted_iff htimes h]
  constructor
  · rintro ⟨⟨htext, hsize⟩, hlinked, hreview, hposture, hsubtype, hminimized, hhash, hsilent,
      htype⟩
    have hfit : PropertiesFit event := ⟨hhash, htext, hminimized⟩
    exact ⟨⟨hfit, hlinked, (eventRules_iff h hfit hsubtype).mpr htype⟩,
      hsize, hsilent, hreview, hposture, hsubtype⟩
  · rintro ⟨⟨hfit, hlinked, hrules⟩, hbeyond⟩
    exact ⟨⟨hfit.summary, hbeyond.summary⟩, hlinked, hbeyond.reviewLinked, hbeyond.posture,
      hbeyond.subtype, hfit.minimized, hfit.hash, hbeyond.silent,
      (eventRules_iff h hfit hbeyond.subtype).mp hrules⟩

open Decoder in
/-- An event is read back if its time is. -/
theorem fromValue_of_parse
    (h : times.parse (times.text event.timestampUtc) = some event.timestampUtc) :
    ForensicEvent.fromValue times (event.toValue times.toDateTimes) = some event := by
  have htype : variant ForensicEventType.serdeName ForensicEventType.variants
      (.string event.eventType.serdeName) = some event.eventType :=
    variant_name (by decide) event.eventType.mem_variants
  rw [ForensicEvent.fromValue, toValue_eq]
  refine (bind_field rfl (uuid_toValue _)).trans ?_
  refine (bind_field rfl (uuid_toValue _)).trans ?_
  refine (bind_field rfl (uuid_toValue _)).trans ?_
  refine (bind_field rfl htype).trans ?_
  refine (bind_optionalField rfl (option_ids _)).trans ?_
  refine (bind_optionalField rfl (option_ids _)).trans ?_
  refine (bind_optionalField rfl (option_strings _)).trans ?_
  refine (bind_optionalField rfl (option_ids _)).trans ?_
  refine (bind_field rfl h).trans ?_
  refine (bind_field rfl (approvalPosture_toValue _)).trans ?_
  refine (bind_field rfl (executionState_toValue _)).trans ?_
  refine (bind_optionalField rfl (option_subtypes _)).trans ?_
  refine (bind_field rfl (string_string _)).trans ?_
  refine (bind_field rfl (redactionLevel_serdeName _)).trans ?_
  refine (bind_field rfl (bool_bool _)).trans ?_
  rfl

/-- A writable event is read back. -/
theorem fromValue_toValue (htimes : times.Rfc3339) (h : event.Writable) :
    ForensicEvent.fromValue times (event.toValue times.toDateTimes) = some event :=
  fromValue_of_parse (htimes.parse_text _ h.timestampUtc)

end ForensicEventSchema

open ForensicEventSchema (forensicEvent BeyondSchema validate_iff fromValue_toValue)

/-- An event is valid when the schema takes it and the further rules hold; and then it is
loaded as what it is. -/
theorem ForensicEvent.event_valid_iff_accepted {times : TimeTexts} (htimes : times.Rfc3339)
    {event : ForensicEvent} (h : event.Writable) :
    (event.validate = .ok () ↔
      forensicEvent times.toDateTimes (event.toValue times.toDateTimes) = true ∧
        BeyondSchema event) ∧
    (event.validate = .ok () →
      ForensicEvent.loadContractValue times (event.toValue times.toDateTimes) = some event) := by
  refine ⟨validate_iff htimes h, fun hvalid => ?_⟩
  exact loadContract_eq_some.mpr
    ⟨((validate_iff htimes h).mp hvalid).1, fromValue_toValue htimes h⟩

namespace Fixture

/-- The basic event of an observed status. -/
def statusEvent : ForensicEvent where
  forensicEventId := idOf .forensicEvent 0xf2 0xf
  correlationId := id .correlation 6
  requestId := id .request 5
  eventType := .executionStatusObserved
  routeDecisionId := some ⟨⟨(uuid 7).bytes.set 15 0x73⟩⟩
  executionPlanId := some (id .executionPlan 9)
  stablePlanHash := some "a8f7e75a4a4ea309803cf16fec43a4adb788ddcaa5589d91a9c00a41a8f56df7"
  reviewPackageId := none
  timestampUtc := at2030 630
  currentPosture := .policyPreapproved
  executionState := .completedWithConstraints
  degradedSubtype := some .degradedFallbackLimited
  summary := "execution completed with declared local export constraints"
  redactionLevel := .linkageOnly
  payloadMinimized := true

theorem statusEvent_writable : statusEvent.Writable where
  forensicEventId := by decide +kernel
  correlationId := by decide +kernel
  requestId := by decide +kernel
  routeDecisionId := by decide +kernel
  executionPlanId := by decide +kernel
  reviewPackageId := by decide
  timestampUtc := by decide

theorem statusEvent_valid : statusEvent.validate = .ok () := by decide +kernel

end Fixture

theorem ForensicEvent.event_valid_iff_accepted_basic :
    forensicEvent Fixture.timeTexts.toDateTimes
        (Fixture.statusEvent.toValue Fixture.timeTexts.toDateTimes) = true ∧
      ForensicEvent.loadContractValue Fixture.timeTexts
        (Fixture.statusEvent.toValue Fixture.timeTexts.toDateTimes) =
          some Fixture.statusEvent := by
  obtain ⟨hiff, hload⟩ := ForensicEvent.event_valid_iff_accepted Fixture.timeTexts_rfc3339
    Fixture.statusEvent_writable
  exact ⟨(hiff.mp Fixture.statusEvent_valid).1, hload Fixture.statusEvent_valid⟩

end FaLocal
