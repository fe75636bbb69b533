import FaLocal.GnatEventSchema
import FaLocal.NeuronForgeDispatch

/-!
# The schema of a NeuronForge dispatch event

What `neuronforge-task-dispatch-forensic-event.schema.json` asks of a serialised event. The
validation bounds identifiers in bytes, where the schema counts characters; but for that, an event
is valid exactly if the schema accepts it, and then it is read back.
-/
namespace FaLocal

/-! ## Serialised events -/

namespace NeuronForgeDispatchOutcome

def serdeName : NeuronForgeDispatchOutcome → String
  | .completed => "completed"
  | .notCompleted => "not_completed"
  | .dispatchUnavailable => "dispatch_unavailable"

def variants : List NeuronForgeDispatchOutcome := [.completed, .notCompleted, .dispatchUnavailable]

theorem serdeName_inj : Function.Injective serdeName := by
  intro o o' h
  cases o <;> cases o' <;> first | rfl | exact absurd h (by decide)

theorem mem_variants (outcome : NeuronForgeDispatchOutcome) : outcome ∈ variants := by
  cases outcome <;> decide

end NeuronForgeDispatchOutcome

namespace NeuronForgeReceiptValidationStatus

def serdeName : NeuronForgeReceiptValidationStatus → String
  | .valid => "valid"
  | .degraded => "degraded"
  | .failed => "failed"

def variants : List NeuronForgeReceiptValidationStatus := [.valid, .degraded, .failed]

def toValue (status : NeuronForgeReceiptValidationStatus) : Value := .string status.serdeName

theorem serdeName_inj : Function.Injective serdeName := by
  intro s s' h
  cases s <;> cases s' <;> first | rfl | exact absurd h (by decide)

end NeuronForgeReceiptValidationStatus

namespace NeuronForgeForensicRedactionLevel

def serdeName : NeuronForgeForensicRedactionLevel → String
  | .none => "none"
  | .sensitiveFieldsRedacted => "sensitive_fields_redacted"
  | .linkageOnly => "linkage_only"

def variants : List NeuronForgeForensicRedactionLevel :=
  [.none, .sensitiveFieldsRedacted, .linkageOnly]

end NeuronForgeForensicRedactionLevel

namespace NeuronForgeTaskDispatchForensicEvent

def toValue (times : DateTimes) (event : NeuronForgeTaskDispatchForensicEvent) : Value := .object [
  ("forensic_event_id", event.forensicEventId.toValue),
  ("dispatch_id", .string event.dispatchId),
  ("request_id", .string event.requestId),
  ("task_id", .string event.taskId),
  ("outcome", .string event.outcome.serdeName),
  ("receipt_validation_status",
    optionValue NeuronForgeReceiptValidationStatus.toValue event.receiptValidationStatus),
  ("timestamp_utc", .string (times.text event.timestampUtc)),
  ("summary", .string event.summary),
  ("redaction_level", .string event.redactionLevel.serdeName),
  ("payload_minimized", .bool event.payloadMinimized)]

def fromValue (times : TimeTexts) : Decoder NeuronForgeTaskDispatchForensicEvent := fun value => do
  let forensicEventId ← Decoder.field "forensic_event_id" .uuid value
  let dispatchId ← Decoder.field "dispatch_id" .string value
  let requestId ← Decoder.field "request_id" .string value
  let taskId ← Decoder.field "task_id" .string value
  let outcome ← Decoder.field "outcome"
    (.variant NeuronForgeDispatchOutcome.serdeName NeuronForgeDispatchOutcome.variants) value
  let receiptValidationStatus ← Decoder.optionalField "receipt_validation_status"
    (.variant NeuronForgeReceiptValidationStatus.serdeName
      NeuronForgeReceiptValidationStatus.variants) value
  let timestampUtc ← Decoder.field "timestamp_utc" (.timestamp times) value
  let summary ← Decoder.field "summary" .string value
  let redactionLevel ← Decoder.field "redaction_level"
    (.variant NeuronForgeForensicRedactionLevel.serdeName
      NeuronForgeForensicRedactionLevel.variants) value
  let payloadMinimized ← Decoder.field "payload_minimized" .bool value
  return { forensicEventId, dispatchId, requestId, taskId, outcome, receiptValidationStatus,
           timestampUtc, summary, redactionLevel, payloadMinimized }

end NeuronForgeTaskDispatchForensicEvent

/-! ## The schema -/

namespace NeuronForgeForensicEventSchema

open Schema
open RouteDecisionSchema (uuidText)

def outcome : Schema := enum ["completed", "not_completed", "dispatch_unavailable"]

def receiptValidationStatus : Schema := enum ["valid", "degraded", "failed"]

def properties (times : DateTimes) : List (String × Schema) := [
  ("forensic_event_id", uuidText),
  ("dispatch_id", text 1 200),
  ("request_id", text 1 200),
  ("task_id", text 1 200),
  ("outcome", outcome),
  ("receipt_validation_status", nullable receiptValidationStatus),
  ("timestamp_utc", dateTime times),
  ("summary", text 1 160),
  ("redaction_level", redactionLevel),
  ("payload_minimized", constBool true)]

/-- What each outcome asks of the status. -/
def statusRule : NeuronForgeDispatchOutcome → List (String × Schema)
  | .completed => [("receipt_validation_status", enum ["valid"])]
  | .notCompleted => [("receipt_validation_status", enum ["degraded", "failed"])]
  | .dispatchUnavailable => [("receipt_validation_status", null)]

/-- `neuronforge-task-dispatch-forensic-event.schema.json` -/
def neuronForgeTaskDispatchForensicEvent (times : DateTimes) : Schema := allOf [
  object (properties times),
  allOf [
    ifConst "outcome" "dispatch_unavailable" (statusRule .dispatchUnavailable),
    ifConst "outcome" "completed" (statusRule .completed),
    ifConst "outcome" "not_completed" (statusRule .notCompleted)]]

end NeuronForgeForensicEventSchema

namespace NeuronForgeTaskDispatchForensicEvent

/-- `NeuronForgeTaskDispatchForensicEvent::load_contract_value` -/
def loadContractValue (times : TimeTexts) :
    Value → Option NeuronForgeTaskDispatchForensicEvent :=
  loadContract (NeuronForgeForensicEventSchema.neuronForgeTaskDispatchForensicEvent
    times.toDateTimes) (fromValue times)

/-- An identifier of the versions and a time of the years that contracts can write. -/
structure Writable (event : NeuronForgeTaskDispatchForensicEvent) : Prop where
  forensicEventId : event.forensicEventId.Versioned
  timestampUtc : FourDigitYear event.timestampUtc

/-- Identifiers that are also short enough in bytes. -/
structure IdSizesFit (event : NeuronForgeTaskDispatchForensicEvent) : Prop where
  dispatchId : event.dispatchId.utf8ByteSize ≤ 200
  requestId : event.requestId.utf8ByteSize ≤ 200
  taskId : event.taskId.utf8ByteSize ≤ 200

/-- What the validation asks for. -/
structure Valid (event : NeuronForgeTaskDispatchForensicEvent) : Prop where
  summary : event.summary.isEmpty = false ∧ event.summary.toList.length ≤ 160
  dispatchId : 1 ≤ event.dispatchId.utf8ByteSize ∧ event.dispatchId.utf8ByteSize ≤ 200
  requestId : 1 ≤ event.requestId.utf8ByteSize ∧ event.requestId.utf8ByteSize ≤ 200
  taskId : 1 ≤ event.taskId.utf8ByteSize ∧ event.taskId.utf8ByteSize ≤ 200
  minimized : event.payloadMinimized = true
  status : StatusFits event.outcome event.receiptValidationStatus

theorem requireId_eq_ok_iff {value field : String} : requireId value field = .ok () ↔
    1 ≤ value.utf8ByteSize ∧ value.utf8ByteSize ≤ 200 := by
  rw [requireId, require_eq_ok, Bool.and_eq_true, decide_eq_true_eq, Bool.not_eq_true',
    Schema.isEmpty_eq_false_iff]

theorem valid_iff {event : NeuronForgeTaskDispatchForensicEvent} : event.Valid ↔
    (event.summary.isEmpty = false ∧ event.summary.toList.length ≤ 160) ∧
      (1 ≤ event.dispatchId.utf8ByteSize ∧ event.dispatchId.utf8ByteSize ≤ 200) ∧
      (1 ≤ event.requestId.utf8ByteSize ∧ event.requestId.utf8ByteSize ≤ 200) ∧
      (1 ≤ event.taskId.utf8ByteSize ∧ event.taskId.utf8ByteSize ≤ 200) ∧
      event.payloadMinimized = true ∧ StatusFits event.outcome event.receiptValidationStatus :=
  ⟨fun h => ⟨h.summary, h.dispatchId, h.requestId, h.taskId, h.minimized, h.status⟩,
    fun ⟨h₁, h₂, h₃, h₄, h₅, h₆⟩ => ⟨h₁, h₂, h₃, h₄, h₅, h₆⟩⟩

theorem validate_eq_ok {event : NeuronForgeTaskDispatchForensicEvent} :
    event.validate = .ok () ↔ event.Valid := by
  rw [valid_iff, validate]
  simp only [seq_eq_ok, require_eq_ok, requireId_eq_ok_iff, Bool.and_eq_true, decide_eq_true_eq,
    Bool.not_eq_true']
  cases event.outcome with
  | completed => simp [StatusFits]
  | dispatchUnavailable => simp [StatusFits]
  | notCompleted =>
    rcases event.receiptValidationStatus with _ | status
    · simp [StatusFits]
    · cases status <;> simp [StatusFits]

end NeuronForgeTaskDispatchForensicEvent

/-! ## What the schema asks of an event -/

namespace NeuronForgeForensicEventSchema

open Schema
open RouteDecisionSchema (uuidText)

variable {times : TimeTexts} {event : NeuronForgeTaskDispatchForensicEvent}

/-- The properties of a writable event. -/
structure PropertiesFit (event : NeuronForgeTaskDispatchForensicEvent) : Prop where
  dispatchId : text 1 200 (.string event.dispatchId) = true
  requestId : text 1 200 (.string event.requestId) = true
  taskId : text 1 200 (.string event.taskId) = true
  summary : text 1 160 (.string event.summary) = true
  minimized : event.payloadMinimized = true

theorem properties_nodup (times : DateTimes) : ((properties times).map Prod.fst).Nodup := by
  have hkeys : ["forensic_event_id", "dispatch_id", "request_id", "task_id", "outcome",
      "receipt_validation_status", "timestamp_utc", "summary", "redaction_level",
      "payload_minimized"].Nodup := by
    decide
  exact hkeys

theorem statuses_accepted (o : Option NeuronForgeReceiptValidationStatus) :
    ∀ status ∈ o, receiptValidationStatus status.toValue = true := by
  intro status _
  cases status <;> decide

theorem properties_iff (htimes : times.Rfc3339) (h : event.Writable) :
    object (properties times.toDateTimes) (event.toValue times.toDateTimes) = true ↔
      PropertiesFit event := by
  have hevent : uuidText event.forensicEventId.toValue = true := h.forensicEventId
  have houtcome : outcome (.string event.outcome.serdeName) = true := by
    cases event.outcome <;> decide
  have hlevel : redactionLevel (.string event.redactionLevel.serdeName) = true := by
    cases event.redactionLevel <;> decide
  have hstatus : nullable receiptValidationStatus
      (optionValue NeuronForgeReceiptValidationStatus.toValue event.receiptValidationStatus) =
        true := by
    rw [nullable_optionValue (fun _ => rfl) rfl, Option.all_eq_true]
    exact statuses_accepted _
  rw [properties, NeuronForgeTaskDispatchForensicEvent.toValue]
  refine (object_iff (by exact rfl) (by exact properties_nodup _)).trans ?_
  simp only [List.forall₂_cons, hevent, houtcome, hstatus, dateTime_text htimes h.timestampUtc,
    hlevel, constBool, beq_iff_eq, List.forall₂_nil_left_iff, and_true, true_and]
  constructor
  · rintro ⟨h₁, h₂, h₃, h₄, h₅⟩
    exact ⟨h₁, h₂, h₃, h₄, h₅⟩
  · intro h
    exact ⟨h.dispatchId, h.requestId, h.taskId, h.summary, h.minimized⟩

/-- The rule of an outcome is what the validation asks of the status. -/
theorem statusRule_iff (outcome : NeuronForgeDispatchOutcome)
    (status : Option NeuronForgeReceiptValidationStatus) {value : Value}
    (hget : value.get "receipt_validation_status" =
      some (optionValue NeuronForgeReceiptValidationStatus.toValue status)) :
    constrains (statusRule outcome) value = true ↔ StatusFits outcome status := by
  cases outcome with
  | completed =>
    rw [statusRule, constrains_cons hget, constrains_nil]
    rcases status with _ | _ | _ | _ <;> simp [StatusFits, optionValue, enum, checked,
      NeuronForgeReceiptValidationStatus.toValue, NeuronForgeReceiptValidationStatus.serdeName]
  | notCompleted =>
    rw [statusRule, constrains_cons hget, constrains_nil]
    rcases status with _ | _ | _ | _ <;> simp [StatusFits, optionValue, enum, checked,
      NeuronForgeReceiptValidationStatus.toValue, NeuronForgeReceiptValidationStatus.serdeName]
  | dispatchUnavailable =>
    rw [statusRule, constrains_cons hget, constrains_nil, null_optionValue fun _ => rfl]
    cases status <;> simp [StatusFits]

theorem accepted_iff (htimes : times.Rfc3339) (h : event.Writable) :
    neuronForgeTaskDispatchForensicEvent times.toDateTimes (event.toValue times.toDateTimes) =
        true ↔
      PropertiesFit event ∧ StatusFits event.outcome event.receiptValidationStatus := by
  have houtcome : (event.toValue times.toDateTimes).get "outcome" =
      some (.string event.outcome.serdeName) := rfl
  have hstatus : (event.toValue times.toDateTimes).get "receipt_validation_status" =
      some (optionValue NeuronForgeReceiptValidationStatus.toValue
        event.receiptValidationStatus) := rfl
  have hmem : event.outcome ∈ [NeuronForgeDispatchOutcome.dispatchUnavailable, .completed,
      .notCompleted] := by
    cases event.outcome <;> decide
  have hrule : allOf ([NeuronForgeDispatchOutcome.dispatchUnavailable, .completed,
        .notCompleted].map fun outcome => ifConst "outcome" outcome.serdeName
          (statusRule outcome)) (event.toValue times.toDateTimes) = true ↔
      constrains (statusRule event.outcome) (event.toValue times.toDateTimes) = true :=
    allOf_ifConst NeuronForgeDispatchOutcome.serdeName_inj hmem houtcome
  rw [statusRule_iff event.outcome event.receiptValidationStatus hstatus] at hrule
  rw [← properties_iff htimes h, ← hrule, neuronForgeTaskDispatchForensicEvent, allOf,
    List.all_cons, List.all_cons, List.all_nil, Bool.and_true, Bool.and_eq_true]
  rfl

/-- The schema asks for what the validation asks for, but for the sizes of identifiers. -/
theorem accepted_iff_valid (htimes : times.Rfc3339) (h : event.Writable) :
    neuronForgeTaskDispatchForensicEvent times.toDateTimes (event.toValue times.toDateTimes) =
        true ∧ event.IdSizesFit ↔ event.Valid := by
  rw [accepted_iff htimes h, NeuronForgeTaskDispatchForensicEvent.valid_iff,
    GnatForensicEventSchema.summary_iff, text_iff, text_iff, text_iff]
  constructor
  · rintro ⟨⟨hfit, hstatus⟩, hsizes⟩
    exact ⟨hfit.summary, ⟨hfit.dispatchId, hsizes.dispatchId⟩, ⟨hfit.requestId, hsizes.requestId⟩,
      ⟨hfit.taskId, hsizes.taskId⟩, hfit.minimized, hstatus⟩
  · rintro ⟨hsummary, ⟨hdispatch, hdispatchSize⟩, ⟨hrequest, hrequestSize⟩, ⟨htask, htaskSize⟩,
      hminimized, hstatus⟩
    exact ⟨⟨⟨hdispatch, hrequest, htask, hsummary, hminimized⟩, hstatus⟩,
      hdispatchSize, hrequestSize, htaskSize⟩

open Decoder in
/-- A writable event is read back. -/
theorem fromValue_toValue (htimes : times.Rfc3339) (h : event.Writable) :
    NeuronForgeTaskDispatchForensicEvent.fromValue times (event.toValue times.toDateTimes) =
      some event := by
  have houtcome : variant NeuronForgeDispatchOutcome.serdeName
      NeuronForgeDispatchOutcome.variants (.string event.outcome.serdeName) =
        some event.outcome :=
    variant_name (by decide) (NeuronForgeDispatchOutcome.mem_variants _)
  have hstatus : option (variant NeuronForgeReceiptValidationStatus.serdeName
      NeuronForgeReceiptValidationStatus.variants)
      (optionValue NeuronForgeReceiptValidationStatus.toValue event.receiptValidationStatus) =
        some event.receiptValidationStatus :=
    option_optionValue (fun _ => rfl) fun status _ =>
      variant_name (by decide) (by cases status <;> decide)
  have hlevel : variant NeuronForgeForensicRedactionLevel.serdeName
      NeuronForgeForensicRedactionLevel.variants (.string event.redactionLevel.serdeName) =
        some event.redactionLevel :=
    variant_name (by decide) (by cases event.redactionLevel <;> decide)
  rw [NeuronForgeTaskDispatchForensicEvent.fromValue]
  refine (bind_field rfl (uuid_toValue _)).trans ?_
  refine (bind_field rfl (string_string _)).trans ?_
  refine (bind_field rfl (string_string _)).trans ?_
  refine (bind_field rfl (string_string _)).trans ?_
  refine (bind_field rfl houtcome).trans ?_
  refine (bind_optionalField rfl hstatus).trans ?_
  refine (bind_field rfl (timestamp_text htimes h.timestampUtc)).trans ?_
  refine (bind_field rfl (string_string _)).trans ?_
  refine (bind_field rfl hlevel).trans ?_
  refine (bind_field rfl (bool_bool _)).trans ?_
  rfl

end NeuronForgeForensicEventSchema

open NeuronForgeForensicEventSchema (accepted_iff_valid fromValue_toValue)

theorem NeuronForgeTaskDispatchForensicEvent.loaded_iff {times : TimeTexts}
    (htimes : times.Rfc3339) {event : NeuronForgeTaskDispatchForensicEvent} (h : event.Writable) :
    loadContractValue times (event.toValue times.toDateTimes) = some event ∧ event.IdSizesFit ↔
      event.Valid := by
  rw [← accepted_iff_valid htimes h, loadContractValue]
  constructor
  · rintro ⟨hloaded, hsizes⟩
    exact ⟨(loadContract_eq_some.mp hloaded).1, hsizes⟩
  · rintro ⟨haccepted, hsizes⟩
    exact ⟨loadContract_eq_some.mpr ⟨haccepted, fromValue_toValue htimes h⟩, hsizes⟩

/-- What the validation takes is what is read back, with identifiers short enough in bytes. -/
theorem NeuronForgeTaskDispatchForensicEvent.valid_iff_loaded {times : TimeTexts}
    (htimes : times.Rfc3339) {event : NeuronForgeTaskDispatchForensicEvent} (h : event.Writable) :
    event.validate = .ok () ↔
      NeuronForgeTaskDispatchForensicEvent.loadContractValue times
          (event.toValue times.toDateTimes) = some event ∧ event.IdSizesFit :=
  validate_eq_ok.trans (loaded_iff htimes h).symm

namespace Fixture

/-- An event of a dispatch that came back degraded. -/
def neuronForgeDegradedEvent : NeuronForgeTaskDispatchForensicEvent where
  forensicEventId := idOf .forensicEvent 0xe2 0xe
  dispatchId := "dispatch-1"
  requestId := "request-1"
  taskId := admittedTaskId
  outcome := .notCompleted
  receiptValidationStatus := some .degraded
  timestampUtc := at2030 601
  summary := "NeuronForge Local dispatch dispatch-1 did not complete (Degraded)."
  redactionLevel := .linkageOnly
  payloadMinimized := true

theorem neuronForgeDegradedEvent_writable : neuronForgeDegradedEvent.Writable where
  forensicEventId := by decide +kernel
  timestampUtc := by decide

end Fixture

theorem NeuronForgeTaskDispatchForensicEvent.valid_iff_loaded_degraded :
    NeuronForgeTaskDispatchForensicEvent.loadContractValue Fixture.timeTexts
      (Fixture.neuronForgeDegradedEvent.toValue Fixture.timeTexts.toDateTimes) =
        some Fixture.neuronForgeDegradedEvent := by
  have hvalid : Fixture.neuronForgeDegradedEvent.validate = .ok () := by decide +kernel
  exact ((NeuronForgeTaskDispatchForensicEvent.valid_iff_loaded Fixture.timeTexts_rfc3339
    Fixture.neuronForgeDegradedEvent_writable).mp hvalid).1

end FaLocal
