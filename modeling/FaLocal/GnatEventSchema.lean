import FaLocal.ContractSchema
import FaLocal.GnatReport

/-!
# The schema of a Gnat dispatch event

What `gnat-dispatch-forensic-event.schema.json` asks of a serialised event, and which valid
events it rejects: those that name a shard of no or of too many characters.
-/
namespace FaLocal

/-! ## Serialised events -/

def GnatForensicEventType.serdeName : GnatForensicEventType → String
  | .gnatDispatchNegotiated => "gnat_dispatch_negotiated"
  | .gnatShardDispatched => "gnat_shard_dispatched"

def GnatNegotiationOutcome.serdeName : GnatNegotiationOutcome → String
  | .denied => "denied"
  | .serialFallbackPermitted => "serial_fallback_permitted"
  | .readyForFaLocalDispatch => "ready_for_fa_local_dispatch"

def GnatShardOutcome.serdeName : GnatShardOutcome → String
  | .completed => "completed"
  | .notCompleted => "not_completed"
  | .dispatchUnavailable => "dispatch_unavailable"

def GnatForensicRedactionLevel.serdeName : GnatForensicRedactionLevel → String
  | .none => "none"
  | .sensitiveFieldsRedacted => "sensitive_fields_redacted"
  | .linkageOnly => "linkage_only"

def GnatForensicEventType.variants : List GnatForensicEventType :=
  [.gnatDispatchNegotiated, .gnatShardDispatched]

def GnatNegotiationOutcome.variants : List GnatNegotiationOutcome :=
  [.denied, .serialFallbackPermitted, .readyForFaLocalDispatch]

def GnatWorkerType.variants : List GnatWorkerType :=
  [.markdownSyntax, .plainTextSyntax, .pdfTextSyntax, .docxTextSyntax, .rtfTextSyntax,
    .odtTextSyntax, .epubTextSyntax]

def GnatShardOutcome.variants : List GnatShardOutcome :=
  [.completed, .notCompleted, .dispatchUnavailable]

def GnatReceiptState.variants : List GnatReceiptState := [.complete, .denied, .stale, .failed]

def GnatForensicRedactionLevel.variants : List GnatForensicRedactionLevel :=
  [.none, .sensitiveFieldsRedacted, .linkageOnly]

def GnatWorkerType.toValue (worker : GnatWorkerType) : Value := .string worker.serdeName

def GnatShardOutcome.toValue (outcome : GnatShardOutcome) : Value := .string outcome.serdeName

def GnatReceiptState.toValue (state : GnatReceiptState) : Value := .string state.serdeName

def GnatDispatchForensicEvent.toValue (times : DateTimes) (event : GnatDispatchForensicEvent) :
    Value := .object [
  ("forensic_event_id", event.forensicEventId.toValue),
  ("correlation_id", event.correlationId.toValue),
  ("run_id", .string event.runId),
  ("event_type", .string event.eventType.serdeName),
  ("negotiation_outcome", .string event.negotiationOutcome.serdeName),
  ("shard_id", optionValue .string event.shardId),
  ("worker_type", optionValue GnatWorkerType.toValue event.workerType),
  ("shard_outcome", optionValue GnatShardOutcome.toValue event.shardOutcome),
  ("receipt_state", optionValue GnatReceiptState.toValue event.receiptState),
  ("timestamp_utc", .string (times.text event.timestampUtc)),
  ("summary", .string event.summary),
  ("redaction_level", .string event.redactionLevel.serdeName),
  ("payload_minimized", .bool event.payloadMinimized)]

def GnatDispatchForensicEvent.fromValue (times : TimeTexts) :
    Decoder GnatDispatchForensicEvent := fun value => do
  let forensicEventId ← Decoder.field "forensic_event_id" .uuid value
  let correlationId ← Decoder.field "correlation_id" .uuid value
  let runId ← Decoder.field "run_id" .string value
  let eventType ← Decoder.field "event_type"
    (.variant GnatForensicEventType.serdeName GnatForensicEventType.variants) value
  let negotiationOutcome ← Decoder.field "negotiation_outcome"
    (.variant GnatNegotiationOutcome.serdeName GnatNegotiationOutcome.variants) value
  let shardId ← Decoder.optionalField "shard_id" .string value
  let workerType ← Decoder.optionalField "worker_type"
    (.variant GnatWorkerType.serdeName GnatWorkerType.variants) value
  let shardOutcome ← Decoder.optionalField "shard_outcome"
    (.variant GnatShardOutcome.serdeName GnatShardOutcome.variants) value
  let receiptState ← Decoder.optionalField "receipt_state"
    (.variant GnatReceiptState.serdeName GnatReceiptState.variants) value
  let timestampUtc ← Decoder.field "timestamp_utc" (.timestamp times) value
  let summary ← Decoder.field "summary" .string value
  let redactionLevel ← Decoder.field "redaction_level"
    (.variant GnatForensicRedactionLevel.serdeName GnatForensicRedactionLevel.variants) value
  let payloadMinimized ← Decoder.field "payload_minimized" .bool value
  return { forensicEventId, correlationId, runId, eventType, negotiationOutcome, shardId,
           workerType, shardOutcome, receiptState, timestampUtc, summary, redactionLevel,
           payloadMinimized }

theorem GnatForensicEventType.serdeName_inj :
    Function.Injective GnatForensicEventType.serdeName := by
  intro t t' h
  cases t <;> cases t' <;> first | rfl | exact absurd h (by decide)

theorem GnatShardOutcome.serdeName_inj : Function.Injective GnatShardOutcome.serdeName := by
  intro o o' h
  cases o <;> cases o' <;> first | rfl | exact absurd h (by decide)

/-! ## The schema -/

namespace GnatForensicEventSchema

open Schema
open RouteDecisionSchema (uuidText)
open GnatDispatchEnvelopeSchema (workerType)

def eventType : Schema := enum ["gnat_dispatch_negotiated", "gnat_shard_dispatched"]

def negotiationOutcome : Schema :=
  enum ["denied", "serial_fallback_permitted", "ready_for_fa_local_dispatch"]

def shardOutcome : Schema := enum ["completed", "not_completed", "dispatch_unavailable"]

def receiptState : Schema := enum ["complete", "denied", "stale", "failed"]

def properties (times : DateTimes) : List (String × Schema) := [
  ("forensic_event_id", uuidText),
  ("correlation_id", uuidText),
  ("run_id", text 1 120),
  ("event_type", eventType),
  ("negotiation_outcome", negotiationOutcome),
  ("shard_id", nullable (text 1 160)),
  ("worker_type", nullable workerType),
  ("shard_outcome", nullable shardOutcome),
  ("receipt_state", nullable receiptState),
  ("timestamp_utc", dateTime times),
  ("summary", text 1 160),
  ("redaction_level", redactionLevel),
  ("payload_minimized", constBool true)]

/-- `if` a property is there and of these values, `then` others are constrained. -/
def ifNamed (key : String) (names : List String) (constrained : List (String × Schema)) :
    Schema := fun value =>
  if (value.get key).any (enum names) then constrains constrained value else true

/-- `gnat-dispatch-forensic-event.schema.json` -/
def gnatDispatchForensicEvent (times : DateTimes) : Schema := allOf [
  object (properties times),
  ifConst "event_type" "gnat_dispatch_negotiated" [
    ("shard_id", null),
    ("worker_type", null),
    ("shard_outcome", null),
    ("receipt_state", null)],
  ifConst "event_type" "gnat_shard_dispatched" [
    ("negotiation_outcome", enum ["ready_for_fa_local_dispatch"]),
    ("shard_id", anyText),
    ("worker_type", workerType),
    ("shard_outcome", shardOutcome)],
  ifNamed "shard_outcome" ["dispatch_unavailable"] [("receipt_state", null)],
  ifNamed "shard_outcome" ["completed", "not_completed"] [("receipt_state", receiptState)]]

end GnatForensicEventSchema

namespace GnatDispatchForensicEvent

/-- `GnatDispatchForensicEvent::load_contract_value` -/
def loadContractValue (times : TimeTexts) : Value → Option GnatDispatchForensicEvent :=
  loadContract (GnatForensicEventSchema.gnatDispatchForensicEvent times.toDateTimes)
    (GnatDispatchForensicEvent.fromValue times)

/-- Identifiers of the versions and a time of the years that contracts can write. -/
structure Writable (event : GnatDispatchForensicEvent) : Prop where
  forensicEventId : event.forensicEventId.Versioned
  correlationId : event.correlationId.Versioned
  timestampUtc : FourDigitYear event.timestampUtc

/-- A run that is also short enough in bytes. -/
def RunSizeFits (event : GnatDispatchForensicEvent) : Prop := event.runId.utf8ByteSize ≤ 120

end GnatDispatchForensicEvent

/-! ## What the schema asks of an event -/

namespace GnatForensicEventSchema

open Schema
open RouteDecisionSchema (uuidText)
open GnatDispatchEnvelopeSchema (workerType)

variable {times : TimeTexts} {event : GnatDispatchForensicEvent}

/-- The properties of a writable event. -/
structure PropertiesFit (event : GnatDispatchForensicEvent) : Prop where
  runId : text 1 120 (.string event.runId) = true
  shardId : event.shardId.all (fun s => text 1 160 (.string s)) = true
  summary : text 1 160 (.string event.summary) = true
  minimized : event.payloadMinimized = true

theorem properties_nodup (times : DateTimes) : ((properties times).map Prod.fst).Nodup := by
  have hkeys : ["forensic_event_id", "correlation_id", "run_id", "event_type",
      "negotiation_outcome", "shard_id", "worker_type", "shard_outcome", "receipt_state",
      "timestamp_utc", "summary", "redaction_level", "payload_minimized"].Nodup := by
    decide
  exact hkeys

theorem workers_accepted (o : Option GnatWorkerType) :
    ∀ worker ∈ o, workerType worker.toValue = true :=
  fun worker _ => GnatDispatchEnvelopeSchema.workerType_accepted worker

theorem outcomes_accepted (o : Option GnatShardOutcome) :
    ∀ outcome ∈ o, shardOutcome outcome.toValue = true := by
  intro outcome _
  cases outcome <;> decide

theorem states_accepted (o : Option GnatReceiptState) :
    ∀ state ∈ o, receiptState state.toValue = true := by
  intro state _
  cases state <;> decide

theorem properties_iff (htimes : times.Rfc3339) (h : event.Writable) :
    object (properties times.toDateTimes) (event.toValue times.toDateTimes) = true ↔
      PropertiesFit event := by
  have hevent : uuidText event.forensicEventId.toValue = true := h.forensicEventId
  have hcorrelation : uuidText event.correlationId.toValue = true := h.correlationId
  have htype : eventType (.string event.eventType.serdeName) = true := by
    cases event.eventType <;> decide
  have hnegotiation : negotiationOutcome (.string event.negotiationOutcome.serdeName) = true := by
    cases event.negotiationOutcome <;> decide
  have hlevel : redactionLevel (.string event.redactionLevel.serdeName) = true := by
    cases event.redactionLevel <;> decide
  have hworker : nullable workerType (optionValue GnatWorkerType.toValue event.workerType) =
      true := by
    rw [nullable_optionValue (fun _ => rfl) rfl, Option.all_eq_true]
    exact workers_accepted _
  have houtcome : nullable shardOutcome
      (optionValue GnatShardOutcome.toValue event.shardOutcome) = true := by
    rw [nullable_optionValue (fun _ => rfl) rfl, Option.all_eq_true]
    exact outcomes_accepted _
  have hstate : nullable receiptState
      (optionValue GnatReceiptState.toValue event.receiptState) = true := by
    rw [nullable_optionValue (fun _ => rfl) rfl, Option.all_eq_true]
    exact states_accepted _
  rw [properties, GnatDispatchForensicEvent.toValue]
  refine (object_iff (by exact rfl) (by exact properties_nodup _)).trans ?_
  simp only [List.forall₂_cons, hevent, hcorrelation, htype, hnegotiation, nullable_text, hworker,
    houtcome, hstate, dateTime_text htimes h.timestampUtc, hlevel, constBool, beq_iff_eq,
    List.forall₂_nil_left_iff, and_true, true_and]
  constructor
  · rintro ⟨h₁, h₂, h₃, h₄⟩
    exact ⟨h₁, h₂, h₃, h₄⟩
  · intro h
    exact ⟨h.runId, h.shardId, h.summary, h.minimized⟩

/-- A conditional on a field that may be `null`. -/
theorem ifNamed_of_get {σ : Type} [DecidableEq σ] {name : σ → String}
    (hname : Function.Injective name) {key : String} (allowed : List σ) {o : Option σ}
    (constrained : List (String × Schema)) {value : Value}
    (hget : value.get key = some (optionValue (fun s => .string (name s)) o)) :
    ifNamed key (allowed.map name) constrained value = true ↔
      (∀ s ∈ o, s ∈ allowed → constrains constrained value = true) := by
  rw [ifNamed, hget, Option.any_some, enum_optionValue hname]
  cases o with
  | none => simp
  | some s => by_cases hs : s ∈ allowed <;> simp [hs]

/-- The fields of the type of an event, and the state of a receipt where there is one. -/
theorem accepted_iff (htimes : times.Rfc3339) (h : event.Writable) :
    gnatDispatchForensicEvent times.toDateTimes (event.toValue times.toDateTimes) = true ↔
      PropertiesFit event ∧ event.FieldsFit := by
  have htype : (event.toValue times.toDateTimes).get "event_type" =
      some (.string event.eventType.serdeName) := rfl
  have hnegotiation : (event.toValue times.toDateTimes).get "negotiation_outcome" =
      some (.string event.negotiationOutcome.serdeName) := rfl
  have hshard : (event.toValue times.toDateTimes).get "shard_id" =
      some (optionValue .string event.shardId) := rfl
  have hworker : (event.toValue times.toDateTimes).get "worker_type" =
      some (optionValue GnatWorkerType.toValue event.workerType) := rfl
  have houtcome : (event.toValue times.toDateTimes).get "shard_outcome" =
      some (optionValue GnatShardOutcome.toValue event.shardOutcome) := rfl
  have hstate : (event.toValue times.toDateTimes).get "receipt_state" =
      some (optionValue GnatReceiptState.toValue event.receiptState) := rfl
  have hnegotiated : event.eventType.serdeName = "gnat_dispatch_negotiated" ↔
      event.eventType = .gnatDispatchNegotiated :=
    GnatForensicEventType.serdeName_inj.eq_iff (b := .gnatDispatchNegotiated)
  have hdispatched : event.eventType.serdeName = "gnat_shard_dispatched" ↔
      event.eventType = .gnatShardDispatched :=
    GnatForensicEventType.serdeName_inj.eq_iff (b := .gnatShardDispatched)
  have hready : enum ["ready_for_fa_local_dispatch"]
      (.string event.negotiationOutcome.serdeName) =
        decide (event.negotiationOutcome = .readyForFaLocalDispatch) := by
    cases event.negotiationOutcome <;> decide
  have hunavailable := ifNamed_of_get GnatShardOutcome.serdeName_inj [.dispatchUnavailable]
    [("receipt_state", null)] houtcome
  have hreceipt := ifNamed_of_get GnatShardOutcome.serdeName_inj [.completed, .notCompleted]
    [("receipt_state", receiptState)] houtcome
  simp only [List.map_cons, List.map_nil, GnatShardOutcome.serdeName] at hunavailable hreceipt
  have hshardText : anyText (optionValue .string event.shardId) = event.shardId.isSome :=
    required_optionValue rfl fun _ _ => rfl
  have hworkerText : workerType (optionValue GnatWorkerType.toValue event.workerType) =
      event.workerType.isSome := required_optionValue rfl (workers_accepted _)
  have houtcomeText : shardOutcome (optionValue GnatShardOutcome.toValue event.shardOutcome) =
      event.shardOutcome.isSome := required_optionValue rfl (outcomes_accepted _)
  have hstateText : receiptState (optionValue GnatReceiptState.toValue event.receiptState) =
      event.receiptState.isSome := required_optionValue rfl (states_accepted _)
  have hworkerNull : null (optionValue GnatWorkerType.toValue event.workerType) =
      event.workerType.isNone := null_optionValue fun _ => rfl
  have houtcomeNull : null (optionValue GnatShardOutcome.toValue event.shardOutcome) =
      event.shardOutcome.isNone := null_optionValue fun _ => rfl
  have hstateNull : null (optionValue GnatReceiptState.toValue event.receiptState) =
      event.receiptState.isNone := null_optionValue fun _ => rfl
  rw [← properties_iff htimes h, gnatDispatchForensicEvent, allOf, List.all_cons, Bool.and_eq_true]
  refine and_congr_right fun _ => ?_
  simp only [List.all_cons, List.all_nil, Bool.and_true, Bool.and_eq_true, ifConst_of_get htype,
    hnegotiated, hdispatched, constrains_cons hnegotiation, constrains_cons hshard,
    constrains_cons hworker, constrains_cons houtcome, constrains_cons hstate, constrains_nil,
    hunavailable, hreceipt, hready, hshardText, hworkerText, houtcomeText, hstateText, null_strings,
    hworkerNull, houtcomeNull, hstateNull, GnatDispatchForensicEvent.FieldsFit]
  cases event.eventType with
  | gnatDispatchNegotiated =>
    cases event.shardOutcome <;> simp
  | gnatShardDispatched =>
    cases event.shardOutcome with
    | none => simp
    | some outcome =>
      cases outcome <;> cases event.receiptState <;> simp

theorem summary_iff {s : String} : (s.isEmpty = false ∧ s.toList.length ≤ 160) ↔
    text 1 160 (.string s) = true := by
  rw [text, Bool.and_eq_true, decide_eq_true_eq, decide_eq_true_eq, isEmpty_eq_false_iff,
    ← one_le_length_iff]

theorem runId_iff {s : String} :
    RunIdFits s ↔ text 1 120 (.string s) = true ∧ s.utf8ByteSize ≤ 120 := by
  rw [← text_iff, RunIdFits, isEmpty_eq_false_iff]

/-- The schema asks for what the validation asks for, and for a bounded shard. -/
theorem accepted_iff_valid (htimes : times.Rfc3339) (h : event.Writable) :
    gnatDispatchForensicEvent times.toDateTimes (event.toValue times.toDateTimes) = true ∧
        event.RunSizeFits ↔
      event.validate = .ok () ∧ event.shardId.all (fun s => text 1 160 (.string s)) = true := by
  rw [accepted_iff htimes h, GnatDispatchForensicEvent.validate_eq_ok, summary_iff, runId_iff]
  constructor
  · rintro ⟨⟨hfit, hfields⟩, hsize⟩
    exact ⟨⟨hfit.summary, ⟨hfit.runId, hsize⟩, hfit.minimized, hfields⟩, hfit.shardId⟩
  · rintro ⟨⟨hsummary, ⟨hrun, hsize⟩, hminimized, hfields⟩, hshard⟩
    exact ⟨⟨⟨hrun, hshard, hsummary, hminimized⟩, hfields⟩, hsize⟩

open Decoder in
/-- A writable event is read back. -/
theorem fromValue_toValue (htimes : times.Rfc3339) (h : event.Writable) :
    GnatDispatchForensicEvent.fromValue times (event.toValue times.toDateTimes) =
      some event := by
  have htype : variant GnatForensicEventType.serdeName GnatForensicEventType.variants
      (.string event.eventType.serdeName) = some event.eventType :=
    variant_name (by decide) (by cases event.eventType <;> decide)
  have hnegotiation : variant GnatNegotiationOutcome.serdeName GnatNegotiationOutcome.variants
      (.string event.negotiationOutcome.serdeName) = some event.negotiationOutcome :=
    variant_name (by decide) (by cases event.negotiationOutcome <;> decide)
  have hworker : option (variant GnatWorkerType.serdeName GnatWorkerType.variants)
      (optionValue GnatWorkerType.toValue event.workerType) = some event.workerType :=
    option_optionValue (fun _ => rfl) fun worker _ =>
      variant_name (by decide) (by cases worker <;> decide)
  have houtcome : option (variant GnatShardOutcome.serdeName GnatShardOutcome.variants)
      (optionValue GnatShardOutcome.toValue event.shardOutcome) = some event.shardOutcome :=
    option_optionValue (fun _ => rfl) fun outcome _ =>
      variant_name (by decide) (by cases outcome <;> decide)
  have hstate : option (variant GnatReceiptState.serdeName GnatReceiptState.variants)
      (optionValue GnatReceiptState.toValue event.receiptState) = some event.receiptState :=
    option_optionValue (fun _ => rfl) fun state _ =>
      variant_name (by decide) (by cases state <;> decide)
  have hlevel : variant GnatForensicRedactionLevel.serdeName GnatForensicRedactionLevel.variants
      (.string event.redactionLevel.serdeName) = some event.redactionLevel :=
    variant_name (by decide) (by cases event.redactionLevel <;> decide)
  rw [GnatDispatchForensicEvent.fromValue]
  refine (bind_field rfl (uuid_toValue _)).trans ?_
  refine (bind_field rfl (uuid_toValue _)).trans ?_
  refine (bind_field rfl (string_string _)).trans ?_
  refine (bind_field rfl htype).trans ?_
  refine (bind_field rfl hnegotiation).trans ?_
  refine (bind_optionalField rfl (option_strings _)).trans ?_
  refine (bind_optionalField rfl hworker).trans ?_
  refine (bind_optionalField rfl houtcome).trans ?_
  refine (bind_optionalField rfl hstate).trans ?_
  refine (bind_field rfl (timestamp_text htimes h.timestampUtc)).trans ?_
  refine (bind_field rfl (string_string _)).trans ?_
  refine (bind_field rfl hlevel).trans ?_
  refine (bind_field rfl (bool_bool _)).trans ?_
  rfl

end GnatForensicEventSchema

/-! ## Unreadable events -/

namespace GnatDispatchForensicEvent

/-- A well-formed event of a dispatched shard, but for the length of the shard's name. -/
structure NamesUnboundedShard (event : GnatDispatchForensicEvent) : Prop where
  eventType : event.eventType = .gnatShardDispatched
  negotiationOutcome : event.negotiationOutcome = .readyForFaLocalDispatch
  workerType : event.workerType.isSome = true
  receipt : ∃ outcome, event.shardOutcome = some outcome ∧
    (event.receiptState.isSome = true ↔ outcome ≠ .dispatchUnavailable)
  runId : 1 ≤ event.runId.utf8ByteSize ∧ event.runId.utf8ByteSize ≤ 120
  summary : 1 ≤ event.summary.toList.length ∧ event.summary.toList.length ≤ 160
  minimized : event.payloadMinimized = true
  shardId : ∃ shardId, event.shardId = some shardId ∧
    ¬ (1 ≤ shardId.toList.length ∧ shardId.toList.length ≤ 160)

/-- These are the valid events with an unbounded shard. -/
theorem namesUnboundedShard_iff {event : GnatDispatchForensicEvent} :
    event.NamesUnboundedShard ↔ event.validate = .ok () ∧
      ¬ event.shardId.all (fun s => Schema.text 1 160 (.string s)) = true := by
  have htext : ∀ s : String, Schema.text 1 160 (.string s) = true ↔
      1 ≤ s.toList.length ∧ s.toList.length ≤ 160 := by
    intro s
    rw [Schema.text, Bool.and_eq_true, decide_eq_true_eq, decide_eq_true_eq]
  rw [validate_eq_ok, GnatForensicEventSchema.summary_iff, htext, RunIdFits,
    Schema.isEmpty_eq_false_iff, FieldsFit]
  constructor
  · intro h
    obtain ⟨shardId, hshard, hlength⟩ := h.shardId
    have hsome : event.shardId.isSome = true := Option.isSome_iff_exists.mpr ⟨shardId, hshard⟩
    rw [h.eventType]
    refine ⟨⟨h.summary, h.runId, h.minimized, h.negotiationOutcome, hsome, h.workerType,
      h.receipt⟩, fun hall => ?_⟩
    rw [hshard, Option.all_some, htext] at hall
    exact hlength hall
  · rintro ⟨⟨hsummary, hrun, hminimized, hfields⟩, hshard⟩
    obtain ⟨shardId, hs⟩ : ∃ shardId, event.shardId = some shardId := by
      by_contra hnone
      rw [Option.eq_none_iff_forall_ne_some.mpr (not_exists.mp hnone)] at hshard
      exact hshard rfl
    rw [hs, Option.all_some, htext] at hshard
    cases htype : event.eventType with
    | gnatDispatchNegotiated =>
      rw [htype] at hfields
      rw [hfields.1] at hs
      cases hs
    | gnatShardDispatched =>
      rw [htype] at hfields
      obtain ⟨hready, -, hworker, hreceipt⟩ := hfields
      exact ⟨htype, hready, hworker, hreceipt, hrun, hsummary, hminimized, shardId, hs, hshard⟩

end GnatDispatchForensicEvent

open GnatForensicEventSchema (gnatDispatchForensicEvent accepted_iff_valid fromValue_toValue)

/-- The validation and the schema agree on an event, and what is valid is read back, unless the
event names a shard of no or of too many characters. -/
theorem GnatDispatchForensicEvent.valid_iff_accepted_iff {times : TimeTexts}
    (htimes : times.Rfc3339) {event : GnatDispatchForensicEvent} (h : event.Writable) :
    ((event.validate = .ok () ↔
        gnatDispatchForensicEvent times.toDateTimes (event.toValue times.toDateTimes) = true ∧
          event.runId.utf8ByteSize ≤ 120) ∧
      (event.validate = .ok () →
        GnatDispatchForensicEvent.loadContractValue times (event.toValue times.toDateTimes) =
          some event)) ↔
    ¬ event.NamesUnboundedShard := by
  have hiff := accepted_iff_valid htimes h
  rw [namesUnboundedShard_iff]
  constructor
  · rintro ⟨hagree, -⟩ ⟨hvalid, hshard⟩
    exact hshard (hiff.mp (hagree.mp hvalid)).2
  · intro hbounded
    have haccepted : event.validate = .ok () →
        gnatDispatchForensicEvent times.toDateTimes (event.toValue times.toDateTimes) = true ∧
          event.RunSizeFits := by
      intro hvalid
      refine hiff.mpr ⟨hvalid, ?_⟩
      by_contra hshard
      exact hbounded ⟨hvalid, hshard⟩
    refine ⟨⟨haccepted, fun haccepts => (hiff.mp haccepts).1⟩, fun hvalid => ?_⟩
    exact loadContract_eq_some.mpr ⟨(haccepted hvalid).1, fromValue_toValue htimes h⟩

namespace Fixture

/-- The basic event of a dispatched shard. -/
def gnatShardEvent : GnatDispatchForensicEvent where
  forensicEventId := idOf .forensicEvent 0xe2 0xe
  correlationId := idOf .correlation 0xaa 0xa
  runId := "gnat-run-fixture-001"
  eventType := .gnatShardDispatched
  negotiationOutcome := .readyForFaLocalDispatch
  shardId := some "gnat-run-fixture-001-shard-0000"
  workerType := some .markdownSyntax
  shardOutcome := some .completed
  receiptState := some .complete
  timestampUtc := at2030 601
  summary := "Cortex Gnat shard gnat-run-fixture-001-shard-0000 completed."
  redactionLevel := .linkageOnly
  payloadMinimized := true

theorem gnatShardEvent_writable : gnatShardEvent.Writable where
  forensicEventId := by decide
  correlationId := by decide
  timestampUtc := by decide

theorem gnatShardEvent_valid : gnatShardEvent.validate = .ok () := by decide

/-- The same event of a shard without a name. -/
def gnatNamelessEvent : GnatDispatchForensicEvent := { gnatShardEvent with shardId := some "" }

theorem gnatNamelessEvent_writable : gnatNamelessEvent.Writable :=
  ⟨gnatShardEvent_writable.forensicEventId, gnatShardEvent_writable.correlationId,
    gnatShardEvent_writable.timestampUtc⟩

end Fixture

theorem GnatDispatchForensicEvent.valid_iff_accepted_iff_basic :
    GnatDispatchForensicEvent.loadContractValue Fixture.timeTexts
      (Fixture.gnatShardEvent.toValue Fixture.timeTexts.toDateTimes) =
        some Fixture.gnatShardEvent := by
  have hnamed : ¬ Fixture.gnatShardEvent.NamesUnboundedShard := by
    intro h
    obtain ⟨shardId, hshard, hlength⟩ := h.shardId
    cases hshard
    exact hlength (by decide)
  have hload := ((GnatDispatchForensicEvent.valid_iff_accepted_iff Fixture.timeTexts_rfc3339
    Fixture.gnatShardEvent_writable).mpr hnamed).2
  exact hload Fixture.gnatShardEvent_valid

/-- The recorder takes the event without a name, and no reader does. -/
theorem GnatDispatchForensicEvent.valid_not_accepted_nameless :
    Fixture.gnatNamelessEvent.Writable ∧
      Fixture.gnatNamelessEvent.validate = .ok () ∧
      gnatDispatchForensicEvent Fixture.timeTexts.toDateTimes
        (Fixture.gnatNamelessEvent.toValue Fixture.timeTexts.toDateTimes) = false ∧
      GnatDispatchForensicEvent.loadContractValue Fixture.timeTexts
        (Fixture.gnatNamelessEvent.toValue Fixture.timeTexts.toDateTimes) = none :=
  ⟨Fixture.gnatNamelessEvent_writable, rfl, rfl, rfl⟩

end FaLocal
