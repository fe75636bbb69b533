import FaLocal.GnatDispatch

/-!
# Dispatch to NeuronForge Local

The one admitted task, its delivery over HTTP, the forensic event of a dispatch and
`NeuronForgeDispatchPipelineService::run`. The service behind the post, the clock and fresh
identifiers are parameters; the service may answer anything.
-/
namespace FaLocal

/-! ## Requests -/

def admittedTaskId : String := "analyze.style.scene.v1"

def neuronforgeLocalDefaultUrl : String := "http://127.0.0.1:9011"

def neuronforgeLocalTaskDispatchPath : String := "/api/v1/fa-local/task-dispatch"

structure ModelResourceDisclosure where
  routeClass : String
  modelId : String
  resourceBudgetClass : String
  executionMode : String
  deriving DecidableEq

/-- An object of `json!` keeps its members in the order of their names. -/
def ModelResourceDisclosure.toValue (disclosure : ModelResourceDisclosure) : Value := .object [
  ("execution_mode", .string disclosure.executionMode),
  ("model_id", .string disclosure.modelId),
  ("resource_budget_class", .string disclosure.resourceBudgetClass),
  ("route_class", .string disclosure.routeClass)]

structure NeuronForgeTaskDispatchRequest where
  dispatchId : String
  requestId : String
  taskId : String
  sceneText : String
  modelResourceDisclosure : ModelResourceDisclosure
  operatorVisibleMessage : String
  deriving DecidableEq

inductive NeuronForgeTaskDispatchResult where
  | completed (receipt : Value)
  | notCompleted (receipt : Value)
  | dispatchUnavailable (summary : String)

/-! ## Forensic events -/

inductive NeuronForgeDispatchOutcome where
  | completed | notCompleted | dispatchUnavailable
  deriving DecidableEq

inductive NeuronForgeReceiptValidationStatus where
  | valid | degraded | failed
  deriving DecidableEq

/-- `{status:?}` -/
def NeuronForgeReceiptValidationStatus.debug : NeuronForgeReceiptValidationStatus → String
  | .valid => "Valid"
  | .degraded => "Degraded"
  | .failed => "Failed"

inductive NeuronForgeForensicRedactionLevel where
  | none | sensitiveFieldsRedacted | linkageOnly
  deriving DecidableEq

structure NeuronForgeTaskDispatchForensicEvent where
  forensicEventId : ForensicEventId
  dispatchId : String
  requestId : String
  taskId : String
  outcome : NeuronForgeDispatchOutcome
  receiptValidationStatus : Option NeuronForgeReceiptValidationStatus
  timestampUtc : TimestampUtc
  summary : String
  redactionLevel : NeuronForgeForensicRedactionLevel
  payloadMinimized : Bool
  deriving DecidableEq

namespace NeuronForgeTaskDispatchForensicEvent

/-- An identifier is bounded in bytes. -/
def requireId (value field : String) : FaLocalResult Unit :=
  require (!value.isEmpty && value.utf8ByteSize ≤ 200)
    ("neuronforge task dispatch forensic event " ++ field ++
      " must be between 1 and 200 characters")

/-- The summary is bounded in characters. -/
def validate (event : NeuronForgeTaskDispatchForensicEvent) : FaLocalResult Unit := do
  require (!event.summary.isEmpty && event.summary.toList.length ≤ 160)
    "neuronforge task dispatch forensic event summary must be between 1 and 160 characters"
  requireId event.dispatchId "dispatch_id"
  requireId event.requestId "request_id"
  requireId event.taskId "task_id"
  require event.payloadMinimized
    ("neuronforge task dispatch forensic event payload_minimized must remain true for " ++
      "bounded forensics")
  match event.outcome with
  | .dispatchUnavailable =>
    require event.receiptValidationStatus.isNone
      ("dispatch_unavailable neuronforge task dispatch forensic event must not include " ++
        "receipt_validation_status")
  | .completed =>
    require (event.receiptValidationStatus == some .valid)
      ("completed neuronforge task dispatch forensic event requires " ++
        "receipt_validation_status valid")
  | .notCompleted =>
    match event.receiptValidationStatus with
    | some .degraded | some .failed => .ok ()
    | _ => .error (contractInvalid
        ("not_completed neuronforge task dispatch forensic event requires " ++
          "receipt_validation_status degraded or failed"))

end NeuronForgeTaskDispatchForensicEvent

structure ValidatedNeuronForgeTaskDispatchForensicEvent where
  event : NeuronForgeTaskDispatchForensicEvent
  valid : event.validate = .ok ()

namespace NeuronForgeTaskDispatchForensicEvent

def validated (event : NeuronForgeTaskDispatchForensicEvent) :
    FaLocalResult ValidatedNeuronForgeTaskDispatchForensicEvent :=
  match h : event.validate with
  | .ok () => .ok ⟨event, h⟩
  | .error e => .error e

/-- `NeuronForgeTaskDispatchForensicEvent::new` -/
def new (event : NeuronForgeTaskDispatchForensicEvent) :
    FaLocalResult NeuronForgeTaskDispatchForensicEvent := do
  event.validate
  return event

theorem new_validated {event : NeuronForgeTaskDispatchForensicEvent}
    (h : event.validate = .ok ()) : (event.new >>= validated) = .ok ⟨event, h⟩ := by
  rw [new, seq_of_ok h]
  change validated event = _
  rw [validated]
  split
  · rfl
  · rename_i e he
    rw [h] at he
    cases he

end NeuronForgeTaskDispatchForensicEvent

/-! ## The delivery -/

/-- What `ureq` makes of the answer to a post: a body of JSON or why it is none, a
refusing status with its body where that can be read, or why nothing came. -/
inductive HttpAnswer where
  | json (body : Except String Value)
  | status (status : UInt16) (body : Option String)
  | transport (text : String)

/-- A post with its answer, or an export call with its answer. -/
inductive NeuronForgeWorldEvent where
  | posted (url : String) (body : Value) (answer : HttpAnswer)
  | exported (event : NeuronForgeTaskDispatchForensicEvent) (answer : ForensicExportResult)

abbrev NeuronForgeTraced (β : Type) : Type := Traced NeuronForgeWorldEvent Abort β

/-- What a dispatch takes from outside besides its arguments; `nowText` is the clock as it
is serialised. -/
structure NeuronForgeEnvironment where
  neuronforgeLocalUrl : Option String
  nowText : String
  freshEventId : ForensicEventId
  post : List NeuronForgeWorldEvent → String → Value → HttpAnswer
  plainChar : Char → Bool

structure NeuronForgeTaskDeliveryAdapter where
  adapterId : String
  dispatchTask : NeuronForgeTaskDispatchRequest →
    NeuronForgeTraced NeuronForgeTaskDispatchResult

structure HttpNeuronForgeLocalAdapterConfig where
  baseUrlOverride : Option String
  deriving DecidableEq

/-- `receipt.get("schema_validation_status").and_then(Value::as_str)` -/
def schemaValidationStatus (receipt : Value) : Option String :=
  match receipt.get "schema_validation_status" with
  | some (.string status) => some status
  | _ => none

namespace HttpNeuronForgeLocalAdapter

section
variable (env : NeuronForgeEnvironment) (config : HttpNeuronForgeLocalAdapterConfig)

def neuronforgeLocalBaseUrl : String := env.neuronforgeLocalUrl.getD neuronforgeLocalDefaultUrl

def baseUrl : String := config.baseUrlOverride.getD (neuronforgeLocalBaseUrl env)

def dispatchUrl : String := baseUrl env config ++ neuronforgeLocalTaskDispatchPath

def dispatchBody (request : NeuronForgeTaskDispatchRequest) : Value := .object [
  ("contract_version", .string "FaLocalTaskDispatch.v1"),
  ("created_at", .string env.nowText),
  ("destination_service_id", .string "neuronforge-local"),
  ("dispatch_id", .string request.dispatchId),
  ("model_resource_disclosure", request.modelResourceDisclosure.toValue),
  ("operator_visible_message", .string request.operatorVisibleMessage),
  ("request_id", .string request.requestId),
  ("scene_text", .string request.sceneText),
  ("source_service_id", .string "fa-local"),
  ("task_id", .string request.taskId)]

/-- `{other:?}` of an optional text. -/
def debugOption (plainChar : Char → Bool) : Option String → String
  | none => "None"
  | some text => "Some(" ++ debugString plainChar text ++ ")"

def classifyReceipt (plainChar : Char → Bool) (receipt : Value) : NeuronForgeTaskDispatchResult :=
  match schemaValidationStatus receipt with
  | some "valid" => .completed receipt
  | some "degraded" | some "failed" => .notCompleted receipt
  | other => .dispatchUnavailable
      ("NeuronForge Local receipt had an unrecognized or missing schema_validation_status: " ++
        debugOption plainChar other)

def classifyAnswer (plainChar : Char → Bool) (url : String) :
    HttpAnswer → NeuronForgeTaskDispatchResult
  | .json (.ok receipt) => classifyReceipt plainChar receipt
  | .json (.error text) => .dispatchUnavailable
      ("NeuronForge Local returned a response that could not be parsed as JSON: " ++ text)
  | .status status body => .dispatchUnavailable
      ("NeuronForge Local rejected the dispatch (status " ++ toString status.toNat ++ "): " ++
        body.getD "<unreadable response body>")
  | .transport text => .dispatchUnavailable
      ("could not reach NeuronForge Local at " ++ url ++ ": " ++ text)

def dispatchTask (request : NeuronForgeTaskDispatchRequest) :
    NeuronForgeTraced NeuronForgeTaskDispatchResult :=
  if request.taskId != admittedTaskId then
    return .dispatchUnavailable
      ("task " ++ debugString env.plainChar request.taskId ++
        " is not admitted for FA-Local dispatch (only " ++
        debugString env.plainChar admittedTaskId ++ " is)")
  else do
    let url := dispatchUrl env config
    let body := dispatchBody env request
    let answer ← Traced.perform fun log =>
      (.posted url body (env.post log url body), env.post log url body)
    return classifyAnswer env.plainChar url answer

def adapter : NeuronForgeTaskDeliveryAdapter where
  adapterId := "http-neuronforge-local"
  dispatchTask := dispatchTask env config

end

end HttpNeuronForgeLocalAdapter

/-! ## Runs -/

structure NeuronForgeForensicRecordOutcome where
  event : ValidatedNeuronForgeTaskDispatchForensicEvent
  exportReference : Option String

structure NeuronForgeDispatchRunResult where
  outcome : NeuronForgeTaskDispatchResult
  forensicRecord : NeuronForgeForensicRecordOutcome

/-- `NeuronForgeForensicEventExportAdapter` -/
structure NeuronForgeForensicEventExportAdapter where
  adapterId : String
  exportEvent : List NeuronForgeWorldEvent → NeuronForgeTaskDispatchForensicEvent →
    ForensicExportResult

namespace NeuronForgeDispatchPipelineService

def recordForensicEvent (event : ValidatedNeuronForgeTaskDispatchForensicEvent)
    (exportAdapter : Option NeuronForgeForensicEventExportAdapter) :
    NeuronForgeTraced NeuronForgeForensicRecordOutcome :=
  match exportAdapter with
  | some adapter => do
    let answer ← Traced.perform fun log =>
      (.exported event.event (adapter.exportEvent log event.event),
        adapter.exportEvent log event.event)
    let receipt ← Traced.lift (ForensicService.mapExportResult adapter.adapterId answer)
    return { event := event, exportReference := some receipt.exportReference }
  | none => return { event := event, exportReference := none }

def receiptValidationStatusFromReceipt (plainChar : Char → Bool) (receipt : Value) :
    FaLocalResult NeuronForgeReceiptValidationStatus :=
  match schemaValidationStatus receipt with
  | none => .error (contractInvalid
      "NeuronForge Local receipt missing schema_validation_status field")
  | some "degraded" => .ok .degraded
  | some "failed" => .ok .failed
  | some other => .error (contractInvalid
      ("NeuronForge Local receipt reported an unrecognized schema_validation_status for a " ++
        "not-completed outcome: " ++ debugString plainChar other))

def boundedSummary (text : String) : String := GnatDispatchPipelineService.boundedSummary text

/-- The outcome, the status and the summary that an event reports. -/
def dispatchReport (plainChar : Char → Bool) (request : NeuronForgeTaskDispatchRequest) :
    NeuronForgeTaskDispatchResult → FaLocalResult (NeuronForgeDispatchOutcome ×
      Option NeuronForgeReceiptValidationStatus × String)
  | .completed _ =>
    return (.completed, some .valid, "NeuronForge Local dispatch " ++ request.dispatchId ++
      " completed for task " ++ request.taskId ++ ".")
  | .notCompleted receipt => do
    let status ← receiptValidationStatusFromReceipt plainChar receipt
    return (.notCompleted, some status, "NeuronForge Local dispatch " ++ request.dispatchId ++
      " did not complete (" ++ status.debug ++ ").")
  | .dispatchUnavailable summary => return (.dispatchUnavailable, none, summary)

def buildForensicEvent (plainChar : Char → Bool) (freshEventId : ForensicEventId)
    (request : NeuronForgeTaskDispatchRequest) (outcome : NeuronForgeTaskDispatchResult)
    (now : TimestampUtc) : FaLocalResult ValidatedNeuronForgeTaskDispatchForensicEvent := do
  let (dispatchOutcome, receiptValidationStatus, summary) ←
    dispatchReport plainChar request outcome
  let event ← NeuronForgeTaskDispatchForensicEvent.new {
    forensicEventId := freshEventId
    dispatchId := request.dispatchId
    requestId := request.requestId
    taskId := request.taskId
    outcome := dispatchOutcome
    receiptValidationStatus := receiptValidationStatus
    timestampUtc := now
    summary := boundedSummary summary
    redactionLevel := .linkageOnly
    payloadMinimized := true }
  event.validated

def run (env : NeuronForgeEnvironment) (request : NeuronForgeTaskDispatchRequest)
    (adapter : NeuronForgeTaskDeliveryAdapter)
    (forensicExportAdapter : Option NeuronForgeForensicEventExportAdapter) (now : TimestampUtc) :
    NeuronForgeTraced NeuronForgeDispatchRunResult := do
  let outcome ← adapter.dispatchTask request
  let event ← Traced.lift
    (buildForensicEvent env.plainChar env.freshEventId request outcome now)
  let forensicRecord ← recordForensicEvent event forensicExportAdapter
  return { outcome := outcome, forensicRecord := forensicRecord }

end NeuronForgeDispatchPipelineService

/-! ## What a dispatch obtains -/

/-- The task is admitted, and the service answers with a receipt that says `text`. -/
def ReceiptSays (env : NeuronForgeEnvironment) (config : HttpNeuronForgeLocalAdapterConfig)
    (request : NeuronForgeTaskDispatchRequest) (log : List NeuronForgeWorldEvent)
    (text : String) : Prop :=
  request.taskId = admittedTaskId ∧ ∃ receipt,
    env.post log (HttpNeuronForgeLocalAdapter.dispatchUrl env config)
      (HttpNeuronForgeLocalAdapter.dispatchBody env request) = .json (.ok receipt) ∧
    schemaValidationStatus receipt = some text

/-- The posts of a dispatch: one, and none for a task that is not admitted. -/
def dispatchPosts (env : NeuronForgeEnvironment) (config : HttpNeuronForgeLocalAdapterConfig)
    (request : NeuronForgeTaskDispatchRequest) (log : List NeuronForgeWorldEvent) :
    List NeuronForgeWorldEvent :=
  if request.taskId = admittedTaskId then
    [.posted (HttpNeuronForgeLocalAdapter.dispatchUrl env config)
      (HttpNeuronForgeLocalAdapter.dispatchBody env request)
      (env.post log (HttpNeuronForgeLocalAdapter.dispatchUrl env config)
        (HttpNeuronForgeLocalAdapter.dispatchBody env request))]
  else []

/-- The adapter's answer, by what the receipt says. -/
inductive Obtains (said : String → Prop) : NeuronForgeTaskDispatchResult → Prop where
  | completed {receipt : Value} : said "valid" → Obtains said (.completed receipt)
  | notCompleted {receipt : Value} {text : String} : said text →
      schemaValidationStatus receipt = some text → text = "degraded" ∨ text = "failed" →
      Obtains said (.notCompleted receipt)
  | dispatchUnavailable {summary : String} :
      (∀ text ∈ ["valid", "degraded", "failed"], ¬ said text) →
      Obtains said (.dispatchUnavailable summary)

section
variable {env : NeuronForgeEnvironment} {config : HttpNeuronForgeLocalAdapterConfig}
  {request : NeuronForgeTaskDispatchRequest} {log : List NeuronForgeWorldEvent}

theorem ReceiptSays.unique {text text' : String} (h : ReceiptSays env config request log text)
    (h' : ReceiptSays env config request log text') : text = text' := by
  obtain ⟨-, receipt, hanswer, htext⟩ := h
  obtain ⟨-, receipt', hanswer', htext'⟩ := h'
  rw [hanswer] at hanswer'
  cases hanswer'
  rw [htext] at htext'
  exact Option.some.inj htext'

namespace HttpNeuronForgeLocalAdapter

theorem classifyReceipt_obtains {said : String → Prop} {receipt : Value} (plainChar : Char → Bool)
    (h : ∀ text, said text ↔ schemaValidationStatus receipt = some text) :
    Obtains said (classifyReceipt plainChar receipt) := by
  rw [classifyReceipt]
  split
  · exact .completed ((h _).mpr ‹_›)
  · exact .notCompleted ((h _).mpr ‹_›) ‹_› (.inl rfl)
  · exact .notCompleted ((h _).mpr ‹_›) ‹_› (.inr rfl)
  · rename_i hvalid hdegraded hfailed
    refine .dispatchUnavailable ?_
    intro text hmem hsaid
    have hstatus := (h text).mp hsaid
    simp only [List.mem_cons, List.not_mem_nil, or_false] at hmem
    rcases hmem with rfl | rfl | rfl
    · exact hvalid hstatus
    · exact hdegraded hstatus
    · exact hfailed hstatus

/-- The adapter never fails, and posts once for the admitted task alone. -/
theorem dispatchTask_spec (env : NeuronForgeEnvironment)
    (config : HttpNeuronForgeLocalAdapterConfig) (request : NeuronForgeTaskDispatchRequest)
    (log : List NeuronForgeWorldEvent) :
    ∃ result, dispatchTask env config request log =
        (.ok result, log ++ dispatchPosts env config request log) ∧
      Obtains (ReceiptSays env config request log) result := by
  by_cases htask : request.taskId = admittedTaskId
  · refine ⟨classifyAnswer env.plainChar (dispatchUrl env config)
      (env.post log (dispatchUrl env config) (dispatchBody env request)), ?_, ?_⟩
    · rw [dispatchTask, dispatchPosts, if_pos htask, if_neg (by simpa using htask)]
      rfl
    · cases hanswer : env.post log (dispatchUrl env config) (dispatchBody env request) with
      | json body =>
        cases body with
        | ok receipt =>
          refine classifyReceipt_obtains _ ?_
          intro text
          constructor
          · rintro ⟨-, receipt', hanswer', htext⟩
            rw [hanswer] at hanswer'
            cases hanswer'
            exact htext
          · intro htext
            exact ⟨htask, receipt, hanswer, htext⟩
        | error text =>
          refine .dispatchUnavailable ?_
          rintro text - ⟨-, receipt, hanswer', -⟩
          rw [hanswer] at hanswer'
          cases hanswer'
      | status status body =>
        refine .dispatchUnavailable ?_
        rintro text - ⟨-, receipt, hanswer', -⟩
        rw [hanswer] at hanswer'
        cases hanswer'
      | transport text =>
        refine .dispatchUnavailable ?_
        rintro text - ⟨-, receipt, hanswer', -⟩
        rw [hanswer] at hanswer'
        cases hanswer'
  · rw [dispatchTask, dispatchPosts, if_neg htask, if_pos (by simpa using htask),
      List.append_nil]
    refine ⟨_, rfl, .dispatchUnavailable ?_⟩
    rintro text - ⟨hadmitted, -⟩
    exact htask hadmitted

end HttpNeuronForgeLocalAdapter

/-! ## The event of a dispatch -/

/-- The identifiers of a request that an event can carry. -/
structure NeuronForgeTaskDispatchRequest.IdsFit (request : NeuronForgeTaskDispatchRequest) :
    Prop where
  dispatchId : 1 ≤ request.dispatchId.utf8ByteSize ∧ request.dispatchId.utf8ByteSize ≤ 200
  requestId : 1 ≤ request.requestId.utf8ByteSize ∧ request.requestId.utf8ByteSize ≤ 200
  taskId : 1 ≤ request.taskId.utf8ByteSize ∧ request.taskId.utf8ByteSize ≤ 200

/-- An outcome with its status. -/
def StatusFits : NeuronForgeDispatchOutcome → Option NeuronForgeReceiptValidationStatus → Prop
  | .completed, status => status = some .valid
  | .notCompleted, status => status = some .degraded ∨ status = some .failed
  | .dispatchUnavailable, status => status = none

theorem requireId_eq_ok {value field : String}
    (h : 1 ≤ value.utf8ByteSize ∧ value.utf8ByteSize ≤ 200) :
    NeuronForgeTaskDispatchForensicEvent.requireId value field = .ok () := by
  have hempty : value.isEmpty = false := by
    rw [Bool.eq_false_iff, ne_eq, String.isEmpty_iff]
    rintro rfl
    exact absurd h.1 (by decide)
  simp [NeuronForgeTaskDispatchForensicEvent.requireId, hempty, h.2]

namespace NeuronForgeDispatchPipelineService

/-- An event that `run` builds, with the outcome and the status of `report`. -/
structure Reports (request : NeuronForgeTaskDispatchRequest) (now : TimestampUtc)
    (outcome : NeuronForgeDispatchOutcome) (status : Option NeuronForgeReceiptValidationStatus)
    (event : NeuronForgeTaskDispatchForensicEvent) : Prop where
  outcome : event.outcome = outcome
  status : event.receiptValidationStatus = status
  dispatchId : event.dispatchId = request.dispatchId
  requestId : event.requestId = request.requestId
  taskId : event.taskId = request.taskId
  timestampUtc : event.timestampUtc = now
  summary : 1 ≤ event.summary.toList.length ∧ event.summary.toList.length ≤ 160

theorem boundedSummary_length (text : String) :
    1 ≤ (boundedSummary text).toList.length ∧ (boundedSummary text).toList.length ≤ 160 := by
  obtain ⟨hempty, hlength⟩ := GnatDispatchPipelineService.boundedSummary_fits text
  refine ⟨List.length_pos_iff.mpr ?_, hlength⟩
  intro hnil
  rw [boundedSummary, ← String.toList_empty, String.toList_inj] at hnil
  rw [hnil] at hempty
  cases hempty

/-- What a report with a fitting status becomes passes its validation. -/
theorem buildForensicEvent_of_report {plainChar : Char → Bool}
    {result : NeuronForgeTaskDispatchResult} (freshEventId : ForensicEventId)
    (now : TimestampUtc) {outcome : NeuronForgeDispatchOutcome}
    {status : Option NeuronForgeReceiptValidationStatus}
    {summary : String} (hids : request.IdsFit)
    (hreport : dispatchReport plainChar request result = .ok (outcome, status, summary))
    (hfits : StatusFits outcome status) :
    ∃ v, buildForensicEvent plainChar freshEventId request result now = .ok v ∧
      Reports request now outcome status v.event := by
  have hvalid : NeuronForgeTaskDispatchForensicEvent.validate {
      forensicEventId := freshEventId
      dispatchId := request.dispatchId
      requestId := request.requestId
      taskId := request.taskId
      outcome := outcome
      receiptValidationStatus := status
      timestampUtc := now
      summary := boundedSummary summary
      redactionLevel := .linkageOnly
      payloadMinimized := true } = .ok () := by
    obtain ⟨hempty, hlength⟩ := GnatDispatchPipelineService.boundedSummary_fits summary
    rw [NeuronForgeTaskDispatchForensicEvent.validate,
      seq_of_ok (by simp [boundedSummary, hempty, hlength]),
      seq_of_ok (requireId_eq_ok hids.dispatchId), seq_of_ok (requireId_eq_ok hids.requestId),
      seq_of_ok (requireId_eq_ok hids.taskId), seq_of_ok (require_true _)]
    cases outcome with
    | completed =>
      cases hfits
      rfl
    | notCompleted => rcases hfits with rfl | rfl <;> rfl
    | dispatchUnavailable =>
      cases hfits
      rfl
  refine ⟨⟨_, hvalid⟩, ?_, ?_⟩
  · rw [buildForensicEvent, hreport]
    exact NeuronForgeTaskDispatchForensicEvent.new_validated hvalid
  · exact ⟨rfl, rfl, rfl, rfl, rfl, rfl, boundedSummary_length summary⟩

theorem receiptValidationStatus_eq_ok {plainChar : Char → Bool} {receipt : Value} {text : String}
    (hstatus : schemaValidationStatus receipt = some text)
    (htext : text = "degraded" ∨ text = "failed") :
    receiptValidationStatusFromReceipt plainChar receipt =
      .ok (if text = "degraded" then .degraded else .failed) := by
  rw [receiptValidationStatusFromReceipt, hstatus]
  rcases htext with rfl | rfl <;> rfl

/-- The event that stands for the adapter's answer. -/
theorem buildForensicEvent_obtained (plainChar : Char → Bool) (freshEventId : ForensicEventId)
    (now : TimestampUtc) {result : NeuronForgeTaskDispatchResult} {said : String → Prop}
    (hids : request.IdsFit) (h : Obtains said result) :
    ∃ v, buildForensicEvent plainChar freshEventId request result now = .ok v ∧
      (said "valid" ∧ Reports request now .completed (some .valid) v.event ∨
        said "degraded" ∧ Reports request now .notCompleted (some .degraded) v.event ∨
        said "failed" ∧ Reports request now .notCompleted (some .failed) v.event ∨
        (∀ text ∈ ["valid", "degraded", "failed"], ¬ said text) ∧
          Reports request now .dispatchUnavailable none v.event) := by
  cases h with
  | @completed receipt hsaid =>
    have hreport : dispatchReport plainChar request (.completed receipt) =
        .ok (.completed, some .valid, _) := rfl
    obtain ⟨v, hv, hreports⟩ := buildForensicEvent_of_report freshEventId now hids hreport rfl
    exact ⟨v, hv, .inl ⟨hsaid, hreports⟩⟩
  | @notCompleted receipt text hsaid hstatus htext =>
    obtain ⟨summary, hreport⟩ : ∃ summary, dispatchReport plainChar request
        (.notCompleted receipt) = .ok (.notCompleted,
          some (if text = "degraded" then .degraded else .failed), summary) := by
      rw [dispatchReport, receiptValidationStatus_eq_ok hstatus htext]
      exact ⟨_, rfl⟩
    rcases htext with rfl | rfl
    · obtain ⟨v, hv, hreports⟩ :=
        buildForensicEvent_of_report freshEventId now hids hreport (.inl rfl)
      exact ⟨v, hv, .inr (.inl ⟨hsaid, hreports⟩)⟩
    · obtain ⟨v, hv, hreports⟩ :=
        buildForensicEvent_of_report freshEventId now hids hreport (.inr rfl)
      exact ⟨v, hv, .inr (.inr (.inl ⟨hsaid, hreports⟩))⟩
  | @dispatchUnavailable summary hsaid =>
    have hreport : dispatchReport plainChar request (.dispatchUnavailable summary) =
        .ok (.dispatchUnavailable, none, summary) := rfl
    obtain ⟨v, hv, hreports⟩ := buildForensicEvent_of_report freshEventId now hids hreport rfl
    exact ⟨v, hv, .inr (.inr (.inr ⟨hsaid, hreports⟩))⟩

/-- Every run returns one valid event, and the receipt alone decides its outcome and its
status. A task that is not admitted is recorded as unavailable, and nothing is sent. -/
theorem run_recorded (env : NeuronForgeEnvironment) (config : HttpNeuronForgeLocalAdapterConfig)
    (request : NeuronForgeTaskDispatchRequest) (now : TimestampUtc)
    (log : List NeuronForgeWorldEvent) (hids : request.IdsFit) :
    ∃ result, run env request (HttpNeuronForgeLocalAdapter.adapter env config) none now log =
        (.ok result, log ++ dispatchPosts env config request log) ∧
      result.forensicRecord.exportReference = none ∧
      let event := result.forensicRecord.event.event
      event.validate = .ok () ∧
      (event.outcome = .completed ∧ event.receiptValidationStatus = some .valid ↔
        ReceiptSays env config request log "valid") ∧
      (event.outcome = .notCompleted ∧ event.receiptValidationStatus = some .degraded ↔
        ReceiptSays env config request log "degraded") ∧
      (event.outcome = .notCompleted ∧ event.receiptValidationStatus = some .failed ↔
        ReceiptSays env config request log "failed") ∧
      (event.outcome = .dispatchUnavailable ∧ event.receiptValidationStatus = none ↔
        ∀ text ∈ ["valid", "degraded", "failed"], ¬ ReceiptSays env config request log text) ∧
      event.dispatchId = request.dispatchId ∧ event.requestId = request.requestId ∧
      event.taskId = request.taskId ∧ event.timestampUtc = now ∧
      1 ≤ event.summary.toList.length ∧ event.summary.toList.length ≤ 160 := by
  obtain ⟨outcome, hdispatch, hobtains⟩ :=
    HttpNeuronForgeLocalAdapter.dispatchTask_spec env config request log
  obtain ⟨v, hv, hreports⟩ :=
    buildForensicEvent_obtained env.plainChar env.freshEventId now hids hobtains
  have hother : ∀ {text : String} (text' : String), ReceiptSays env config request log text →
      text ≠ text' → ¬ ReceiptSays env config request log text' := by
    intro text text' h hne h'
    exact hne (h.unique h')
  refine ⟨⟨outcome, ⟨v, none⟩⟩, ?_, rfl, v.valid, ?_⟩
  · refine (Traced.bind_of_ok hdispatch _).trans ?_
    rw [hv]
    rfl
  · rcases hreports with ⟨h, hr⟩ | ⟨h, hr⟩ | ⟨h, hr⟩ | ⟨h, hr⟩
    · have hdegraded := hother "degraded" h (by decide)
      have hfailed := hother "failed" h (by decide)
      simp [hr.outcome, hr.status, hr.dispatchId, hr.requestId, hr.taskId, hr.timestampUtc,
        hr.summary, h, hdegraded, hfailed]
    · have hvalid := hother "valid" h (by decide)
      have hfailed := hother "failed" h (by decide)
      simp [hr.outcome, hr.status, hr.dispatchId, hr.requestId, hr.taskId, hr.timestampUtc,
        hr.summary, h, hvalid, hfailed]
    · have hvalid := hother "valid" h (by decide)
      have hdegraded := hother "degraded" h (by decide)
      simp [hr.outcome, hr.status, hr.dispatchId, hr.requestId, hr.taskId, hr.timestampUtc,
        hr.summary, h, hvalid, hdegraded]
    · simp only [List.forall_mem_cons] at h
      simp [hr.outcome, hr.status, hr.dispatchId, hr.requestId, hr.taskId, hr.timestampUtc,
        hr.summary, h]

end NeuronForgeDispatchPipelineService

end

namespace Fixture

/-- A degraded receipt of the admitted task. -/
def degradedReceipt : Value := .object [("schema_validation_status", .string "degraded")]

def degradedEnvironment : NeuronForgeEnvironment where
  neuronforgeLocalUrl := none
  nowText := "2030-01-01T00:10:00Z"
  freshEventId := ⟨⟨Vector.replicate 16 0⟩⟩
  post := fun _ _ _ => .json (.ok degradedReceipt)
  plainChar := fun c => decide (c.toNat < 127)

def sceneRequest : NeuronForgeTaskDispatchRequest where
  dispatchId := "dispatch-1"
  requestId := "request-1"
  taskId := admittedTaskId
  sceneText := "The rain had stopped."
  modelResourceDisclosure := {
    routeClass := "local"
    modelId := "style-small"
    resourceBudgetClass := "bounded"
    executionMode := "synchronous" }
  operatorVisibleMessage := "style analysis of one scene"

end Fixture

namespace NeuronForgeDispatchPipelineService

theorem run_recorded_degraded : ∃ result,
    (run Fixture.degradedEnvironment Fixture.sceneRequest
        (HttpNeuronForgeLocalAdapter.adapter Fixture.degradedEnvironment ⟨none⟩) none 0 []).1 =
      .ok result ∧
    result.forensicRecord.event.event.outcome = .notCompleted ∧
    result.forensicRecord.event.event.receiptValidationStatus = some .degraded := by
  have hids : Fixture.sceneRequest.IdsFit := ⟨by decide, by decide, by decide⟩
  obtain ⟨result, hrun, -, -, -, hdegraded, -⟩ :=
    run_recorded Fixture.degradedEnvironment ⟨none⟩ Fixture.sceneRequest 0 [] hids
  exact ⟨result, congrArg Prod.fst hrun, hdegraded.mpr ⟨rfl, Fixture.degradedReceipt, rfl, rfl⟩⟩

end NeuronForgeDispatchPipelineService

end FaLocal
