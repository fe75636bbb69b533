import FaLocal.ExecuteCommand
import FaLocal.JsonlSinks
import FaLocal.NeuronForgeEventSchema
import FaLocal.WholeRouteOutcome

/-!
# The command `neuronforge-dispatch`

The command sends the text of one scene to NeuronForge Local, and exits with 0 if a valid receipt
came back and was recorded. Files, stores, fresh identifiers and the service are parameters.
-/
namespace FaLocal

open JsonlForensicExportAdapter (newline OneLine string_oneLine bool_oneLine optionValue_oneLine
  object_oneLine)
open Traced (Halts Lawful halts_lift halts_pure lawful_lift lawful_pure lawful_perform)

/-! ## The sink -/

/-- An export with its answer. -/
def NeuronForgeWorldEvent.exportCall :
    NeuronForgeWorldEvent → Option (NeuronForgeTaskDispatchForensicEvent × ForensicExportResult)
  | .exported event answer => some (event, answer)
  | .posted _ _ _ => none

/-- Where a post went, and what was posted. -/
def NeuronForgeWorldEvent.postedBody : NeuronForgeWorldEvent → Option (String × Value)
  | .posted url body _ => some (url, body)
  | .exported _ _ => none

namespace JsonlNeuronForgeForensicExportAdapter

theorem toValue_oneLine (times : DateTimes) (event : NeuronForgeTaskDispatchForensicEvent) :
    OneLine (event.toValue times) := by
  apply object_oneLine
  simp only [List.forall_mem_cons, List.not_mem_nil, false_implies, implies_true, and_true]
  exact ⟨string_oneLine _, string_oneLine _, string_oneLine _, string_oneLine _, string_oneLine _,
    optionValue_oneLine (fun _ => string_oneLine _) _, string_oneLine _, string_oneLine _,
    string_oneLine _, bool_oneLine _⟩

/-- What is particular about the sink of NeuronForge events. -/
def sink (times : DateTimes) : JsonlSink NeuronForgeTaskDispatchForensicEvent where
  adapterId := "jsonl-neuronforge-forensic-export"
  toValue := NeuronForgeTaskDispatchForensicEvent.toValue times
  reference := fun event => event.forensicEventId.display
  unserializable :=
    "neuronforge task dispatch forensic event could not be serialized for jsonl export"
  directoryMissing := "jsonl neuronforge forensic export directory is unavailable"
  openRefused := "jsonl neuronforge forensic export sink is unavailable"
  writeFailed := "jsonl neuronforge forensic export write failed"
  oneLine := toValue_oneLine times

/-- The file of an adapter. -/
def file (times : DateTimes) (outcomes : Nat → AppendOutcome) (contents : List UInt8) :
    JsonlFile NeuronForgeTaskDispatchForensicEvent := ⟨sink times, outcomes, contents⟩

/-- The adapter of a file, as a run sees it. -/
def adapter (file : JsonlFile NeuronForgeTaskDispatchForensicEvent) :
    NeuronForgeForensicEventExportAdapter where
  adapterId := file.sink.adapterId
  exportEvent := fun log event =>
    file.answer (JsonlFile.calls NeuronForgeWorldEvent.exportCall log).length event

end JsonlNeuronForgeForensicExportAdapter

open NeuronForgeWorldEvent (exportCall postedBody)

/-! ## Runs with a sink -/

namespace NeuronForgeDispatchPipelineService

/-- What a sink makes of the event of a run. -/
inductive Recorded (sink : Option NeuronForgeForensicEventExportAdapter)
    (log : List NeuronForgeWorldEvent) (event : ValidatedNeuronForgeTaskDispatchForensicEvent) :
    FaLocalResult NeuronForgeForensicRecordOutcome → List NeuronForgeWorldEvent → Prop where
  | kept : sink = none → Recorded sink log event (.ok ⟨event, none⟩) []
  | sunk {adapter : NeuronForgeForensicEventExportAdapter} {receipt : ForensicExportReceipt} :
      sink = some adapter →
      ForensicService.mapExportResult adapter.adapterId (adapter.exportEvent log event.event) =
        .ok receipt →
      Recorded sink log event (.ok ⟨event, some receipt.exportReference⟩)
        [.exported event.event (adapter.exportEvent log event.event)]
  | refused {adapter : NeuronForgeForensicEventExportAdapter} {error : Abort} :
      sink = some adapter →
      ForensicService.mapExportResult adapter.adapterId (adapter.exportEvent log event.event) =
        .error error →
      Recorded sink log event (.error error)
        [.exported event.event (adapter.exportEvent log event.event)]

theorem recordForensicEvent_recorded (event : ValidatedNeuronForgeTaskDispatchForensicEvent)
    (sink : Option NeuronForgeForensicEventExportAdapter) (log : List NeuronForgeWorldEvent) :
    ∃ record entries, recordForensicEvent event sink log = (record, log ++ entries) ∧
      Recorded sink log event record entries := by
  cases sink with
  | none => exact ⟨_, [], by simp [recordForensicEvent], .kept rfl⟩
  | some adapter =>
    cases hmap : ForensicService.mapExportResult adapter.adapterId
        (adapter.exportEvent log event.event) with
    | ok receipt =>
      refine ⟨_, _, ?_, .sunk rfl hmap⟩
      rw [recordForensicEvent, Traced.bind_of_ok (Traced.perform_apply _ _)]
      dsimp only
      rw [hmap]
      rfl
    | error error =>
      refine ⟨_, _, ?_, .refused rfl hmap⟩
      rw [recordForensicEvent, Traced.bind_of_ok (Traced.perform_apply _ _)]
      dsimp only
      rw [hmap]
      rfl

section
variable {env : NeuronForgeEnvironment} {config : HttpNeuronForgeLocalAdapterConfig}
  {request : NeuronForgeTaskDispatchRequest} {now : TimestampUtc}
  {sink : Option NeuronForgeForensicEventExportAdapter} {log : List NeuronForgeWorldEvent}

/-- A run posts, then records the event of what it obtained. -/
theorem run_ended (env : NeuronForgeEnvironment) (config : HttpNeuronForgeLocalAdapterConfig)
    (sink : Option NeuronForgeForensicEventExportAdapter) (now : TimestampUtc)
    (log : List NeuronForgeWorldEvent) (hids : request.IdsFit) :
    ∃ outcome event record entries,
      run env request (HttpNeuronForgeLocalAdapter.adapter env config) sink now log =
        (record.map (⟨outcome, ·⟩), log ++ dispatchPosts env config request log ++ entries) ∧
      Obtains (ReceiptSays env config request log) outcome ∧
      buildForensicEvent env.plainChar env.freshEventId request outcome now = .ok event ∧
      Recorded sink (log ++ dispatchPosts env config request log) event record entries := by
  obtain ⟨outcome, hdispatch, hobtains⟩ :=
    HttpNeuronForgeLocalAdapter.dispatchTask_spec env config request log
  obtain ⟨event, hbuilt, -⟩ :=
    buildForensicEvent_obtained env.plainChar env.freshEventId now hids hobtains
  obtain ⟨record, entries, hrecord, hrecorded⟩ :=
    recordForensicEvent_recorded event sink (log ++ dispatchPosts env config request log)
  refine ⟨outcome, event, record, entries, ?_, hobtains, hbuilt, hrecorded⟩
  rw [run]
  refine (Traced.bind_of_ok hdispatch _).trans ?_
  rw [hbuilt, Traced.lift_ok_bind]
  cases record with
  | ok record => exact Traced.bind_of_ok hrecord _
  | error error => exact Traced.bind_of_error hrecord _

end

end NeuronForgeDispatchPipelineService

/-! ## Arguments -/

/-- The flags of the command, as they are found. -/
structure NeuronForgeFlags where
  scene : Option String
  neuronforgeUrl : Option String
  model : Option String
  forensicExport : Option String
  forensicSqlite : Option String
  deriving DecidableEq

/-- What the command finds, in all pairs of neighbouring arguments. -/
def NeuronForgeFlags.ofArgs (args : List String) : NeuronForgeFlags where
  scene := Flags.firstValue args "--scene"
  neuronforgeUrl := Flags.firstValue args "--neuronforge-url"
  model := Flags.firstValue args "--model"
  forensicExport := Flags.firstValue args "--forensic-export"
  forensicSqlite := Flags.firstValue args "--forensic-sqlite"

/-- What the command reads, opens and draws; the texts of files come with the message if one
cannot be read. -/
structure NeuronForgeHost where
  texts : CommandTexts
  readToString : String → Except String String
  openSqlite : String → Except String NeuronForgeForensicEventExportAdapter
  jsonl : String → NeuronForgeForensicEventExportAdapter
  newV4 : Nat → Uuid

/-- The arguments of the run. -/
structure NeuronForgeCall where
  config : HttpNeuronForgeLocalAdapterConfig
  request : NeuronForgeTaskDispatchRequest
  forensicExportAdapter : Option NeuronForgeForensicEventExportAdapter

namespace NeuronForgeHost

variable (host : NeuronForgeHost)

def forensicSink (flags : NeuronForgeFlags) :
    Except String (Option NeuronForgeForensicEventExportAdapter) :=
  match flags.forensicExport, flags.forensicSqlite with
  | some _, some _ =>
    .error "error: --forensic-export and --forensic-sqlite are mutually exclusive"
  | some path, none => .ok (some (host.jsonl path))
  | none, some path =>
    match host.openSqlite path with
    | .ok store => .ok (some store)
    | .error e => .error ("error: could not open neuronforge forensic sqlite store " ++
        host.texts.quoted path ++ ": " ++ e)
  | none, none => .ok none

/-- The request of one scene, under two fresh identifiers. -/
def sceneRequest (sceneText model : String) : NeuronForgeTaskDispatchRequest where
  dispatchId := String.ofList (host.newV4 0).hyphenated
  requestId := String.ofList (host.newV4 1).hyphenated
  taskId := admittedTaskId
  sceneText := sceneText
  modelResourceDisclosure := {
    routeClass := "WORKHORSE_LOCAL"
    modelId := model
    resourceBudgetClass := "workhorse_local"
    executionMode := "local_model" }
  operatorVisibleMessage := "FA-Local dispatched one bounded style-analysis task; the result is a " ++
    "non-canonical candidate only."

/-- What the command does in front of the run. -/
def neuronforgeCall (flags : NeuronForgeFlags) : Except String NeuronForgeCall :=
  match flags.scene with
  | none => .error "error: neuronforge-dispatch requires --scene"
  | some scenePath => do
    let sceneText ← (host.readToString scenePath).mapError
      (("error: could not read --scene " ++ host.texts.quoted scenePath ++ ": ") ++ ·)
    let forensicExportAdapter ← host.forensicSink flags
    return {
      config := { baseUrlOverride := flags.neuronforgeUrl }
      request := host.sceneRequest sceneText (flags.model.getD "qwen2.5:14b")
      forensicExportAdapter }

theorem sceneRequest_idsFit (sceneText model : String) :
    (host.sceneRequest sceneText model).IdsFit := by
  have hsize : ∀ u : Uuid, (String.ofList u.hyphenated).utf8ByteSize = 36 := fun u =>
    ExecutionService.display_size (⟨u⟩ : RequestId)
  have hfresh : ∀ u : Uuid, 1 ≤ (String.ofList u.hyphenated).utf8ByteSize ∧
      (String.ofList u.hyphenated).utf8ByteSize ≤ 200 := by
    intro u
    rw [hsize]
    decide
  have htask : 1 ≤ admittedTaskId.utf8ByteSize ∧ admittedTaskId.utf8ByteSize ≤ 200 := by decide
  exact ⟨hfresh _, hfresh _, htask⟩

variable {host} {flags : NeuronForgeFlags} {call : NeuronForgeCall}

/-- A call is for the admitted task, with the scene that was read and the sink that was named. -/
theorem neuronforgeCall_eq_ok (h : host.neuronforgeCall flags = .ok call) :
    ∃ scenePath sceneText, flags.scene = some scenePath ∧
      host.readToString scenePath = .ok sceneText ∧
      host.forensicSink flags = .ok call.forensicExportAdapter ∧
      call.request = host.sceneRequest sceneText (flags.model.getD "qwen2.5:14b") := by
  rw [neuronforgeCall] at h
  cases hscene : flags.scene with
  | none =>
    rw [hscene] at h
    cases h
  | some scenePath =>
    rw [hscene] at h
    dsimp only at h
    cases htext : host.readToString scenePath with
    | error e =>
      rw [htext] at h
      cases h
    | ok sceneText =>
      cases hsink : host.forensicSink flags with
      | error e =>
        rw [htext, hsink] at h
        cases h
      | ok sink =>
        rw [htext, hsink] at h
        cases h
        exact ⟨scenePath, sceneText, rfl, htext, rfl, rfl⟩

end NeuronForgeHost

/-! ## The command -/

namespace NeuronForgeDispatchPipelineService

/-- What is printed of a run that returned, with the exit code. -/
def output (times : DateTimes) (result : NeuronForgeDispatchRunResult) : Value × Nat :=
  let forensicEvent := ("forensic_event", Value.object [
    ("event", result.forensicRecord.event.event.toValue times),
    ("export_reference", optionValue .string result.forensicRecord.exportReference)])
  match result.outcome with
  | .completed receipt => ((Value.object [("outcome", .string "completed"), ("receipt", receipt),
      forensicEvent]).byName, 0)
  | .notCompleted receipt => ((Value.object [("outcome", .string "not_completed"),
      ("receipt", receipt), forensicEvent]).byName, 1)
  | .dispatchUnavailable summary => ((Value.object [("outcome", .string "dispatch_unavailable"),
      ("summary", .string summary), forensicEvent]).byName, 1)

section
variable (times : DateTimes) (env : NeuronForgeEnvironment) (host : NeuronForgeHost)
  (now : TimestampUtc)

/-- `fa-local-run neuronforge-dispatch` -/
def neuronforgeDispatch (args : List String) (log : List NeuronForgeWorldEvent) :
    (CommandEnd × Nat) × List NeuronForgeWorldEvent :=
  match host.neuronforgeCall (.ofArgs args) with
  | .error message => ((.refused message, 1), log)
  | .ok call =>
    match run env call.request (HttpNeuronForgeLocalAdapter.adapter env call.config)
      call.forensicExportAdapter now log with
    | (.ok result, out) => ((.printed (output times result).1, (output times result).2), out)
    | (.error error, out) => ((.aborted error, error.exitCode), out)

end

/-! ## Exit codes -/

/-- The sink, if there is one, has taken an event of the run. -/
def Kept (sink : Option NeuronForgeForensicEventExportAdapter)
    (entries : List NeuronForgeWorldEvent) : Prop :=
  ∀ adapter ∈ sink, ∃ event answer receipt, .exported event answer ∈ entries ∧
    ForensicService.mapExportResult adapter.adapterId answer = .ok receipt

section
variable {times : DateTimes} {env : NeuronForgeEnvironment} {host : NeuronForgeHost}
  {config : HttpNeuronForgeLocalAdapterConfig} {request : NeuronForgeTaskDispatchRequest}
  {now : TimestampUtc} {sink : Option NeuronForgeForensicEventExportAdapter}
  {log entries : List NeuronForgeWorldEvent} {outcome : NeuronForgeTaskDispatchResult}
  {event : ValidatedNeuronForgeTaskDispatchForensicEvent}
  {record : FaLocalResult NeuronForgeForensicRecordOutcome}

theorem obtains_completed_iff (h : Obtains (ReceiptSays env config request log) outcome) :
    (∃ receipt, outcome = .completed receipt) ↔ ReceiptSays env config request log "valid" := by
  cases h with
  | completed hsaid => exact iff_of_true ⟨_, rfl⟩ hsaid
  | notCompleted hsaid _ htext =>
    refine iff_of_false (by rintro ⟨_, ⟨⟩⟩) fun hvalid => ?_
    rcases htext with rfl | rfl
    · exact absurd (hsaid.unique hvalid) (by decide)
    · exact absurd (hsaid.unique hvalid) (by decide)
  | dispatchUnavailable hnone =>
    exact iff_of_false (by rintro ⟨_, ⟨⟩⟩) (hnone "valid" List.mem_cons_self)

/-- A sink keeps the event exactly if the record is returned. -/
theorem Recorded.kept_iff (h : Recorded sink log event record entries) :
    Kept sink entries ↔ ∃ outcome, record = .ok outcome := by
  cases h with
  | kept hsink =>
    subst hsink
    exact iff_of_true (fun adapter hadapter => by cases hadapter) ⟨_, rfl⟩
  | @sunk adapter receipt hsink hmap =>
    subst hsink
    refine iff_of_true ?_ ⟨_, rfl⟩
    intro adapter' hadapter
    obtain rfl := Option.some.inj hadapter
    exact ⟨event.event, _, receipt, List.mem_cons_self, hmap⟩
  | @refused adapter error hsink hmap =>
    subst hsink
    refine iff_of_false ?_ (by rintro ⟨_, ⟨⟩⟩)
    intro hkept
    obtain ⟨event', answer, receipt, hmem, hok⟩ := hkept adapter rfl
    obtain ⟨rfl, rfl⟩ := NeuronForgeWorldEvent.exported.inj (List.mem_singleton.mp hmem)
    rw [hmap] at hok
    cases hok

theorem output_zero_iff {result : NeuronForgeDispatchRunResult} :
    (output times result).2 = 0 ↔ ∃ receipt, result.outcome = .completed receipt := by
  obtain ⟨outcome, record⟩ := result
  cases outcome <;> simp [output]

/-- The posts of a call say nothing about its sink. -/
theorem kept_posts : Kept sink (dispatchPosts env config request log ++ entries) ↔
    Kept sink entries := by
  have hposts : ∀ event answer, .exported event answer ∉ dispatchPosts env config request log := by
    intro event answer hmem
    rw [dispatchPosts] at hmem
    split at hmem
    · cases List.mem_singleton.mp hmem
    · cases hmem
  have hmem : ∀ event answer, .exported event answer ∈ dispatchPosts env config request log ++
      entries ↔ .exported event answer ∈ entries := by
    intro event answer
    rw [List.mem_append, or_iff_right (hposts event answer)]
  simp only [Kept, hmem]

end

/-- A call for the admitted task is the only post of its run. -/
theorem Recorded.posted (h : Recorded sink (log ++ dispatchPosts env config request log) event record
    entries) (htask : request.taskId = admittedTaskId) :
    (dispatchPosts env config request log ++ entries).filterMap postedBody =
      [(HttpNeuronForgeLocalAdapter.dispatchUrl env config,
        HttpNeuronForgeLocalAdapter.dispatchBody env request)] := by
  have hnone : entries.filterMap postedBody = [] := by
    cases h <;> rfl
  rw [List.filterMap_append, hnone, List.append_nil, dispatchPosts, if_pos htask]
  rfl

/-- The command posts once for a call that it can make, and exits with 0 exactly if the receipt
says `valid` and the sink, if one is named, takes the event. -/
theorem neuronforgeDispatch_exits (times : DateTimes) (env : NeuronForgeEnvironment)
    (host : NeuronForgeHost) (now : TimestampUtc) (args : List String)
    (log : List NeuronForgeWorldEvent) :
    ∃ entries, (neuronforgeDispatch times env host now args log).2 = log ++ entries ∧
      (∀ call, host.neuronforgeCall (.ofArgs args) = .ok call →
        entries.filterMap postedBody =
          [(HttpNeuronForgeLocalAdapter.dispatchUrl env call.config,
            HttpNeuronForgeLocalAdapter.dispatchBody env call.request)]) ∧
      ((neuronforgeDispatch times env host now args log).1.2 = 0 ↔
        ∃ call, host.neuronforgeCall (.ofArgs args) = .ok call ∧
          ReceiptSays env call.config call.request log "valid" ∧
          Kept call.forensicExportAdapter entries) := by
  rw [neuronforgeDispatch]
  cases hcall : host.neuronforgeCall (.ofArgs args) with
  | error message =>
    refine ⟨[], (List.append_nil log).symm, by rintro call ⟨⟩, iff_of_false (by simp) ?_⟩
    rintro ⟨call, ⟨⟩, -⟩
  | ok call =>
    obtain ⟨scenePath, sceneText, -, -, -, hrequest⟩ := NeuronForgeHost.neuronforgeCall_eq_ok hcall
    have hids : call.request.IdsFit := hrequest ▸ host.sceneRequest_idsFit _ _
    obtain ⟨outcome, event, record, entries, hrun, hobtains, -, hrecorded⟩ :=
      run_ended env call.config call.forensicExportAdapter now log hids
    have hexits : (∃ call', .ok call = Except.ok (ε := String) call' ∧
        ReceiptSays env call'.config call'.request log "valid" ∧
        Kept call'.forensicExportAdapter
          (dispatchPosts env call.config call.request log ++ entries)) ↔
        (∃ receipt, outcome = .completed receipt) ∧ ∃ result, record = .ok result := by
      rw [obtains_completed_iff hobtains, ← hrecorded.kept_iff]
      constructor
      · rintro ⟨call', hsame, hvalid, hkept⟩
        obtain rfl := Except.ok.inj hsame
        exact ⟨hvalid, kept_posts.mp hkept⟩
      · rintro ⟨hvalid, hkept⟩
        exact ⟨call, rfl, hvalid, kept_posts.mpr hkept⟩
    refine ⟨dispatchPosts env call.config call.request log ++ entries, ?_, ?_, ?_⟩
    · dsimp only
      rw [hrun, List.append_assoc]
      cases record <;> rfl
    · intro call' hsame
      obtain rfl := Except.ok.inj hsame
      exact hrecorded.posted (hrequest ▸ rfl)
    · rw [hexits]
      dsimp only
      rw [hrun]
      cases record with
      | error error =>
        exact iff_of_false error.exitCode_ne_zero (by rintro ⟨-, _, ⟨⟩⟩)
      | ok record =>
        exact output_zero_iff.trans (and_iff_left ⟨record, rfl⟩).symm

/-! ## Files -/

open JsonlFile (Failed exported)
open JsonlNeuronForgeForensicExportAdapter (adapter file)

section
variable {env : NeuronForgeEnvironment} {config : HttpNeuronForgeLocalAdapterConfig}
  {request : NeuronForgeTaskDispatchRequest} {now : TimestampUtc}
  {sink : Option NeuronForgeForensicEventExportAdapter} {log entries : List NeuronForgeWorldEvent}
  {sunkFile : JsonlFile NeuronForgeTaskDispatchForensicEvent}

theorem dispatchTask_quiet (env : NeuronForgeEnvironment)
    (config : HttpNeuronForgeLocalAdapterConfig) (request : NeuronForgeTaskDispatchRequest) :
    (HttpNeuronForgeLocalAdapter.dispatchTask env config request).Appends fun entries =>
      entries.filterMap exportCall = [] := by
  intro log
  obtain ⟨result, hrun, -⟩ := HttpNeuronForgeLocalAdapter.dispatchTask_spec env config request log
  refine ⟨dispatchPosts env config request log, ?_, congrArg Prod.snd hrun⟩
  rw [dispatchPosts]
  split <;> rfl

variable (env config request now sunkFile) in
theorem run_lawful :
    (run env request (HttpNeuronForgeLocalAdapter.adapter env config) (some (adapter sunkFile))
      now).Lawful (sunkFile.Answers exportCall) := by
  have hquiet : (HttpNeuronForgeLocalAdapter.dispatchTask env config request).Lawful
      (sunkFile.Answers exportCall) := by
    intro log
    obtain ⟨entries, hnone, he⟩ := dispatchTask_quiet env config request log
    refine ⟨entries, Traced.follow_of_forall ?_, he⟩
    intro entry hentry log call hcall
    rw [List.filterMap_eq_nil_iff.mp hnone entry hentry] at hcall
    cases hcall
  have hrecorded : ∀ event, (recordForensicEvent event (some (adapter sunkFile))).Lawful
      (sunkFile.Answers exportCall) := by
    intro event
    refine (lawful_perform ?_).bind fun answer => (lawful_lift _).bind fun _ => lawful_pure _
    intro log call hcall
    obtain rfl := Option.some.inj hcall
    rfl
  exact hquiet.bind fun outcome => (lawful_lift _).bind fun event =>
    (hrecorded event).bind fun _ => lawful_pure _

variable (env config request now sink) in
theorem run_halts :
    (run env request (HttpNeuronForgeLocalAdapter.adapter env config) sink now).Halts
      (Failed exportCall) := by
  have hquiet : (HttpNeuronForgeLocalAdapter.dispatchTask env config request).Halts
      (Failed exportCall) := by
    refine (dispatchTask_quiet env config request).halts ?_
    rintro entries hnone entry hentry ⟨call, hcall, -⟩
    rw [List.filterMap_eq_nil_iff.mp hnone entry hentry] at hcall
    cases hcall
  have hrecorded : ∀ event, (recordForensicEvent event sink).Halts (Failed exportCall) := by
    intro event
    cases sink with
    | none => exact halts_pure _
    | some adapter =>
      rw [recordForensicEvent, ← Traced.bind_assoc]
      refine (Traced.halts_checked ?_).bind fun _ => halts_pure _
      rintro log receipt hreceipt ⟨call, hcall, hfailed⟩
      obtain rfl := Option.some.inj hcall
      rw [ForensicService.mapExportResult_eq_ok hreceipt] at hfailed
      cases hfailed
  exact hquiet.bind fun outcome => (halts_lift _).bind fun event =>
    (hrecorded event).bind fun _ => halts_pure _

theorem validated_eq_ok {event : NeuronForgeTaskDispatchForensicEvent}
    {v : ValidatedNeuronForgeTaskDispatchForensicEvent} (h : event.validated = .ok v) :
    v.event = event := by
  rw [NeuronForgeTaskDispatchForensicEvent.validated] at h
  split at h
  · cases h
    rfl
  · cases h

/-- The identifier, the time and the outcome of an event. -/
theorem buildForensicEvent_fields {plainChar : Char → Bool} {freshEventId : ForensicEventId}
    {outcome : NeuronForgeTaskDispatchResult} {v : ValidatedNeuronForgeTaskDispatchForensicEvent}
    (h : buildForensicEvent plainChar freshEventId request outcome now = .ok v) :
    v.event.forensicEventId = freshEventId ∧ v.event.timestampUtc = now ∧
      (v.event.outcome = .completed ↔ ∃ receipt, outcome = .completed receipt) := by
  obtain ⟨report, hreport, h⟩ := bind_eq_ok.mp h
  obtain ⟨event, hnew, hvalidated⟩ := bind_eq_ok.mp h
  have hevent := Except.ok.inj (seq_eq_ok.mp hnew).2
  rw [validated_eq_ok hvalidated, ← hevent]
  refine ⟨rfl, rfl, ?_⟩
  cases outcome with
  | completed receipt =>
    cases hreport
    exact iff_of_true rfl ⟨receipt, rfl⟩
  | notCompleted receipt =>
    obtain ⟨status, -, hreport⟩ := bind_eq_ok.mp hreport
    cases hreport
    exact iff_of_false (by rintro ⟨⟩) (by rintro ⟨_, ⟨⟩⟩)
  | dispatchUnavailable summary =>
    cases hreport
    exact iff_of_false (by rintro ⟨⟩) (by rintro ⟨_, ⟨⟩⟩)

/-- A record that a JSONL sink returns is the only export of its run. -/
theorem Recorded.exported_eq {event : ValidatedNeuronForgeTaskDispatchForensicEvent}
    {record : NeuronForgeForensicRecordOutcome}
    (h : Recorded (some (adapter sunkFile)) (log ++ dispatchPosts env config request log) event
      (.ok record) entries) :
    exported exportCall (dispatchPosts env config request log ++ entries) = [event.event] := by
  have hposts : exported exportCall (dispatchPosts env config request log) = [] := by
    rw [dispatchPosts]
    split <;> rfl
  cases h with
  | kept hsink => cases hsink
  | @sunk adapter receipt hsink hmap =>
    have hanswer := ForensicService.mapExportResult_eq_ok hmap
    rw [JsonlFile.exported_append, hposts, hanswer]
    rfl

end

/-- A command that names a JSONL file has that file for its sink. -/
theorem sink_of_flag {host : NeuronForgeHost} {flags : NeuronForgeFlags} {path : String}
    {sink : Option NeuronForgeForensicEventExportAdapter}
    (hflag : flags.forensicExport = some path) (h : host.forensicSink flags = .ok sink) :
    sink = some (host.jsonl path) := by
  rw [NeuronForgeHost.forensicSink, hflag] at h
  cases hsqlite : flags.forensicSqlite with
  | none =>
    rw [hsqlite] at h
    exact (Except.ok.inj h).symm
  | some store =>
    rw [hsqlite] at h
    cases h

/-- Behind whole lines, a run that is printed leaves the line of its event and nothing else; the
event is read back, and tells of a completed dispatch exactly if the exit code is 0. -/
theorem neuronforgeDispatch_written {times : TimeTexts} (htimes : times.Rfc3339)
    {env : NeuronForgeEnvironment} (hfresh : env.freshEventId.Versioned) {now : TimestampUtc}
    (hnow : FourDigitYear now) {host : NeuronForgeHost} {args : List String} {path : String}
    (hflag : (NeuronForgeFlags.ofArgs args).forensicExport = some path)
    {outcomes : Nat → AppendOutcome} {contents : List UInt8}
    (hjsonl : host.jsonl path = adapter (file times.toDateTimes outcomes contents))
    {log : List NeuronForgeWorldEvent}
    (hfile : Lines.Terminated newline
      ((file times.toDateTimes outcomes contents).afterLog exportCall log)) :
    ∃ entries written,
      (neuronforgeDispatch times.toDateTimes env host now args log).2 = log ++ entries ∧
      (file times.toDateTimes outcomes contents).Leaves exportCall log entries written ∧
      ∀ output, (neuronforgeDispatch times.toDateTimes env host now args log).1.1 =
          .printed output →
        Lines.Terminated newline
          ((file times.toDateTimes outcomes contents).afterLog exportCall (log ++ entries)) ∧
        ∃ event, written = [event] ∧
          NeuronForgeTaskDispatchForensicEvent.loadContractValue times
            (event.toValue times.toDateTimes) = some event ∧
          (event.outcome = .completed ↔
            (neuronforgeDispatch times.toDateTimes env host now args log).1.2 = 0) := by
  rw [neuronforgeDispatch]
  cases hcall : host.neuronforgeCall (.ofArgs args) with
  | error message =>
    refine ⟨[], [], (List.append_nil log).symm, ⟨List.prefix_rfl, List.prefix_rfl, ?_⟩, ?_⟩
    · rw [List.append_nil, List.map_nil, List.append_nil]
    · rintro output ⟨⟩
  | ok call =>
    obtain ⟨scenePath, sceneText, -, -, hsink, hrequest⟩ :=
      NeuronForgeHost.neuronforgeCall_eq_ok hcall
    have hids : call.request.IdsFit := hrequest ▸ host.sceneRequest_idsFit _ _
    have hadapter := (sink_of_flag hflag hsink).trans (congrArg some hjsonl)
    obtain ⟨entries, written, he, hleaves, hreturned⟩ := JsonlFile.leaves
      (run_lawful env call.config call.request now (file times.toDateTimes outcomes contents))
      (run_halts env call.config call.request now _) hfile
    obtain ⟨outcome, event, record, recorded, hrun, -, hbuilt, hrecorded⟩ :=
      run_ended env call.config call.forensicExportAdapter now log hids
    dsimp only
    rw [hadapter] at hrun hrecorded ⊢
    rw [hrun] at he hreturned ⊢
    obtain rfl : entries = dispatchPosts env call.config call.request log ++ recorded := by
      rw [List.append_assoc] at he
      exact (List.append_cancel_left he).symm
    refine ⟨_, written, ?_, hleaves, ?_⟩
    · rw [← List.append_assoc]
      cases record <;> rfl
    · cases record with
      | error error => rintro output ⟨⟩
      | ok record =>
        intro _ _
        obtain ⟨hwritten, hterminated⟩ := hreturned _ rfl
        obtain ⟨hid, htime, hcompleted⟩ := buildForensicEvent_fields hbuilt
        have hwritable : event.event.Writable := ⟨hid ▸ hfresh, htime ▸ hnow⟩
        have hvalid := NeuronForgeTaskDispatchForensicEvent.validate_eq_ok.mp event.valid
        refine ⟨hterminated, event.event, hwritten.trans hrecorded.exported_eq, ?_, ?_⟩
        · exact (NeuronForgeTaskDispatchForensicEvent.loaded_iff htimes hwritable).mpr hvalid |>.1
        · have hexit : (output times.toDateTimes ⟨outcome, record⟩).2 = 0 ↔
              ∃ receipt, outcome = .completed receipt := output_zero_iff
          exact hcompleted.trans hexit.symm

end NeuronForgeDispatchPipelineService

namespace Fixture

/-- The service answers with a valid receipt. -/
def validEnvironment : NeuronForgeEnvironment where
  neuronforgeLocalUrl := none
  nowText := "2030-01-01T00:10:01Z"
  freshEventId := idOf .forensicEvent 0xe2 0xe
  post := fun _ _ _ => .json (.ok (.object [("schema_validation_status", .string "valid")]))
  plainChar := fun _ => true

/-- One scene, and a file that takes every line. -/
def sceneHost : NeuronForgeHost where
  texts := ⟨fun _ => true, fun _ => "invalid length"⟩
  readToString := fun _ => .ok "The rain had stopped."
  openSqlite := fun _ => .error "unable to open database file"
  jsonl := fun _ => JsonlNeuronForgeForensicExportAdapter.adapter
    (JsonlNeuronForgeForensicExportAdapter.file timeTexts.toDateTimes (fun _ => .written) [])
  newV4 := fun index => ⟨Vector.replicate 16 index.toUInt8⟩

def sceneLine : List String := ["fa-local-run", "neuronforge-dispatch", "--scene", "scene.txt",
  "--forensic-export", "events.jsonl"]

end Fixture

namespace NeuronForgeDispatchPipelineService

open JsonlNeuronForgeForensicExportAdapter (adapter file)
open Fixture (timeTexts timeTexts_rfc3339 validEnvironment sceneHost sceneLine at2030)

theorem neuronforgeDispatch_written_scene : ∃ entries written,
    (neuronforgeDispatch timeTexts.toDateTimes validEnvironment sceneHost (at2030 601) sceneLine
      []).2 = [] ++ entries ∧
    (file timeTexts.toDateTimes (fun _ => .written) []).Leaves exportCall [] entries written := by
  have hfresh : validEnvironment.freshEventId.Versioned := by decide +kernel
  have hnow : FourDigitYear (at2030 601) := by decide
  have hflag : (NeuronForgeFlags.ofArgs sceneLine).forensicExport = some "events.jsonl" := by
    decide
  have hjsonl : sceneHost.jsonl "events.jsonl" =
      adapter (file timeTexts.toDateTimes (fun _ => .written) []) := rfl
  have hempty : Lines.Terminated newline ((file timeTexts.toDateTimes (fun _ => .written)
      []).afterLog exportCall []) := .inl rfl
  obtain ⟨entries, written, he, hleaves, -⟩ :=
    neuronforgeDispatch_written timeTexts_rfc3339 hfresh hnow hflag hjsonl hempty
  exact ⟨entries, written, he, hleaves⟩

example : (neuronforgeDispatch timeTexts.toDateTimes validEnvironment sceneHost (at2030 601)
    sceneLine []).1.2 = 0 := by
  decide +kernel

end NeuronForgeDispatchPipelineService

end FaLocal
