import FaLocal.JsonlSinks
import FaLocal.SessionEvidence

/-!
# Runs that export to a JSONL file

An export that fails ends its run, so that nothing is written behind a line that broke off.
A run that finds a file of whole lines leaves the line of every event that it has exported, and
a run that returns leaves a file of whole lines again.
-/
namespace FaLocal

open JsonlForensicExportAdapter (newline OneLine)
open Traced (Halts halts_lift halts_pure)

/-! ## Runs of the execution pipeline -/

/-- An export with its answer. -/
def WorldEvent.exportCall {α : Type} :
    WorldEvent α → Option (ForensicEvent × ForensicExportResult)
  | .exported event result => some (event, result)
  | .inProgress _ => none
  | .called _ _ _ => none

namespace JsonlForensicExportAdapter

theorem toValue_oneLine (times : DateTimes) (event : ForensicEvent) :
    OneLine (event.toValue times) := by
  have hline : newline ∉ lineOf times event := newline_notMem_lineOf
  rw [lineOf_eq] at hline
  exact mt (@Utf8.mem_bytes_ascii _ '\n' (by decide)).mpr hline

/-- What is particular about the sink of execution events. -/
def sink (times : DateTimes) : JsonlSink ForensicEvent where
  adapterId := "jsonl-forensic-export"
  toValue := ForensicEvent.toValue times
  reference := fun event => event.forensicEventId.display
  unserializable := "forensic event could not be serialized for jsonl export"
  directoryMissing := "jsonl forensic export directory is unavailable"
  openRefused := "jsonl forensic export sink is unavailable"
  writeFailed := "jsonl forensic export write failed"
  oneLine := toValue_oneLine times

theorem exportEvent_eq (times : DateTimes) (outcome : AppendOutcome) (event : ForensicEvent)
    (file : List UInt8) :
    exportEvent times outcome event file = (sink times).exportEvent outcome event file := by
  cases outcome <;> rfl

/-- The file of an adapter. -/
def file (times : DateTimes) (outcomes : Nat → AppendOutcome) (contents : List UInt8) :
    JsonlFile ForensicEvent := ⟨sink times, outcomes, contents⟩

/-- The adapter of a file, as a run sees it. -/
def adapter {α : Type} (file : JsonlFile ForensicEvent) : ForensicEventExportAdapter α where
  adapterId := file.sink.adapterId
  exportEvent := fun log event =>
    file.answer (JsonlFile.calls WorldEvent.exportCall log).length event

end JsonlForensicExportAdapter

open WorldEvent (exportCall)

namespace ExecutionPipelineService

open JsonlFile (Failed)

variable {env : RunEnvironment}
  {exportAdapter : Option (ForensicEventExportAdapter BuiltAdapter)}

theorem record_halts (index : Nat) (kind : ForensicRecordKind) (redactionLevel : RedactionLevel)
    (context : ForensicRecordContext) :
    (record env exportAdapter index kind redactionLevel context).Halts (Failed exportCall) := by
  apply (halts_lift _).bind
  intro input
  cases exportAdapter with
  | none => exact (halts_lift _).bind fun _ => halts_pure _
  | some adapter =>
    refine Halts.bind ?_ fun _ => halts_pure _
    apply (halts_lift _).bind
    intro event
    rw [← Traced.bind_assoc]
    refine (Traced.halts_checked ?_).bind fun _ => halts_pure _
    rintro log receipt hreceipt ⟨call, hcall, hfailed⟩
    obtain rfl := Option.some.inj hcall
    rw [ForensicService.mapExportResult_eq_ok hreceipt] at hfailed
    cases hfailed

theorem recordStatuses_halts (d : RouteDecision) (context : ForensicRecordContext)
    (statuses : List ValidatedExecutionStatus) (index : Nat) :
    (recordStatuses env exportAdapter d context index statuses).Halts (Failed exportCall) := by
  induction statuses generalizing index with
  | nil => exact halts_pure _
  | cons status rest ih =>
    exact (record_halts index _ _ _).bind fun _ => (ih (index + 1)).bind fun _ => halts_pure _

/-- Nothing is exported while a route is delivered. -/
theorem deliver_halts (dispatchMode : DispatchMode) (prepared : Prepared)
    (context : RouteResolutionContext) :
    (deliver env dispatchMode prepared.selectedRoute prepared.validatedPlan prepared.registry
      context).Halts (Failed exportCall) := by
  apply (deliver_exports env dispatchMode prepared context).halts
  rintro events hnone entry hentry ⟨call, hcall, -⟩
  have hexport := List.filterMap_eq_nil_iff.mp hnone entry hentry
  cases entry with
  | exported event result => cases hexport
  | inProgress stepId => cases hcall
  | called adapter request result => cases hcall

variable (env exportAdapter) in
theorem run_halts (inputs : ExecutionPipelineInputs) (adapterSelection : Option AdapterSelection)
    (additionalAdapters : List CapabilityScopedAdapterSelection) (dispatchMode : DispatchMode)
    (context : RouteResolutionContext) :
    (run env inputs adapterSelection additionalAdapters dispatchMode exportAdapter
      context).Halts (Failed exportCall) := by
  rw [run_eq]
  apply (halts_lift _).bind
  intro d
  split
  · apply (halts_lift _).bind
    intro prepared
    cases prepared with
    | inl denial => exact halts_pure _
    | inr prepared =>
      exact (deliver_halts dispatchMode prepared context).bind fun trace =>
        (recordStatuses_halts d _ trace.statuses 0).bind fun _ => halts_pure _
  · exact (record_halts 0 _ _ _).bind fun _ => halts_pure _

theorem exported_exportCall {α : Type} (events : List (WorldEvent α)) :
    JsonlFile.exported exportCall events = SqliteForensicStore.exportedOf events := by
  induction events with
  | nil => rfl
  | cons entry events ih =>
    have hsplit : JsonlFile.exported exportCall (entry :: events) =
        JsonlFile.exported exportCall [entry] ++ JsonlFile.exported exportCall events := by
      simp only [JsonlFile.exported, ← List.map_append, ← List.filter_append,
        ← JsonlFile.calls_append, List.singleton_append]
    rw [hsplit, SqliteForensicStore.exportedOf_cons, ih]
    cases entry with
    | exported event result => cases result <;> rfl
    | inProgress stepId => rfl
    | called adapter request result => rfl

theorem run_jsonlAnswers (env : RunEnvironment) (inputs : ExecutionPipelineInputs)
    (adapterSelection : Option AdapterSelection)
    (additionalAdapters : List CapabilityScopedAdapterSelection) (dispatchMode : DispatchMode)
    (file : JsonlFile ForensicEvent) (context : RouteResolutionContext) :
    (run env inputs adapterSelection additionalAdapters dispatchMode
      (some (JsonlForensicExportAdapter.adapter file)) context).Lawful
      (file.Answers exportCall) := by
  intro log
  obtain ⟨events, hfollow, he⟩ := run_answers env inputs adapterSelection additionalAdapters
    dispatchMode (some (JsonlForensicExportAdapter.adapter file)) context log
  refine ⟨events, hfollow.mono ?_, he⟩
  intro log entry hanswer call hcall
  cases entry with
  | exported event result =>
    obtain rfl := Option.some.inj hcall
    obtain ⟨adapter, hadapter, rfl⟩ := hanswer
    obtain rfl := Option.some.inj hadapter
    rfl
  | inProgress stepId => cases hcall
  | called adapter request result => cases hcall

open JsonlForensicExportAdapter (file adapter) in
/-- A run that finds whole lines leaves them, and behind them the lines of all events that it has
exported; if it returns, these are the lines of its records, and they are whole. -/
theorem run_lines (env : RunEnvironment) (inputs : ExecutionPipelineInputs)
    (adapterSelection : Option AdapterSelection)
    (additionalAdapters : List CapabilityScopedAdapterSelection) (dispatchMode : DispatchMode)
    (context : RouteResolutionContext) (times : DateTimes) (outcomes : Nat → AppendOutcome)
    (contents : List UInt8) (log : List (WorldEvent BuiltAdapter))
    (hfile : Lines.Terminated newline
      ((file times outcomes contents).afterLog exportCall log)) :
    ∃ events written, (run env inputs adapterSelection additionalAdapters dispatchMode
        (some (adapter (file times outcomes contents))) context log).2 = log ++ events ∧
      (file times outcomes contents).Leaves exportCall log events written ∧
      ∀ outcome, (run env inputs adapterSelection additionalAdapters dispatchMode
          (some (adapter (file times outcomes contents))) context log).1 = .ok outcome →
        written = recordedEvents outcome.forensicRecords ∧
          Lines.Terminated newline
            ((file times outcomes contents).afterLog exportCall (log ++ events)) := by
  obtain ⟨events, written, he, hleaves, hreturned⟩ := JsonlFile.leaves
    (run_jsonlAnswers env inputs adapterSelection additionalAdapters dispatchMode
      (file times outcomes contents) context)
    (run_halts env _ inputs adapterSelection additionalAdapters dispatchMode context) hfile
  refine ⟨events, written, he, hleaves, ?_⟩
  intro outcome houtcome
  obtain ⟨hwritten, hterminated⟩ := hreturned outcome houtcome
  obtain ⟨events', he', hrecords⟩ := run_exportedOf (Prod.ext houtcome he)
  obtain rfl : events = events' := List.append_cancel_left he'
  rw [exported_exportCall, hrecords] at hwritten
  exact ⟨hwritten, hterminated⟩

end ExecutionPipelineService

namespace ExecutionPipelineService

open JsonlForensicExportAdapter (file adapter)
open Fixture (exportsMachine oneStepRun id plannedInputs fileWrite context timeTexts secondBreaks)

/-- A new file, and a run of one step whose second record breaks off. -/
theorem run_lines_second_breaks : ∃ events written,
    (run (exportsMachine.environment (oneStepRun (id .request 5))) plannedInputs (some fileWrite)
      [] .wholeRoute (some (adapter (file timeTexts.toDateTimes secondBreaks []))) context []).2 =
        [] ++ events ∧
      (file timeTexts.toDateTimes secondBreaks []).Leaves exportCall [] events written := by
  have hempty : Lines.Terminated newline
      ((file timeTexts.toDateTimes secondBreaks []).afterLog (@exportCall BuiltAdapter) []) :=
    .inl rfl
  obtain ⟨events, written, he, hleaves, -⟩ := run_lines
    (exportsMachine.environment (oneStepRun (id .request 5))) plannedInputs (some fileWrite) []
    .wholeRoute context timeTexts.toDateTimes secondBreaks [] [] hempty
  exact ⟨events, written, he, hleaves⟩

/-- One record is exported, and five bytes of the next are written. -/
example : (JsonlFile.calls exportCall (run (exportsMachine.environment (oneStepRun (id .request 5)))
    plannedInputs (some fileWrite) [] .wholeRoute (some (adapter (file timeTexts.toDateTimes
      secondBreaks []))) context []).2).map (·.2.isExported) = [true, false] := by
  decide +kernel

end ExecutionPipelineService

end FaLocal
