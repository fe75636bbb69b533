import FaLocal.GnatOrder
import FaLocal.JsonlSinks

/-!
# Gnat runs that export to a JSONL file

A shard is delivered only when the file has the lines of the negotiation and of all shards before
it, each of them whole. What an export that fails loses is the end of the file, and the run.
-/
namespace FaLocal

open JsonlForensicExportAdapter (newline OneLine string_oneLine bool_oneLine optionValue_oneLine
  object_oneLine)
open Traced (Halts Lawful halts_lift halts_pure halts_emit lawful_lift lawful_pure lawful_perform
  lawful_emit)

/-! ## The sink -/

/-- An export with its answer. -/
def GnatWorldEvent.exportCall :
    GnatWorldEvent → Option (GnatDispatchForensicEvent × ForensicExportResult)
  | .exported event answer => some (event, answer)
  | .delivered _ _ => none
  | .recorded _ => none

namespace JsonlGnatForensicExportAdapter

theorem toValue_oneLine (times : DateTimes) (event : GnatDispatchForensicEvent) :
    OneLine (event.toValue times) := by
  apply object_oneLine
  simp only [List.forall_mem_cons, List.not_mem_nil, false_implies, implies_true, and_true]
  exact ⟨string_oneLine _, string_oneLine _, string_oneLine _, string_oneLine _, string_oneLine _,
    optionValue_oneLine string_oneLine _, optionValue_oneLine (fun _ => string_oneLine _) _,
    optionValue_oneLine (fun _ => string_oneLine _) _,
    optionValue_oneLine (fun _ => string_oneLine _) _, string_oneLine _, string_oneLine _,
    string_oneLine _, bool_oneLine _⟩

/-- What is particular about the sink of Gnat events. -/
def sink (times : DateTimes) : JsonlSink GnatDispatchForensicEvent where
  adapterId := "jsonl-gnat-forensic-export"
  toValue := GnatDispatchForensicEvent.toValue times
  reference := fun event => event.forensicEventId.display
  unserializable := "gnat dispatch forensic event could not be serialized for jsonl export"
  directoryMissing := "jsonl gnat forensic export directory is unavailable"
  openRefused := "jsonl gnat forensic export sink is unavailable"
  writeFailed := "jsonl gnat forensic export write failed"
  oneLine := toValue_oneLine times

/-- The file of an adapter. -/
def file (times : DateTimes) (outcomes : Nat → AppendOutcome) (contents : List UInt8) :
    JsonlFile GnatDispatchForensicEvent := ⟨sink times, outcomes, contents⟩

/-- The adapter of a file, as a run sees it. -/
def adapter (file : JsonlFile GnatDispatchForensicEvent) : GnatForensicEventExportAdapter where
  adapterId := file.sink.adapterId
  exportEvent := fun log event =>
    file.answer (JsonlFile.calls GnatWorldEvent.exportCall log).length event

end JsonlGnatForensicExportAdapter

open GnatWorldEvent (exportCall deliveries records)

namespace GnatDispatchPipelineService

open JsonlFile (Failed exported)
open JsonlGnatForensicExportAdapter (adapter)

section
variable {env : GnatRunEnvironment} {envelope : GnatDispatchEnvelope}
  {sink : Option GnatForensicEventExportAdapter} {file : JsonlFile GnatDispatchForensicEvent}
  {now : TimestampUtc} {faLocalCapabilities : GnatFaLocalCapabilityState}
  {shardEnrichments : String → Option GnatShardEnrichment} {log entries later : List GnatWorldEvent}

/-! ## Answers -/

theorem pushForensicEvent_lawful (event : ValidatedGnatDispatchForensicEvent) :
    (pushForensicEvent event (some (adapter file))).Lawful (file.Answers exportCall) := by
  refine Lawful.bind ?_ fun record => (lawful_emit ?_).bind fun _ => lawful_pure _
  · refine (lawful_perform ?_).bind fun answer => (lawful_lift _).bind fun _ => lawful_pure _
    intro log call hcall
    obtain rfl := Option.some.inj hcall
    rfl
  · intro entry hentry log call hcall
    rw [List.mem_singleton.mp hentry] at hcall
    cases hcall

theorem pushNegotiationEvent_lawful (negotiationOutcome : GnatNegotiationOutcome)
    (summary : String) :
    (pushNegotiationEvent env envelope (some (adapter file)) now negotiationOutcome
      summary).Lawful (file.Answers exportCall) :=
  (lawful_lift _).bind pushForensicEvent_lawful

theorem dispatchShard_lawful (index : Nat) (request : GnatShardDispatchRequest) :
    (dispatchShard env envelope (some (adapter file)) now index request).Lawful
      (file.Answers exportCall) := by
  refine (lawful_perform ?_).bind fun result => (lawful_lift _).bind fun event =>
    (pushForensicEvent_lawful event).bind fun _ => lawful_pure _
  intro log call hcall
  cases hcall

variable (env envelope file now faLocalCapabilities shardEnrichments) in
theorem run_lawful :
    (run env envelope (some (adapter file)) now faLocalCapabilities shardEnrichments).Lawful
      (file.Answers exportCall) := by
  apply (lawful_lift _).bind
  intro requests
  cases GnatDispatchValidator.negotiate env.utcNow envelope faLocalCapabilities with
  | error denial => exact (pushNegotiationEvent_lawful _ _).bind fun _ => lawful_pure _
  | ok admission =>
    dsimp only
    cases admission.state with
    | serialFallbackPermitted =>
      exact (pushNegotiationEvent_lawful _ _).bind fun _ => lawful_pure _
    | readyForFaLocalDispatch =>
      exact (pushNegotiationEvent_lawful _ _).bind fun _ =>
        (Lawful.eachFrom dispatchShard_lawful 1 requests).bind fun _ => lawful_pure _

/-! ## Failed exports -/

theorem pushForensicEvent_halts (event : ValidatedGnatDispatchForensicEvent) :
    (pushForensicEvent event sink).Halts (Failed exportCall) := by
  refine Halts.bind ?_ fun record => (halts_emit ?_).bind fun _ => halts_pure _
  · cases sink with
    | none => exact halts_pure _
    | some adapter =>
      rw [recordForensicEvent, ← Traced.bind_assoc]
      refine (Traced.halts_checked ?_).bind fun _ => halts_pure _
      rintro log receipt hreceipt ⟨call, hcall, hfailed⟩
      obtain rfl := Option.some.inj hcall
      rw [ForensicService.mapExportResult_eq_ok hreceipt] at hfailed
      cases hfailed
  · rintro entry hentry ⟨call, hcall, -⟩
    rw [List.mem_singleton.mp hentry] at hcall
    cases hcall

theorem pushNegotiationEvent_halts (negotiationOutcome : GnatNegotiationOutcome)
    (summary : String) :
    (pushNegotiationEvent env envelope sink now negotiationOutcome summary).Halts
      (Failed exportCall) :=
  (halts_lift _).bind pushForensicEvent_halts

theorem dispatchShard_halts (index : Nat) (request : GnatShardDispatchRequest) :
    (dispatchShard env envelope sink now index request).Halts (Failed exportCall) := by
  have hdelivered : (Traced.perform fun log =>
      (.delivered request (env.deliverShard log request), env.deliverShard log request) :
      GnatTraced GnatShardDispatchResult).Halts (Failed exportCall) := by
    apply (Traced.appends_perform fun log => rfl :
      Traced.Appends (fun entries => JsonlFile.calls exportCall entries = []) _).halts
    rintro entries hnone entry hentry ⟨call, hcall, -⟩
    rw [List.filterMap_eq_nil_iff.mp hnone entry hentry] at hcall
    cases hcall
  exact hdelivered.bind fun result => (halts_lift _).bind fun event =>
    (pushForensicEvent_halts event).bind fun _ => halts_pure _

variable (env envelope sink now faLocalCapabilities shardEnrichments) in
theorem run_halts :
    (run env envelope sink now faLocalCapabilities shardEnrichments).Halts
      (Failed exportCall) := by
  apply (halts_lift _).bind
  intro requests
  cases GnatDispatchValidator.negotiate env.utcNow envelope faLocalCapabilities with
  | error denial => exact (pushNegotiationEvent_halts _ _).bind fun _ => halts_pure _
  | ok admission =>
    dsimp only
    cases admission.state with
    | serialFallbackPermitted =>
      exact (pushNegotiationEvent_halts _ _).bind fun _ => halts_pure _
    | readyForFaLocalDispatch =>
      exact (pushNegotiationEvent_halts _ _).bind fun _ =>
        (Halts.eachFrom dispatchShard_halts 1 requests).bind fun _ => halts_pure _

/-! ## Records -/

/-- The events of records. -/
def recordedEvents (records : List GnatForensicRecordOutcome) : List GnatDispatchForensicEvent :=
  records.map (·.event.event)

theorem Pushed.exported_eq {event : ValidatedGnatDispatchForensicEvent}
    {record : GnatForensicRecordOutcome}
    (h : Pushed (some (adapter file)) event (.ok record) entries) :
    exported exportCall entries = recordedEvents (records entries) := by
  cases h with
  | kept hsink => cases hsink
  | sunk reference _ => rfl

theorem Round.exported_eq {request : GnatShardDispatchRequest}
    {pushed : GnatForensicRecordOutcome × String × GnatShardDispatchResult}
    (h : Round env envelope (some (adapter file)) now log request (.ok pushed) entries) :
    exported exportCall entries = recordedEvents (records entries) := by
  cases h with
  | served _ hp => exact hp.exported_eq

theorem rounds_exported {requests : List GnatShardDispatchRequest}
    {pushed : List (GnatForensicRecordOutcome × String × GnatShardDispatchResult)}
    (h : Traced.Rounds (Round env envelope (some (adapter file)) now) log requests (.ok pushed)
      later) : exported exportCall later = recordedEvents (records later) := by
  refine h.ok_induction (motive := fun _ _ _ entries =>
    exported exportCall entries = recordedEvents (records entries)) (fun _ => rfl) ?_
  intro log request pushed rest all entries later hround ih
  rw [JsonlFile.exported_append, hround.exported_eq, ih, GnatWorldEvent.records_append,
    recordedEvents, recordedEvents, recordedEvents, List.map_append]

/-- Behind a negotiation that was recorded, and completed rounds. -/
theorem exported_behind {requests : List GnatShardDispatchRequest}
    {event : ValidatedGnatDispatchForensicEvent} {record : GnatForensicRecordOutcome}
    {pushed : List (GnatForensicRecordOutcome × String × GnatShardDispatchResult)}
    (hp : Pushed (some (adapter file)) event (.ok record) entries)
    (hrounds : Traced.Rounds (Round env envelope (some (adapter file)) now) (log ++ entries)
      requests (.ok pushed) later) :
    exported exportCall (entries ++ later) = recordedEvents (records (entries ++ later)) := by
  rw [JsonlFile.exported_append, hp.exported_eq, rounds_exported hrounds,
    GnatWorldEvent.records_append, recordedEvents, recordedEvents, recordedEvents,
    List.map_append]

/-- What is recorded when a shard is delivered, is exported. -/
theorem trail_exported_before {r : FaLocalResult GnatDispatchRunResult}
    (h : Trail env envelope (some (adapter file)) now faLocalCapabilities shardEnrichments log r
      entries) {pre post : List GnatWorldEvent} {request : GnatShardDispatchRequest}
    {result : GnatShardDispatchResult} (he : entries = pre ++ .delivered request result :: post) :
    exported exportCall pre = recordedEvents (records pre) := by
  have hquiet : deliveries entries ≠ [] := by
    rw [he, GnatWorldEvent.deliveries_append]
    exact fun hnil => List.cons_ne_nil _ _ (List.append_eq_nil_iff.mp hnil).2
  cases h with
  | unenriched _ => exact absurd rfl hquiet
  | unrecorded _ => exact absurd rfl hquiet
  | refused hp => exact absurd hp.no_delivery hquiet
  | settled _ _ hp => exact absurd hp.no_delivery hquiet
  | dispatched _ _ _ _ hp hrounds =>
    obtain ⟨pre', rfl, hlater⟩ := split_behind hp.no_delivery he
    obtain ⟨before, b, after, cs, -, hcompleted⟩ := rounds_split hrounds hlater
    exact exported_behind hp hcompleted

theorem trail_exported_returned {r : GnatDispatchRunResult}
    (h : Trail env envelope (some (adapter file)) now faLocalCapabilities shardEnrichments log
      (.ok r) entries) : exported exportCall entries = recordedEvents (records entries) := by
  generalize hr : (.ok r : FaLocalResult GnatDispatchRunResult) = x at h
  cases h with
  | unenriched _ => cases hr
  | unrecorded _ => cases hr
  | refused _ => cases hr
  | settled _ _ hp => exact hp.exported_eq
  | @dispatched requests admission event record entries later r _ _ _ _ hp hrounds =>
    cases r with
    | error e => cases hr
    | ok pushed => exact exported_behind hp hrounds

/-! ## Files -/

variable (envelope file) in
/-- What the file has when a shard is delivered: whole lines, behind those of before, of the
negotiation and of each shard that was delivered already. -/
structure WrittenBefore (log pre : List GnatWorldEvent) : Prop where
  whole : Lines.Terminated newline (file.afterLog exportCall (log ++ pre))
  lines : ∃ negotiation shardEvents,
    Lines.complete newline (file.afterLog exportCall (log ++ pre)) =
      Lines.complete newline (file.afterLog exportCall log) ++
        (negotiation :: shardEvents).map file.sink.lineOf ∧
    ReportsNegotiation envelope .readyForFaLocalDispatch negotiation ∧
    List.Forall₂ (fun delivery event => ReportsShard envelope delivery.1.shardId delivery.2 event)
      (deliveries pre) shardEvents

end

open JsonlGnatForensicExportAdapter (file) in
/-- A run that finds whole lines delivers no shard before the lines of the negotiation and of the
shards before it are there, and it leaves the lines of all events that it has exported; if it
returns, these are the lines of its records. -/
theorem run_writtenBefore (env : GnatRunEnvironment) (envelope : GnatDispatchEnvelope)
    (now : TimestampUtc) (faLocalCapabilities : GnatFaLocalCapabilityState)
    (shardEnrichments : String → Option GnatShardEnrichment) (times : DateTimes)
    (outcomes : Nat → AppendOutcome) (contents : List UInt8) (log : List GnatWorldEvent)
    (hfile : Lines.Terminated newline
      ((file times outcomes contents).afterLog exportCall log)) :
    ∃ entries written, (run env envelope (some (adapter (file times outcomes contents))) now
        faLocalCapabilities shardEnrichments log).2 = log ++ entries ∧
      (file times outcomes contents).Leaves exportCall log entries written ∧
      (∀ pre request result post, entries = pre ++ .delivered request result :: post →
        WrittenBefore envelope (file times outcomes contents) log pre) ∧
      ∀ r, (run env envelope (some (adapter (file times outcomes contents))) now
          faLocalCapabilities shardEnrichments log).1 = .ok r →
        written = recordedEvents r.forensicEvents ∧ Lines.Terminated newline
          ((file times outcomes contents).afterLog exportCall (log ++ entries)) := by
  have hlawful := run_lawful env envelope (file times outcomes contents) now faLocalCapabilities
    shardEnrichments
  have hhalts := run_halts env envelope (some (adapter (file times outcomes contents))) now
    faLocalCapabilities shardEnrichments
  obtain ⟨entries, written, he, hleaves, hreturned⟩ := JsonlFile.leaves hlawful hhalts hfile
  obtain ⟨entries', he', htrail⟩ := @run_trail env envelope
    (some (adapter (file times outcomes contents))) now faLocalCapabilities shardEnrichments log
  obtain rfl : entries = entries' := List.append_cancel_left (he.symm.trans he')
  refine ⟨entries, written, he, hleaves, ?_, ?_⟩
  · intro pre request result post hsplit
    obtain ⟨hwhole, hlines⟩ := JsonlFile.lines_before hlawful hhalts hfile he hsplit
    obtain ⟨negotiation, shardRecords, hrecords, hnegotiation, -, hshards⟩ :=
      (trail_ordered htrail).recordedBefore pre request result post hsplit
    rw [trail_exported_before htrail hsplit, hrecords] at hlines
    exact ⟨hwhole, negotiation.event.event, recordedEvents shardRecords, hlines, hnegotiation,
      List.forall₂_map_right_iff.mpr hshards⟩
  · intro r hr
    obtain ⟨hwritten, hterminated⟩ := hreturned r hr
    rw [hr] at htrail
    rw [trail_exported_returned htrail, ← (trail_returned htrail).recorded] at hwritten
    exact ⟨hwritten, hterminated⟩

open JsonlGnatForensicExportAdapter (file)
open Fixture (gnatRun twoShards at2030 gnatEnrichments timeTexts secondBreaks)

/-- The second append breaks off: the event of a shard, before the next is delivered. -/
theorem run_writtenBefore_second_breaks : ∃ entries written,
    (run gnatRun twoShards (some (adapter (file timeTexts.toDateTimes secondBreaks [])))
      (at2030 600) .readyDefault gnatEnrichments []).2 = [] ++ entries ∧
    (file timeTexts.toDateTimes secondBreaks []).Leaves exportCall [] entries written := by
  obtain ⟨entries, written, he, hleaves, -⟩ := run_writtenBefore gnatRun twoShards (at2030 600)
    .readyDefault gnatEnrichments timeTexts.toDateTimes secondBreaks [] [] (.inl rfl)
  exact ⟨entries, written, he, hleaves⟩

end GnatDispatchPipelineService

end FaLocal
