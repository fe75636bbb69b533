import FaLocal.ReconnaissanceText
import FaLocal.Sessions
import FaLocal.StoredEvidence
import FaLocal.StoreQueries

/-!
# The evidence of a session

All runs of a session export to one store. Some of them fail, before or behind some of
their exports; still the queries answer with what the store has taken, and with all
records of each run that returned, whatever has come after it.
-/
namespace FaLocal

open Traced (Follow)
open WorldEvent (Answers exports exports_append exports_closed)
open ExecutionPipelineService
open SqliteForensicStore (Stored Holds Storable Uses exportedOf exportEvent_stored)

/-! ## The text of a record -/

theorem ForensicEvent.toValue_plain (times : DateTimes) (event : ForensicEvent) :
    (event.toValue times).Plain := by
  have hsubtype : (optionValue (fun s : DegradedSubtype => .string s.serdeName)
      event.degradedSubtype).Plain :=
    optionValue_plain (fun s => .string (DegradedSubtype.serdeName s)) _
  simp [toValue, optionValue_plain, UuidId.toValue, ApprovalPosture.toValue, hsubtype]

/-- The text of a record tells its members. -/
theorem ForensicEvent.jsonText_value {times : DateTimes} {a b : ForensicEvent}
    (h : a.jsonText times = b.jsonText times) : a.toValue times = b.toValue times :=
  compact_injective (toValue_plain times a) (toValue_plain times b) (String.ofList_injective h)

/-! ## What a store has taken -/

section
variable {α : Type} {store : SqliteForensicStore α} {log events : List (WorldEvent α)}

theorem exportedOf_append (a b : List (WorldEvent α)) :
    exportedOf (a ++ b) = exportedOf a ++ exportedOf b :=
  List.filterMap_append

theorem exportedOf_subset_exports {event : ForensicEvent} (h : event ∈ exportedOf events) :
    event ∈ exports events := by
  obtain ⟨entry, he, hevent⟩ := List.mem_filterMap.mp h
  refine List.mem_filterMap.mpr ⟨entry, he, ?_⟩
  cases entry with
  | exported recorded result =>
    cases result with
    | exported reference => exact hevent
    | dependencyUnavailable summary => cases hevent
    | unsupported summary => cases hevent
  | inProgress stepId => cases hevent
  | called adapter request result => cases hevent

/-- Where every entry is the answer of the store, the store has taken what was exported. -/
theorem stored_of_answers (world : DeliveryWorld α) (h : Follow (Answers world (some store.adapter)) log events) :
    Stored store log (log ++ events) (exportedOf events) := by
  induction events generalizing log with
  | nil => exact .refl (by rw [List.append_nil])
  | cons entry events ih =>
    obtain ⟨hentry, hrest⟩ := h
    have hhead : Stored store log (log ++ [entry]) (exportedOf [entry]) := by
      cases entry with
      | exported event result =>
        obtain ⟨adapter, ha, rfl⟩ := hentry
        obtain rfl := Option.some.inj ha
        exact exportEvent_stored log event
      | inProgress stepId =>
        exact .refl (by rw [SqliteForensicStore.rowsAfter_append]; exact List.append_nil _)
      | called adapter request result =>
        exact .refl (by rw [SqliteForensicStore.rowsAfter_append]; exact List.append_nil _)
    rw [List.append_cons, SqliteForensicStore.exportedOf_cons]
    exact hhead.append (ih hrest)

end

/-! ## Runs -/

section
variable {env : RunEnvironment} {inputs : ExecutionPipelineInputs}
  {adapterSelection : Option AdapterSelection}
  {additionalAdapters : List CapabilityScopedAdapterSelection} {dispatchMode : DispatchMode}
  {context : RouteResolutionContext} {log out : List (WorldEvent BuiltAdapter)}
  {outcome : ExecutionPipelineOutcome}

/-- Everything that a run exports bears the time of its decision. -/
theorem run_exports_time (env : RunEnvironment) (inputs : ExecutionPipelineInputs)
    (adapterSelection : Option AdapterSelection)
    (additionalAdapters : List CapabilityScopedAdapterSelection) (dispatchMode : DispatchMode)
    (exportAdapter : Option (ForensicEventExportAdapter BuiltAdapter))
    (context : RouteResolutionContext) :
    (run env inputs adapterSelection additionalAdapters dispatchMode exportAdapter
      context).Appends fun events =>
        ∀ event ∈ exports events, event.timestampUtc = context.decidedAtUtc := by
  have hclosed : Traced.Closed fun events : List (WorldEvent BuiltAdapter) =>
      ∀ event ∈ exports events, event.timestampUtc = context.decidedAtUtc := exports_closed
  have hsingle : ∀ (index : Nat) (kind : ForensicRecordKind) (redactionLevel : RedactionLevel)
      (result : ForensicExportResult), ∀ event ∈ exports [(.exported
        (ForensicService.recordedEvent (env.freshEventId index)
          ⟨kind, redactionLevel, { recordedAtUtc := context.decidedAtUtc }⟩) result :
        WorldEvent BuiltAdapter)], event.timestampUtc = context.decidedAtUtc := by
    intro index kind redactionLevel result event he
    rw [List.mem_singleton.mp he]
    rfl
  rw [run_eq]
  refine Traced.appends_lift_bind hclosed.nil fun d _ => ?_
  split
  · refine Traced.appends_lift_bind hclosed.nil fun prepared _ => ?_
    cases prepared with
    | inl denial => exact hclosed.pure _
    | inr prepared =>
      have hdeliver := (deliver_exports env dispatchMode prepared context).mono
        (Q := fun events => ∀ event ∈ exports events, event.timestampUtc = context.decidedAtUtc)
        fun events hn event he => by simp [hn] at he
      exact hclosed.bind hdeliver fun trace => hclosed.bind (recordStatuses_appends hclosed env
        exportAdapter (fun _ _ index result => hsingle index _ _ result) 0) fun _ => hclosed.pure _
  · exact hclosed.bind (record_appends hclosed env exportAdapter 0 (hsingle 0 _ _)) fun _ =>
      hclosed.pure _

/-- The exports of a run that returns are its records. -/
theorem run_exportedOf {adapter : ForensicEventExportAdapter BuiltAdapter}
    (h : run env inputs adapterSelection additionalAdapters dispatchMode (some adapter) context
      log = (.ok outcome, out)) :
    ∃ events, out = log ++ events ∧ exportedOf events = recordedEvents outcome.forensicRecords := by
  have hrecords : ∀ {events : List (WorldEvent BuiltAdapter)} {records : List ForensicRecordOutcome},
      ExportedAs (some adapter) events records → exportedOf events = recordedEvents records := by
    intro events records hexported
    induction hexported with
    | nil => rfl
    | @cons entry record events records hentry _ ih =>
      obtain ⟨reference, rfl, -⟩ := hentry
      rw [SqliteForensicStore.exportedOf_cons, ih]
      rfl
  cases run_returned h with
  | recorded _ _ _ hexported => exact ⟨_, rfl, hrecords hexported⟩
  | planDenied _ _ _ => exact ⟨[], (List.append_nil log).symm, rfl⟩
  | @delivered d prepared trace mid events records _ hdeliver _ hexported =>
    obtain ⟨delivered, hnone, hmid⟩ := deliver_exports env dispatchMode prepared context log
    obtain rfl : mid = log ++ delivered := by simpa [hdeliver] using hmid
    refine ⟨delivered ++ events, List.append_assoc _ _ _, ?_⟩
    have hnothing : exportedOf delivered = [] := by
      refine List.eq_nil_iff_forall_not_mem.mpr fun event he => ?_
      have hexport := exportedOf_subset_exports he
      rw [hnone] at hexport
      cases hexport
    rw [exportedOf_append, hnothing, hrecords hexported]
    rfl

end

/-! ## Sessions -/

namespace Execution

variable {machine : LocalMachine} {store : SqliteForensicStore BuiltAdapter}
  {exportAdapter : Option (ForensicEventExportAdapter BuiltAdapter)} {executions : List Execution}
  {log : List (WorldEvent BuiltAdapter)}

/-- What all runs of a session append, the session appends. -/
theorem session_appends {P : List (WorldEvent BuiltAdapter) → Prop} (hP : Traced.Closed P)
    (h : ∀ execution ∈ executions, (execution.run machine exportAdapter).Appends P)
    (log : List (WorldEvent BuiltAdapter)) :
    ∃ events, P events ∧ session machine exportAdapter executions log = log ++ events := by
  induction executions generalizing log with
  | nil => exact ⟨[], hP.nil, (List.append_nil log).symm⟩
  | cons execution rest ih =>
    obtain ⟨hrun, hrest⟩ := List.forall_mem_cons.mp h
    obtain ⟨events, hevents, he⟩ := hrun log
    obtain ⟨events', hevents', he'⟩ := ih hrest (log ++ events)
    refine ⟨events ++ events', hP.append hevents hevents', ?_⟩
    rw [session, List.foldl_cons, he]
    exact he'.trans (List.append_assoc _ _ _)

variable (machine) in
/-- An event is a record of the execution: it carries its decision, its plan and its time. -/
structure RecordOf (execution : Execution) (event : ForensicEvent) : Prop where
  carries : ∃ d, decided (machine.environment execution.env) execution.inputs execution.context =
    .ok d ∧ RecordCarries d (acceptedPlan (machine.environment execution.env) execution.inputs) event
  time : event.timestampUtc = execution.context.decidedAtUtc

theorem run_recordOf (execution : Execution) : (execution.run machine exportAdapter).Appends
    fun events => ∀ event ∈ exports events, RecordOf machine execution event := by
  intro log
  obtain ⟨events, hcarry, he⟩ := run_exports (machine.environment execution.env) execution.inputs
    execution.adapterSelection execution.additionalAdapters execution.dispatchMode exportAdapter
    execution.context log
  obtain ⟨events', htime, he'⟩ := run_exports_time (machine.environment execution.env)
    execution.inputs execution.adapterSelection execution.additionalAdapters execution.dispatchMode
    exportAdapter execution.context log
  obtain rfl : events = events' := List.append_cancel_left (he.symm.trans he')
  exact ⟨events, fun event hm => ⟨hcarry event hm, htime event hm⟩, he⟩

/-- The session of some executions goes on behind those in front of it. -/
theorem session_append (before behind : List Execution) (log : List (WorldEvent BuiltAdapter)) :
    session machine exportAdapter (before ++ behind) log =
      session machine exportAdapter behind (session machine exportAdapter before log) :=
  List.foldl_append

/-- A store holds what it held, and what the session has exported: records of its executions. -/
theorem session_holds (machine : LocalMachine) {earlier : List ForensicEvent}
    (hholds : store.Holds log earlier) (executions : List Execution) :
    ∃ events, session machine (some store.adapter) executions log = log ++ events ∧
      store.Holds (log ++ events) (earlier ++ exportedOf events) ∧
      ∀ event ∈ exportedOf events, ∃ execution ∈ executions, RecordOf machine execution event := by
  have hrecords : ∀ execution ∈ executions,
      (execution.run machine (some store.adapter)).Appends fun events =>
        ∀ event ∈ exports events, ∃ execution ∈ executions, RecordOf machine execution event :=
    fun execution hm => (run_recordOf execution).mono fun events h event he =>
      ⟨execution, hm, h event he⟩
  obtain ⟨events, hof, he⟩ := session_appends exports_closed hrecords log
  obtain ⟨events', he', hfollow⟩ := session_may machine (some store.adapter) executions log
  obtain rfl : events = events' := List.append_cancel_left (he.symm.trans he')
  have hstored : Stored store log (log ++ events) (exportedOf events) := by
    refine stored_of_answers ⟨BuiltAdapter.adapterId, machine.deliverRoute⟩
      (hfollow.mono fun log entry hmay => ?_)
    cases entry with
    | inProgress stepId => trivial
    | called adapter request result => exact hmay.1
    | exported event result => exact hmay
  exact ⟨events, he, hholds.stored hstored, fun event hm =>
    hof event (exportedOf_subset_exports hm)⟩

/-- Records of executions of such years can be stored, where their texts are parsed. -/
theorem records_storable {times : TimeTexts} {parse : String → Option Value}
    {earlier exported : List ForensicEvent}
    (hearlier : ∀ event ∈ earlier, Storable times parse event)
    (hrecords : ∀ event ∈ exported, ∃ execution ∈ executions, RecordOf machine execution event)
    (hyears : ∀ execution ∈ executions, FourDigitYear execution.context.decidedAtUtc)
    (hparse : ∀ event ∈ exported,
      parse (event.jsonText times.toDateTimes) = some (event.toValue times.toDateTimes)) :
    ∀ event ∈ earlier ++ exported, Storable times parse event := by
  intro event hm
  rcases List.mem_append.mp hm with hm | hm
  · exact hearlier event hm
  · obtain ⟨execution, hexecution, hrecord⟩ := hrecords event hm
    exact ⟨hrecord.time ▸ hyears execution hexecution, hparse event hm⟩

/-- All records of an execution that returned are exported, one behind the other. -/
theorem session_recorded {events : List (WorldEvent BuiltAdapter)} {before behind : List Execution}
    {execution : Execution} {outcome : ExecutionPipelineOutcome}
    (he : session machine (some store.adapter) (before ++ execution :: behind) log = log ++ events)
    (hok : (execution.run machine (some store.adapter)
      (session machine (some store.adapter) before log)).1 = .ok outcome) :
    recordedEvents outcome.forensicRecords <:+: exportedOf events := by
  obtain ⟨ahead, hahead, -⟩ := session_may machine (some store.adapter) before log
  rw [hahead] at hok
  obtain ⟨run, hrun, hrecorded⟩ := run_exportedOf (Prod.ext hok rfl)
  obtain ⟨rest, hrest, -⟩ := session_may machine (some store.adapter) behind
    (log ++ ahead ++ run)
  have hsplit : log ++ events = log ++ (ahead ++ run ++ rest) := by
    rw [← he, session_append, hahead, session, List.foldl_cons]
    refine (congrArg (session machine (some store.adapter) behind) hrun).trans ?_
    rw [hrest]
    simp
  rw [List.append_cancel_left hsplit, exportedOf_append, exportedOf_append, hrecorded]
  exact ⟨_, _, rfl⟩

/-- A store that held these events answers behind the session with these and with what
the session has exported: records of its executions, and all records of each execution
that returned, one behind the other. -/
theorem session_answered {times : TimeTexts} {parse : String → Option Value}
    (machine : LocalMachine) (huses : store.Uses times parse) {earlier : List ForensicEvent}
    (hholds : store.Holds log earlier) (hearlier : ∀ event ∈ earlier, Storable times parse event)
    (executions : List Execution)
    (hyears : ∀ execution ∈ executions, FourDigitYear execution.context.decidedAtUtc)
    (hparse : ∀ event ∈ exportedOf (session machine (some store.adapter) executions log),
      parse (event.jsonText times.toDateTimes) = some (event.toValue times.toDateTimes)) :
    ∃ events, session machine (some store.adapter) executions log = log ++ events ∧
      store.Returns (log ++ events) (earlier ++ exportedOf events) ∧
      (∀ event ∈ exportedOf events, ∃ execution ∈ executions, RecordOf machine execution event) ∧
      ∀ before execution behind outcome, executions = before ++ execution :: behind →
        (execution.run machine (some store.adapter)
          (session machine (some store.adapter) before log)).1 = .ok outcome →
        recordedEvents outcome.forensicRecords <:+: exportedOf events := by
  obtain ⟨events, he, hafter, hrecords⟩ := session_holds machine hholds executions
  have hparsed : ∀ event ∈ exportedOf events,
      parse (event.jsonText times.toDateTimes) = some (event.toValue times.toDateTimes) := by
    intro event hm
    apply hparse
    rw [he, exportedOf_append]
    exact List.mem_append_right _ hm
  refine ⟨events, he, hafter.returns huses
    (records_storable hearlier hrecords hyears hparsed), hrecords, ?_⟩
  rintro before execution behind outcome rfl hok
  exact session_recorded he hok

end Execution

/-! One request, run twice: the second run is refused its first record, by its identifier. -/

namespace Fixture

open SqliteForensicStore

def repeated : List Execution :=
  [execution (oneStepRun (id .request 5)) .wholeRoute,
    execution (oneStepRun (id .request 5)) .wholeRoute]

/-- The records of the request. -/
def repeatedEvents : List ForensicEvent :=
  eventsOf ((execution (oneStepRun (id .request 5)) .wholeRoute).run exportsMachine none []).1

/-- A parser that knows the texts of some events. -/
def parseAmong (events : List ForensicEvent) (text : String) : Option Value :=
  (events.find? fun event => event.jsonText timeTexts.toDateTimes == text).map fun event =>
    event.toValue timeTexts.toDateTimes

theorem parseAmong_text {events : List ForensicEvent} {event : ForensicEvent}
    (h : event ∈ events) :
    parseAmong events (event.jsonText timeTexts.toDateTimes) =
      some (event.toValue timeTexts.toDateTimes) := by
  have hsome : (events.find? fun stored => stored.jsonText timeTexts.toDateTimes ==
      event.jsonText timeTexts.toDateTimes).isSome :=
    List.find?_isSome.mpr ⟨event, h, beq_self_eq_true _⟩
  obtain ⟨stored, hstored⟩ := Option.isSome_iff_exists.mp hsome
  have hfound := List.find?_some hstored
  have htext : stored.jsonText timeTexts.toDateTimes = event.jsonText timeTexts.toDateTimes :=
    eq_of_beq hfound
  rw [parseAmong, hstored, Option.map_some, ForensicEvent.jsonText_value htext]

/-- A new database whose reader has that parser. -/
def storeAmong (events : List ForensicEvent) : SqliteForensicStore BuiltAdapter where
  rows := []
  times := timeTexts.toDateTimes
  toRfc3339 := toRfc3339
  fromStr := fun text =>
    ((parseAmong events text).bind (ForensicEvent.fromValue timeTexts)).elim
      (.error (.returned (.serialization "unknown event"))) .ok
  writes := fun _ _ => true

theorem storeAmong_uses (events : List ForensicEvent) :
    (storeAmong events).Uses timeTexts (parseAmong events) where
  texts := rfl
  rfc3339 := timeTexts_rfc3339
  written := eventStore_uses.written
  fromStr := by
    intro text value event hparse hread
    simp only [storeAmong, hparse, Option.bind_some, hread, Option.elim_some]

def recordStore : SqliteForensicStore BuiltAdapter := storeAmong repeatedEvents

theorem recordStore_uses : recordStore.Uses timeTexts (parseAmong repeatedEvents) :=
  storeAmong_uses repeatedEvents

theorem repeated_exported :
    exportedOf (Execution.session exportsMachine (some recordStore.adapter) repeated []) =
      repeatedEvents := by decide +kernel

end Fixture

namespace Execution

open Fixture (repeated repeatedEvents recordStore exportsMachine)

/-- The second run leaves the answers as they are. -/
theorem session_answered_repeated : ∃ events,
    session exportsMachine (some recordStore.adapter) repeated [] = [] ++ events ∧
      recordStore.Returns ([] ++ events) ([] ++ exportedOf events) ∧
      exportedOf events = repeatedEvents := by
  have hyears : ∀ execution ∈ repeated, FourDigitYear execution.context.decidedAtUtc :=
    List.forall_mem_cons.mpr ⟨by decide, List.forall_mem_singleton.mpr (by decide)⟩
  have hnew : recordStore.Holds [] [] := SqliteForensicStore.Opened.holds ⟨rfl, .nil⟩
  obtain ⟨events, he, hreturns, -⟩ := session_answered exportsMachine Fixture.recordStore_uses
    hnew (fun _ hm => by cases hm) repeated hyears
    fun event hm => Fixture.parseAmong_text (Fixture.repeated_exported ▸ hm)
  refine ⟨events, he, hreturns, ?_⟩
  rw [← Fixture.repeated_exported, he, List.nil_append]

end Execution

end FaLocal
