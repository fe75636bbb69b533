import FaLocal.DecisionReload
import FaLocal.RunEvidence
import FaLocal.Library.Keyed
import FaLocal.SqliteForensicStore

/-!
# The evidence that the store gives back

All records of a run carry one timestamp, so that the order of the query says
nothing about them: the store may give back the records of a run in any order.
-/
namespace FaLocal

namespace SqliteForensicStore

variable {α : Type} {store : SqliteForensicStore α} {log out : List (WorldEvent α)}
  {events : List ForensicEvent} {correlationId : CorrelationId} {recordedAtUtc : TimestampUtc}

/-- What a query may return for events that were stored at one time under a new
correlation id: the events, in any order. -/
theorem Stored.query_iff (h : Stored store log out events)
    (hearlier : ∀ row ∈ store.rowsAfter log, row.correlationId ≠ correlationId.display)
    (habout : ∀ event ∈ events, event.correlationId = correlationId)
    (htime : ∀ event ∈ events, event.timestampUtc = recordedAtUtc)
    (hread : ∀ event ∈ events, store.fromStr (event.jsonText store.times) = .ok event)
    {result : FaLocalResult (List ForensicEvent)} :
    store.QueryByCorrelationId (store.rowsAfter out) correlationId result ↔
      ∃ answer, answer.Perm events ∧ result = .ok answer := by
  have hselected : (store.rowsAfter out).filter
      (fun row => row.correlationId == correlationId.display) = events.map store.rowOf := by
    have hnone : (store.rowsAfter log).filter
        (fun row => row.correlationId == correlationId.display) = [] :=
      List.filter_eq_nil_iff.mpr fun row hrow he => hearlier row hrow (beq_iff_eq.mp he)
    rw [h.rows, List.filter_append, hnone, List.nil_append, List.filter_eq_self]
    intro row hrow
    obtain ⟨event, he, rfl⟩ := List.mem_map.mp hrow
    exact beq_iff_eq.mpr (congrArg UuidId.display (habout event he))
  have hkey : ∀ row ∈ events.map store.rowOf,
      row.timestampUtc = store.toRfc3339 recordedAtUtc := by
    intro row hrow
    obtain ⟨event, he, rfl⟩ := List.mem_map.mp hrow
    exact congrArg store.toRfc3339 (htime event he)
  have hdecode : ∀ answer : List ForensicEvent, answer.Perm events →
      (answer.map store.rowOf).mapM (fun row => store.fromStr row.eventJson) = .ok answer := by
    intro answer hp
    have hall : ∀ event ∈ answer,
        ((fun row => store.fromStr row.eventJson) ∘ store.rowOf) event = .ok (id event) :=
      fun event he => hread event (hp.mem_iff.mp he)
    rw [List.mapM_map, mapM_ok hall, List.map_id]
  rw [QueryByCorrelationId, QueryWhere]
  have hselects : ∀ answer, Selection.Selects
      (fun row : ForensicRow => row.correlationId == correlationId.display) (·.timestampUtc)
      (store.rowsAfter out) answer ↔ ∃ n : List ForensicEvent, n.Perm events ∧
        answer = n.map store.rowOf := by
    intro answer
    rw [Selection.selects_iff_perm, hselected, Selection.perm_map_iff]
    rw [hselected]
    intro a ha b hb
    rw [hkey a ha, hkey b hb]
  constructor
  · rintro ⟨answer, hs, rfl⟩
    obtain ⟨n, hp, rfl⟩ := (hselects answer).mp hs
    exact ⟨n, hp, hdecode n hp⟩
  · rintro ⟨answer, hp, rfl⟩
    exact ⟨answer.map store.rowOf, (hselects _).mpr ⟨answer, hp, rfl⟩, (hdecode answer hp).symm⟩

end SqliteForensicStore

namespace ExecutionPipelineService

open ExecutionService
open SqliteForensicStore (Stored stored_single)
open WorldEvent (exports)

/-- The events of the records of a run. -/
def recordedEvents (records : List ForensicRecordOutcome) : List ForensicEvent :=
  records.map (·.event.event)

section
variable {env : RunEnvironment} {inputs : ExecutionPipelineInputs}
  {adapterSelection : Option AdapterSelection}
  {additionalAdapters : List CapabilityScopedAdapterSelection} {dispatchMode : DispatchMode}
  {store : SqliteForensicStore BuiltAdapter} {context : RouteResolutionContext}
  {log out : List (WorldEvent BuiltAdapter)} {outcome : ExecutionPipelineOutcome}

/-- Entries without exports leave the rows alone. -/
theorem rowsAfter_unexported {events : List (WorldEvent BuiltAdapter)}
    (h : exports events = []) : store.rowsAfter (log ++ events) = store.rowsAfter log := by
  rw [SqliteForensicStore.rowsAfter_append]
  refine List.append_right_eq_self.mpr (List.filterMap_eq_nil_iff.mpr fun event he => ?_)
  have hnone := List.filterMap_eq_nil_iff.mp h event he
  cases event with
  | exported event result => cases hnone
  | inProgress stepId => rfl
  | called adapter request result => rfl

theorem record_stored {index : Nat} {kind : ForensicRecordKind} {redactionLevel : RedactionLevel}
    {recordContext : ForensicRecordContext} {recorded : ForensicRecordOutcome}
    (h : record env (some store.adapter) index kind redactionLevel recordContext log =
      (.ok recorded, out)) :
    Stored store log out [recorded.event.event] ∧
      recorded.event.event.timestampUtc = recordContext.recordedAtUtc := by
  obtain ⟨hev, reference, hanswer, -, rfl⟩ := record_exported h
  exact ⟨stored_single hanswer, by rw [hev]; rfl⟩

theorem recordStatuses_stored {d : RouteDecision} {index : Nat}
    {recordContext : ForensicRecordContext} {statuses : List ValidatedExecutionStatus}
    {records : List ForensicRecordOutcome}
    (h : recordStatuses env (some store.adapter) d recordContext index statuses log =
      (.ok records, out)) :
    Stored store log out (recordedEvents records) ∧
      ∀ event ∈ recordedEvents records, event.timestampUtc = recordContext.recordedAtUtc := by
  induction statuses generalizing index log records with
  | nil =>
    cases h
    exact ⟨.refl rfl, by simp [recordedEvents]⟩
  | cons status rest ih =>
    obtain ⟨recorded, mid, hr, h⟩ := Traced.bind_eq_ok h
    obtain ⟨records', mid', hrs, h⟩ := Traced.bind_eq_ok h
    cases h
    obtain ⟨hstored, htime⟩ := record_stored hr
    obtain ⟨hstored', htimes⟩ := ih hrs
    exact ⟨hstored.append hstored', List.forall_mem_cons.mpr ⟨htime, htimes⟩⟩

/-- A returned run has stored its records, all at the time of its decision. -/
theorem run_stored
    (h : run env inputs adapterSelection additionalAdapters dispatchMode (some store.adapter)
      context log = (.ok outcome, out)) :
    Stored store log out (recordedEvents outcome.forensicRecords) ∧
      ∀ event ∈ recordedEvents outcome.forensicRecords,
        event.timestampUtc = context.decidedAtUtc := by
  cases run_cases h with
  | recorded hd hp hr =>
    obtain ⟨hstored, htime⟩ := record_stored hr
    exact ⟨hstored, by simpa [recordedEvents] using htime⟩
  | planDenied hd hp hprep => exact ⟨.refl rfl, by simp [recordedEvents]⟩
  | @delivered d prepared trace mid _ records hreached ht hr =>
    obtain ⟨events, hexports, hmid⟩ := deliver_exports env dispatchMode prepared context log
    replace hmid : mid = log ++ events := by simpa [ht] using hmid
    obtain ⟨hstored, htime⟩ := recordStatuses_stored hr
    have hdelivered : Stored store log mid [] := .refl (by rw [hmid, rowsAfter_unexported hexports])
    exact ⟨hdelivered.append hstored, htime⟩

/-- The store can read the records of a run back. -/
def ReadsBack (store : SqliteForensicStore BuiltAdapter) (outcome : ExecutionPipelineOutcome) :
    Prop :=
  ∀ event ∈ recordedEvents outcome.forensicRecords,
    store.fromStr (event.jsonText store.times) = .ok event

/-- The store has no record of the correlation id of a run. -/
def Unheard (store : SqliteForensicStore BuiltAdapter) (log : List (WorldEvent BuiltAdapter))
    (outcome : ExecutionPipelineOutcome) : Prop :=
  ∀ row ∈ store.rowsAfter log, row.correlationId ≠ outcome.routeDecision.correlationId.display

/-- A query for a run returns its records in some order, and may return them in any. -/
theorem run_query_iff
    (h : run env inputs adapterSelection additionalAdapters dispatchMode (some store.adapter)
      context log = (.ok outcome, out)) (hunheard : Unheard store log outcome)
    (hread : ReadsBack store outcome) {result : FaLocalResult (List ForensicEvent)} :
    store.QueryByCorrelationId (store.rowsAfter out) outcome.routeDecision.correlationId result ↔
      ∃ answer, answer.Perm (recordedEvents outcome.forensicRecords) ∧ result = .ok answer := by
  obtain ⟨hstored, htime⟩ := run_stored h
  refine hstored.query_iff hunheard (fun event he => ?_) htime hread
  obtain ⟨record, hr, rfl⟩ := List.mem_map.mp he
  exact ((run_returned h).carries.records record hr).correlationId

/-- Every query for a run returns its records as they were recorded. -/
def ToldAsRecorded (store : SqliteForensicStore BuiltAdapter)
    (out : List (WorldEvent BuiltAdapter)) (outcome : ExecutionPipelineOutcome) : Prop :=
  ∀ result, store.QueryByCorrelationId (store.rowsAfter out) outcome.routeDecision.correlationId
    result → result = .ok (recordedEvents outcome.forensicRecords)

theorem toldAsRecorded_iff
    (h : run env inputs adapterSelection additionalAdapters dispatchMode (some store.adapter)
      context log = (.ok outcome, out)) (hunheard : Unheard store log outcome)
    (hread : ReadsBack store outcome) :
    ToldAsRecorded store out outcome ↔ outcome.forensicRecords.length ≤ 1 := by
  have hnodup : (recordedEvents outcome.forensicRecords).Nodup := (run_stored h).1.nodup.of_map _
  have hlength : (recordedEvents outcome.forensicRecords).length =
      outcome.forensicRecords.length := List.length_map _
  rw [← hlength, ← Selection.arrangement_unique_iff hnodup]
  constructor
  · intro htold answer hp
    exact Except.ok.inj (htold _ ((run_query_iff h hunheard hread).mpr ⟨answer, hp, rfl⟩))
  · intro hall result hq
    obtain ⟨answer, hp, rfl⟩ := (run_query_iff h hunheard hread).mp hq
    rw [hall answer hp]

/-- A delivery is recorded with at least its admission and its end. -/
theorem delivered_records_length {d : RouteDecision} {prepared : Prepared}
    {trace : ExecutionTrace} {mid : List (WorldEvent BuiltAdapter)}
    {records : List ForensicRecordOutcome}
    {exportAdapter : Option (ForensicEventExportAdapter BuiltAdapter)}
    (hr : Reached env inputs adapterSelection additionalAdapters context d prepared)
    (ht : deliver env dispatchMode prepared.selectedRoute prepared.validatedPlan prepared.registry
      context log = (.ok trace, mid))
    (hrec : recordStatuses env exportAdapter d { recordedAtUtc := context.decidedAtUtc } 0
      trace.statuses mid = (.ok records, out)) : 2 ≤ records.length := by
  obtain ⟨plan, capabilities, hfrom⟩ := prepare_eq_inr hr.admitted hr.prepared
  obtain ⟨events, final, -, htold, -⟩ := deliver_told hfrom ht
  have hlength := congrArg List.length htold
  simp only [List.length_map, toldStatuses, List.length_append, List.length_cons,
    List.length_nil] at hlength
  rw [← (recordStatuses_returned hrec).1.length_eq, hlength]
  omega

variable (inputs) in
/-- The decision of a run does not admit its request. -/
def Unadmitted (env : RunEnvironment) (context : RouteResolutionContext) : Prop :=
  ∃ d, decided env inputs context = .ok d ∧ d.resolvedApprovalPosture.admitted = false

theorem run_records_length_iff
    {exportAdapter : Option (ForensicEventExportAdapter BuiltAdapter)}
    (h : run env inputs adapterSelection additionalAdapters dispatchMode exportAdapter context
      log = (.ok outcome, out)) :
    outcome.forensicRecords.length ≤ 1 ↔
      Unadmitted inputs env context ∨ PlanDenied env inputs context := by
  cases run_cases h with
  | recorded hd hp hr => exact iff_of_true le_rfl (.inl ⟨_, hd, hp⟩)
  | @planDenied d denial hd hp hprep =>
    obtain ⟨value, plan, capabilities, hv, hl, hc, hval⟩ := prepare_eq_inl hprep
    exact iff_of_true (Nat.zero_le 1)
      (.inr ⟨d, value, plan, capabilities, denial, hd, hp, hv, hl, hc, hval⟩)
  | delivered hreached ht hr =>
    refine iff_of_false ?_ ?_
    · have hlength := delivered_records_length hreached ht hr
      simp only
      omega
    · rintro (⟨d', hd', hp'⟩ | hdenied)
      · cases hreached.decided.symm.trans hd'
        rw [hreached.admitted] at hp'
        cases hp'
      · exact hreached.notDenied hdenied

end

/-- The store tells a returned run as it was recorded exactly if the run was not
admitted or its plan was denied: a run that delivers has records in no fixed order. -/
theorem query_told_iff (env : RunEnvironment) (inputs : ExecutionPipelineInputs)
    (adapterSelection : Option AdapterSelection)
    (additionalAdapters : List CapabilityScopedAdapterSelection) (dispatchMode : DispatchMode)
    (store : SqliteForensicStore BuiltAdapter) (context : RouteResolutionContext)
    {log out : List (WorldEvent BuiltAdapter)} {outcome : ExecutionPipelineOutcome}
    (h : run env inputs adapterSelection additionalAdapters dispatchMode (some store.adapter)
      context log = (.ok outcome, out)) (hunheard : Unheard store log outcome)
    (hread : ReadsBack store outcome) :
    ToldAsRecorded store out outcome ↔
      Unadmitted inputs env context ∨ PlanDenied env inputs context := by
  rw [toldAsRecorded_iff h hunheard hread, run_records_length_iff h]

end ExecutionPipelineService

/-! The two-step run, exported to a new store. -/

namespace Fixture

open ExecutionPipelineService

/-- The events that a run has recorded. -/
def eventsOf : FaLocalResult ExecutionPipelineOutcome → List ForensicEvent
  | .ok outcome => recordedEvents outcome.forensicRecords
  | .error _ => []

def twoStepEvents : List ForensicEvent :=
  eventsOf (run (twoStepRun capabilities) plannedInputs (some fileWrite) secondAdapter .perStep none
    context []).1

/-- A new database, and a reader that knows the events of the two-step run. -/
def newStore : SqliteForensicStore BuiltAdapter where
  rows := []
  times := times
  toRfc3339 := fun _ => "2030-01-01T00:10:00+00:00"
  fromStr := fun text =>
    match twoStepEvents.find? fun event => event.jsonText times == text with
    | some event => .ok event
    | none => .error (.returned (.serialization "unknown event"))
  writes := fun _ _ => true

theorem newStore_reads {event : ForensicEvent} (h : event ∈ twoStepEvents)
    (hnodup : (twoStepEvents.map (·.forensicEventId)).Nodup) :
    newStore.fromStr (event.jsonText newStore.times) = .ok event := by
  have htexts : (twoStepEvents.map fun other => other.jsonText times).Nodup :=
    (List.Nodup.of_map _ hnodup).map_on fun a ha b hb htext =>
      List.inj_on_of_nodup_map hnodup ha hb (ForensicEvent.jsonText_id htext)
  have hfind := Keyed.find?_of_mem htexts h
  simp only [newStore, hfind]

theorem twoStepEvents_exported :
    eventsOf (run (twoStepRun capabilities) plannedInputs (some fileWrite) secondAdapter .perStep
      (some newStore.adapter) context []).1 = twoStepEvents := by decide +kernel

theorem twoStepEvents_states : twoStepEvents.map (·.executionState) =
    [.admittedNotStarted, .inProgress, .inProgress, .completed] := by decide +kernel

/-- The two-step run returns, and its records can be read back. -/
theorem twoStepRun_stored : ∃ outcome out,
    run (twoStepRun capabilities) plannedInputs (some fileWrite) secondAdapter .perStep
      (some newStore.adapter) context [] = (.ok outcome, out) ∧
    Unheard newStore [] outcome ∧ ReadsBack newStore outcome ∧
    recordedEvents outcome.forensicRecords = twoStepEvents := by
  have hevents := twoStepEvents_exported
  have hok : (run (twoStepRun capabilities) plannedInputs (some fileWrite) secondAdapter .perStep
      (some newStore.adapter) context []).1.isOk = true := by
    have hstates := twoStepEvents_states
    rw [← hevents] at hstates
    cases hrun : (run (twoStepRun capabilities) plannedInputs (some fileWrite) secondAdapter .perStep
        (some newStore.adapter) context []).1 with
    | error e =>
      rw [hrun] at hstates
      cases hstates
    | ok outcome => rfl
  obtain ⟨outcome, hrun⟩ := exists_of_fst_isOk hok
  rw [hrun] at hevents
  replace hevents : recordedEvents outcome.forensicRecords = twoStepEvents := hevents
  have hnodup := (run_stored hrun).1.nodup
  rw [hevents] at hnodup
  refine ⟨outcome, _, hrun, (by rintro row ⟨⟩), fun event he => ?_, hevents⟩
  rw [hevents] at he
  exact newStore_reads he hnodup

end Fixture

namespace ExecutionPipelineService

open Fixture (twoStepRun plannedInputs fileWrite secondAdapter newStore)

theorem query_told_two_steps : ∃ outcome out,
    run (twoStepRun Fixture.capabilities) plannedInputs (some fileWrite) secondAdapter .perStep
      (some newStore.adapter) Fixture.context [] = (.ok outcome, out) ∧
    (ToldAsRecorded newStore out outcome ↔
      Unadmitted plannedInputs (twoStepRun Fixture.capabilities) Fixture.context ∨
        PlanDenied (twoStepRun Fixture.capabilities) plannedInputs Fixture.context) := by
  obtain ⟨outcome, out, hrun, hunheard, hread, -⟩ := Fixture.twoStepRun_stored
  exact ⟨outcome, out, hrun, query_told_iff (twoStepRun Fixture.capabilities) plannedInputs
    (some fileWrite) secondAdapter .perStep newStore Fixture.context hrun hunheard hread⟩

/-- The query may return the records of the two-step run from the last to the first. -/
theorem query_told_backwards : ∃ outcome out answer,
    run (twoStepRun Fixture.capabilities) plannedInputs (some fileWrite) secondAdapter .perStep
      (some newStore.adapter) Fixture.context [] = (.ok outcome, out) ∧
    Unheard newStore [] outcome ∧ ReadsBack newStore outcome ∧
    (recordedEvents outcome.forensicRecords).map (·.executionState) =
      [.admittedNotStarted, .inProgress, .inProgress, .completed] ∧
    newStore.QueryByCorrelationId (newStore.rowsAfter out) outcome.routeDecision.correlationId
      (.ok answer) ∧
    answer.map (·.executionState) = [.completed, .inProgress, .inProgress, .admittedNotStarted] ∧
    ¬ ToldAsRecorded newStore out outcome := by
  obtain ⟨outcome, out, hrun, hunheard, hread, hevents⟩ := Fixture.twoStepRun_stored
  have hstates := Fixture.twoStepEvents_states
  rw [← hevents] at hstates
  have hquery := (run_query_iff hrun hunheard hread).mpr
    ⟨_, List.reverse_perm (recordedEvents outcome.forensicRecords), rfl⟩
  have hreversed : (recordedEvents outcome.forensicRecords).reverse.map (·.executionState) =
      [.completed, .inProgress, .inProgress, .admittedNotStarted] := by
    rw [List.map_reverse, hstates]
    rfl
  refine ⟨outcome, out, _, hrun, hunheard, hread, hstates, hquery, hreversed, fun htold => ?_⟩
  rw [Except.ok.inj (htold _ hquery), hstates] at hreversed
  cases hreversed

end ExecutionPipelineService

end FaLocal
