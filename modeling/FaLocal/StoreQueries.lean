import FaLocal.ForensicSchema
import FaLocal.Library.Rfc3339

/-!
# The queries of the forensic store

What the store has exported is what its queries return, in the order of time: the texts of
the timestamps, which SQL compares, compare as the instants. A call with an identifier that
is stored already is refused and changes nothing.
-/
namespace FaLocal

namespace SqliteForensicStore

variable {α : Type} (store : SqliteForensicStore α)

/-! ## Calls -/

/-- The events whose export was answered with `Exported`. -/
def exportedOf (log : List (WorldEvent α)) : List ForensicEvent := log.filterMap fun
  | .exported event (.exported _) => some event
  | _ => none

theorem exportedOf_cons (call : WorldEvent α) (log : List (WorldEvent α)) :
    exportedOf (call :: log) = exportedOf [call] ++ exportedOf log := by
  rw [exportedOf, ← List.singleton_append, List.filterMap_append]
  rfl

/-- Calls of `export_event` one after another behind a history, with their answers. -/
def exportEach : List (WorldEvent α) → List ForensicEvent → List (WorldEvent α)
  | _, [] => []
  | log, event :: events =>
    let call := .exported event (store.exportEvent log event)
    call :: exportEach (log ++ [call]) events

/-! ## The parameters -/

/-- The store writes times as `chrono` does, and reads an event from what its text denotes. -/
structure Uses (times : TimeTexts) (parse : String → Option Value) : Prop where
  texts : store.times = times.toDateTimes
  rfc3339 : times.Rfc3339
  written : ∀ time : Calendar.CivilTime, store.toRfc3339 time.instant = Rfc3339.toRfc3339 time
  fromStr : ∀ text value event, parse text = some value →
    ForensicEvent.fromValue times value = some event → store.fromStr text = .ok event

/-- An event of a year of four digits, whose text is parsed as it was written. -/
structure Storable (times : TimeTexts) (parse : String → Option Value) (event : ForensicEvent) :
    Prop where
  year : FourDigitYear event.timestampUtc
  parsed : parse (event.jsonText times.toDateTimes) = some (event.toValue times.toDateTimes)

/-- The rows that the store was opened with are those of events that were exported before. -/
structure Opened (earlier : List ForensicEvent) : Prop where
  rows : store.rows = earlier.map store.rowOf
  nodup : (earlier.map (·.forensicEventId)).Nodup

/-! ## The rules -/

/-- The rows after a history are those of these events, and no two have one identifier. -/
structure Holds (log : List (WorldEvent α)) (events : List ForensicEvent) : Prop where
  rows : store.rowsAfter log = events.map store.rowOf
  nodup : (events.map (·.forensicEventId)).Nodup

/-- A query is answered, with the events of its key, each once and in the order of time. -/
structure Returns (log : List (WorldEvent α)) (events : List ForensicEvent) : Prop where
  nodup : (events.map (·.forensicEventId)).Nodup
  byCorrelationId : ∀ correlationId,
    (∃ result, store.QueryByCorrelationId (store.rowsAfter log) correlationId result) ∧
      ∀ result, store.QueryByCorrelationId (store.rowsAfter log) correlationId result ↔
        ∃ answer, Selection.Selects
          (fun event : ForensicEvent => event.correlationId == correlationId)
          (·.timestampUtc) events answer ∧ result = .ok answer
  byEventType : ∀ eventType,
    (∃ result, store.QueryByEventType (store.rowsAfter log) eventType result) ∧
      ∀ result, store.QueryByEventType (store.rowsAfter log) eventType result ↔
        ∃ answer, Selection.Selects (fun event : ForensicEvent => event.eventType == eventType)
          (·.timestampUtc) events answer ∧ result = .ok answer

/-- A call is refused, and nothing is answered otherwise because of it: no query behind any
later history, and no later call if the database can write after it what it could before. -/
structure Refuses (log : List (WorldEvent α)) (event : ForensicEvent) : Prop where
  answer : store.exportEvent log event =
    .dependencyUnavailable "sqlite forensic store write failed"
  byCorrelationId : ∀ later correlationId result,
    store.QueryByCorrelationId
        (store.rowsAfter (log ++ .exported event (store.exportEvent log event) :: later))
        correlationId result ↔
      store.QueryByCorrelationId (store.rowsAfter (log ++ later)) correlationId result
  byEventType : ∀ later eventType result,
    store.QueryByEventType
        (store.rowsAfter (log ++ .exported event (store.exportEvent log event) :: later))
        eventType result ↔
      store.QueryByEventType (store.rowsAfter (log ++ later)) eventType result
  calls : (∀ later row,
      store.writes (log ++ .exported event (store.exportEvent log event) :: later) row =
        store.writes (log ++ later) row) →
    ∀ calls, store.exportEach (log ++ [.exported event (store.exportEvent log event)]) calls =
      store.exportEach log calls

/-! ## What calls leave -/

section
variable {store} {log : List (WorldEvent α)} {events earlier calls : List ForensicEvent}
  {event : ForensicEvent}

/-- A call is answered with the identifier of its event, or has left no row. -/
theorem exportEvent_cases (store : SqliteForensicStore α) (log : List (WorldEvent α))
    (event : ForensicEvent) :
    store.exportEvent log event = .exported event.forensicEventId.display ∨
      store.exportEvent log event =
        .dependencyUnavailable "sqlite forensic store write failed" := by
  rw [exportEvent]
  cases store.insert log event with
  | ok rows => exact .inl rfl
  | error error => exact .inr rfl

/-- What one call exports has been stored. -/
theorem exportEvent_stored (log : List (WorldEvent α)) (event : ForensicEvent) :
    Stored store log (log ++ [.exported event (store.exportEvent log event)])
      (exportedOf [(.exported event (store.exportEvent log event) : WorldEvent α)]) := by
  rcases store.exportEvent_cases log event with hanswer | hanswer
  · rw [hanswer]
    exact stored_single hanswer
  · rw [hanswer]
    exact Stored.refl (by rw [rowsAfter_append]; exact List.append_nil _)

/-- The history after the calls holds what they exported. -/
theorem exportEach_stored (log : List (WorldEvent α)) (calls : List ForensicEvent) :
    Stored store log (log ++ store.exportEach log calls)
      (exportedOf (store.exportEach log calls)) := by
  induction calls generalizing log with
  | nil => exact Stored.refl (by rw [exportEach, List.append_nil])
  | cons event calls ih =>
    have hrest := ih (log ++ [.exported event (store.exportEvent log event)])
    rw [List.append_assoc, List.singleton_append] at hrest
    rw [exportEach, exportedOf_cons]
    exact (exportEvent_stored log event).append hrest

theorem exportedOf_subset (log : List (WorldEvent α)) (calls : List ForensicEvent) :
    exportedOf (store.exportEach log calls) ⊆ calls := by
  induction calls generalizing log with
  | nil => exact List.nil_subset _
  | cons event calls ih =>
    rw [exportEach, exportedOf_cons]
    refine List.append_subset.mpr ⟨?_, List.Subset.trans (ih _) (List.subset_cons_self _ _)⟩
    rcases store.exportEvent_cases log event with hanswer | hanswer
    · rw [hanswer]
      exact List.cons_subset_cons _ (List.nil_subset _)
    · rw [hanswer]
      exact List.nil_subset _

theorem Opened.holds (h : store.Opened earlier) : store.Holds [] earlier where
  rows := by rw [rowsAfter, h.rows]; exact List.append_nil _
  nodup := h.nodup

/-- What is stored comes behind what was held. -/
theorem Holds.stored {out : List (WorldEvent α)} {new : List ForensicEvent}
    (h : store.Holds log events) (hnew : Stored store log out new) :
    store.Holds out (events ++ new) where
  rows := by rw [hnew.rows, h.rows, List.map_append]
  nodup := by
    rw [List.map_append]
    refine h.nodup.append hnew.nodup (hnew.disjoint fun event he => ?_)
    rw [h.rows]
    exact List.mem_map_of_mem he

theorem Opened.holds_after (h : store.Opened earlier) (calls : List ForensicEvent) :
    store.Holds (store.exportEach [] calls)
      (earlier ++ exportedOf (store.exportEach [] calls)) :=
  h.holds.stored (exportEach_stored [] calls)

/-! ## Queries -/

section
variable {times : TimeTexts} {parse : String → Option Value}

/-- The stored texts compare as the instants. -/
theorem Uses.text_le_iff (h : store.Uses times parse) {t t' : TimestampUtc}
    (ht : FourDigitYear t) (ht' : FourDigitYear t') :
    store.toRfc3339 t ≤ store.toRfc3339 t' ↔ t ≤ t' := by
  obtain ⟨time, rfl⟩ := Calendar.CivilTime.exists_instant ht
  obtain ⟨time', rfl⟩ := Calendar.CivilTime.exists_instant ht'
  rw [h.written, h.written, Rfc3339.toRfc3339_le_iff]

/-- A stored event is read back. -/
theorem Uses.fromStr_jsonText (h : store.Uses times parse) (hevent : Storable times parse event) :
    store.fromStr (store.rowOf event).eventJson = .ok event := by
  rw [rowOf, h.texts]
  exact h.fromStr _ _ _ hevent.parsed
    (ForensicEventSchema.fromValue_of_parse (h.rfc3339.parse_text _ hevent.year))

/-- A query of the rows is one of the events that they were written from. -/
theorem Holds.queryWhere_iff (hholds : store.Holds log events) (h : store.Uses times parse)
    (hevents : ∀ event ∈ events, Storable times parse event) {predicate : ForensicRow → Bool}
    {result : FaLocalResult (List ForensicEvent)} :
    store.QueryWhere (store.rowsAfter log) predicate result ↔
      ∃ answer, Selection.Selects (fun event => predicate (store.rowOf event)) (·.timestampUtc)
        events answer ∧ result = .ok answer := by
  have hkey : ∀ a ∈ events, ∀ b ∈ events,
      (store.rowOf a).timestampUtc ≤ (store.rowOf b).timestampUtc ↔
        a.timestampUtc ≤ b.timestampUtc := by
    intro a ha b hb
    exact h.text_le_iff (hevents a ha).year (hevents b hb).year
  have hread : ∀ answer, Selection.Selects (fun event => predicate (store.rowOf event))
      (·.timestampUtc) events answer →
      (answer.map store.rowOf).mapM (fun row => store.fromStr row.eventJson) = .ok answer := by
    intro answer hanswer
    have hall : ∀ event ∈ answer,
        ((fun row => store.fromStr row.eventJson) ∘ store.rowOf) event = .ok (id event) := by
      intro event he
      have hmem := List.mem_of_mem_filter (hanswer.perm.mem_iff.mp he)
      exact h.fromStr_jsonText (hevents event hmem)
    rw [List.mapM_map, mapM_ok hall, List.map_id]
  rw [QueryWhere, hholds.rows]
  constructor
  · rintro ⟨rows, hrows, rfl⟩
    obtain ⟨answer, hanswer, rfl⟩ := (Selection.selects_map_iff hkey).mp hrows
    exact ⟨answer, hanswer, hread answer hanswer⟩
  · rintro ⟨answer, hanswer, rfl⟩
    exact ⟨_, (Selection.selects_map_iff hkey).mpr ⟨answer, hanswer, rfl⟩,
      (hread answer hanswer).symm⟩

/-- A query for a kind of rows that is a kind of events. -/
theorem Holds.query_spec (hholds : store.Holds log events) (h : store.Uses times parse)
    (hevents : ∀ event ∈ events, Storable times parse event) {predicate : ForensicRow → Bool}
    {kind : ForensicEvent → Bool} (hkind : ∀ event, predicate (store.rowOf event) = kind event) :
    (∃ result, store.QueryWhere (store.rowsAfter log) predicate result) ∧
      ∀ result, store.QueryWhere (store.rowsAfter log) predicate result ↔
        ∃ answer, Selection.Selects kind (·.timestampUtc) events answer ∧ result = .ok answer := by
  have hiff : ∀ result, store.QueryWhere (store.rowsAfter log) predicate result ↔
      ∃ answer, Selection.Selects kind (·.timestampUtc) events answer ∧ result = .ok answer := by
    intro result
    rw [hholds.queryWhere_iff h hevents, funext hkind]
  obtain ⟨answer, hanswer⟩ := Selection.exists_selects kind (·.timestampUtc) events
  exact ⟨⟨.ok answer, (hiff _).mpr ⟨answer, hanswer, rfl⟩⟩, hiff⟩

theorem Holds.returns (hholds : store.Holds log events) (h : store.Uses times parse)
    (hevents : ∀ event ∈ events, Storable times parse event) : store.Returns log events where
  nodup := hholds.nodup
  byCorrelationId := by
    intro correlationId
    refine hholds.query_spec h hevents fun event => ?_
    rw [Bool.eq_iff_iff, beq_iff_eq, beq_iff_eq]
    exact ⟨UuidId.display_inj, congrArg UuidId.display⟩
  byEventType := by
    intro eventType
    refine hholds.query_spec h hevents fun event => ?_
    rw [Bool.eq_iff_iff, beq_iff_eq, beq_iff_eq]
    exact ⟨fun htype => ForensicEventType.serdeName_inj htype, congrArg ForensicEventType.serdeName⟩

end

/-! ## New identifiers and those that are stored already -/

theorem Holds.exports (h : store.Holds log events)
    (hid : event.forensicEventId ∉ events.map (·.forensicEventId))
    (hwrites : store.writes log (store.rowOf event) = true) :
    store.exportEvent log event = .exported event.forensicEventId.display := by
  have hfresh : ∀ row ∈ store.rowsAfter log,
      row.forensicEventId ≠ event.forensicEventId.display := by
    rw [h.rows]
    intro row hrow hsame
    obtain ⟨kept, hkept, rfl⟩ := List.mem_map.mp hrow
    exact hid (List.mem_map.mpr ⟨kept, hkept, UuidId.display_inj hsame⟩)
  have hinsert := insert_eq_ok.mpr ⟨hfresh, hwrites, rfl⟩
  rw [exportEvent, hinsert]

theorem Holds.duplicate (h : store.Holds log events)
    (hid : event.forensicEventId ∈ events.map (·.forensicEventId)) :
    store.exportEvent log event =
      .dependencyUnavailable "sqlite forensic store write failed" := by
  obtain ⟨kept, hkept, hsame⟩ := List.mem_map.mp hid
  rw [exportEvent]
  cases hinsert : store.insert log event with
  | error error => rfl
  | ok rows =>
    have hfresh := (insert_eq_ok.mp hinsert).1 (store.rowOf kept)
    rw [h.rows] at hfresh
    exact absurd (congrArg UuidId.display hsame) (hfresh (List.mem_map_of_mem hkept))

/-- Histories with the same rows and the same writes are continued in the same way. -/
theorem exportEach_alike {log' : List (WorldEvent α)}
    (hrows : ∀ later, store.rowsAfter (log' ++ later) = store.rowsAfter (log ++ later))
    (hwrites : ∀ later row, store.writes (log' ++ later) row = store.writes (log ++ later) row)
    (calls : List ForensicEvent) : store.exportEach log' calls = store.exportEach log calls := by
  induction calls generalizing log log' with
  | nil => rfl
  | cons event calls ih =>
    have hanswer : store.exportEvent log' event = store.exportEvent log event := by
      have hrow := hrows []
      have hwrite := hwrites [] (store.rowOf event)
      rw [List.append_nil, List.append_nil] at hrow hwrite
      rw [exportEvent, exportEvent, insert, insert, hrow, hwrite]
    rw [exportEach, exportEach, hanswer]
    refine congrArg _ (ih (fun later => ?_) fun later row => ?_)
    · rw [List.append_assoc, List.append_assoc]
      exact hrows _
    · rw [List.append_assoc, List.append_assoc]
      exact hwrites _ _

theorem Holds.refuses (h : store.Holds log events)
    (hid : event.forensicEventId ∈ events.map (·.forensicEventId)) : store.Refuses log event := by
  have hanswer := h.duplicate hid
  have hrows : ∀ later,
      store.rowsAfter (log ++ .exported event (store.exportEvent log event) :: later) =
        store.rowsAfter (log ++ later) := by
    intro later
    rw [rowsAfter_append, rowsAfter_append, hanswer]
    rfl
  refine ⟨hanswer, ?_, ?_, ?_⟩
  · intro later correlationId result
    rw [hrows]
  · intro later eventType result
    rw [hrows]
  · intro hwrites calls
    refine exportEach_alike (fun later => ?_) (fun later row => ?_) calls
    · rw [List.append_assoc, List.singleton_append]
      exact hrows later
    · rw [List.append_assoc, List.singleton_append]
      exact hwrites later row

end

/-- After any calls the queries return what was exported, with the key, in the order of time;
a call with an identifier that is stored already is refused and changes no later answer; and
the texts of times compare as the times do. -/
theorem queries_exact {store : SqliteForensicStore α} {times : TimeTexts}
    {parse : String → Option Value} (h : store.Uses times parse) {earlier : List ForensicEvent}
    (hopened : store.Opened earlier) (calls : List ForensicEvent)
    (hevents : ∀ event ∈ earlier ++ calls, Storable times parse event) :
    store.Returns (store.exportEach [] calls)
        (earlier ++ exportedOf (store.exportEach [] calls)) ∧
      (∀ event : ForensicEvent,
        event.forensicEventId ∈
          (earlier ++ exportedOf (store.exportEach [] calls)).map (·.forensicEventId) →
        store.Refuses (store.exportEach [] calls) event) ∧
      ∀ t t', FourDigitYear t → FourDigitYear t' →
        (store.toRfc3339 t ≤ store.toRfc3339 t' ↔ t ≤ t') := by
  have hholds := hopened.holds_after calls
  have hstorable : ∀ event ∈ earlier ++ exportedOf (store.exportEach [] calls),
      Storable times parse event := by
    intro event hevent
    refine hevents event ?_
    rcases List.mem_append.mp hevent with hevent | hevent
    · exact List.mem_append_left _ hevent
    · exact List.mem_append_right _ (exportedOf_subset [] calls hevent)
  exact ⟨hholds.returns h hstorable, fun event hid => hholds.refuses hid,
    fun t t' ht ht' => h.text_le_iff ht ht'⟩

end SqliteForensicStore

open SqliteForensicStore

namespace Fixture

/-- The basic event, half a second later, and another one of the whole second. -/
def lateEvent : ForensicEvent := { statusEvent with timestampUtc := at2030 630 + 500000000 }

def earlyEvent : ForensicEvent :=
  { statusEvent with forensicEventId := idOf .forensicEvent 0xf3 0xf }

/-- `chrono` in the years of four digits. -/
def toRfc3339 (t : TimestampUtc) : String :=
  if h : FourDigitYear t then Rfc3339.toRfc3339 (Calendar.CivilTime.ofInstant t h) else ""

/-- A parser that knows the texts of the two events. -/
def parseText (text : String) : Option Value :=
  if text = lateEvent.jsonText timeTexts.toDateTimes then
    some (lateEvent.toValue timeTexts.toDateTimes)
  else if text = earlyEvent.jsonText timeTexts.toDateTimes then
    some (earlyEvent.toValue timeTexts.toDateTimes)
  else none

def readText (text : String) : FaLocalResult ForensicEvent :=
  ((parseText text).bind (ForensicEvent.fromValue timeTexts)).elim
    (.error (.returned (.serialization "unknown event"))) .ok

/-- A new database that can write. -/
def eventStore : SqliteForensicStore Unit where
  rows := []
  times := timeTexts.toDateTimes
  toRfc3339 := toRfc3339
  fromStr := readText
  writes := fun _ _ => true

theorem eventStore_uses : eventStore.Uses timeTexts parseText where
  texts := rfl
  rfc3339 := timeTexts_rfc3339
  written := by
    intro time
    have htext : toRfc3339 time.instant = Rfc3339.toRfc3339
        (Calendar.CivilTime.ofInstant time.instant time.instant_mem) := dif_pos time.instant_mem
    rw [Calendar.CivilTime.ofInstant_instant] at htext
    exact htext
  fromStr := by
    intro text value event hparse hread
    have hstore : eventStore.fromStr = readText := by rw [eventStore]
    rw [hstore, readText, hparse, Option.bind_some, hread, Option.elim_some]

theorem lateEvent_storable : Storable timeTexts parseText lateEvent where
  year := by decide
  parsed := if_pos rfl

theorem earlyEvent_storable : Storable timeTexts parseText earlyEvent where
  year := by decide
  parsed := by
    have hid : earlyEvent.forensicEventId ≠ lateEvent.forensicEventId := by decide
    exact (if_neg fun htext => hid (ForensicEvent.jsonText_id htext)).trans (if_pos rfl)

/-- The later event comes first, and is exported once more in the end. -/
def eventCalls : List ForensicEvent := [lateEvent, earlyEvent, lateEvent]

theorem eventCalls_exported :
    exportedOf (eventStore.exportEach [] eventCalls) = [lateEvent, earlyEvent] := by
  have hnone : eventStore.Holds [] [] := Opened.holds ⟨rfl, .nil⟩
  have hfirst : eventStore.exportEvent [] lateEvent =
      .exported lateEvent.forensicEventId.display := hnone.exports List.not_mem_nil rfl
  have hone := hnone.stored (stored_single hfirst)
  rw [List.nil_append, List.nil_append] at hone
  have hsecond : eventStore.exportEvent
      [.exported lateEvent (.exported lateEvent.forensicEventId.display)] earlyEvent =
        .exported earlyEvent.forensicEventId.display := hone.exports (by decide) rfl
  have htwo := hone.stored (stored_single hsecond)
  have hthird := htwo.duplicate (List.mem_map_of_mem List.mem_cons_self)
  simp only [eventCalls, exportEach, List.nil_append, hfirst, hsecond, hthird]
  rfl

end Fixture

namespace SqliteForensicStore

/-- The exported events are returned, and the later one is refused the second time. -/
theorem queries_exact_fixture :
    Fixture.eventStore.Returns (Fixture.eventStore.exportEach [] Fixture.eventCalls)
        [Fixture.lateEvent, Fixture.earlyEvent] ∧
      Fixture.eventStore.Refuses (Fixture.eventStore.exportEach [] Fixture.eventCalls)
        Fixture.lateEvent := by
  have hopened : Fixture.eventStore.Opened [] := ⟨rfl, .nil⟩
  have hevents : ∀ event ∈ [] ++ Fixture.eventCalls,
      Storable Fixture.timeTexts Fixture.parseText event := by
    simp only [Fixture.eventCalls, List.nil_append, List.forall_mem_cons, List.not_mem_nil,
      false_implies, implies_true, and_true]
    exact ⟨Fixture.lateEvent_storable, Fixture.earlyEvent_storable, Fixture.lateEvent_storable⟩
  obtain ⟨hreturns, hrefuses, -⟩ :=
    queries_exact Fixture.eventStore_uses hopened Fixture.eventCalls hevents
  rw [List.nil_append, Fixture.eventCalls_exported] at hreturns hrefuses
  exact ⟨hreturns, hrefuses _ (List.mem_map_of_mem List.mem_cons_self)⟩

end SqliteForensicStore

end FaLocal
