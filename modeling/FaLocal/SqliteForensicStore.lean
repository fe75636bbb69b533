import FaLocal.DecisionSchema
import FaLocal.Delivery
import FaLocal.Library.Delimited
import FaLocal.Library.Selection

/-!
# The SQLite forensic store

`SqliteForensicStore`: one row for every exported event, keyed by its identifier,
and queries in the order of the stored timestamp text. The text of a time, the
reading of JSON and the failures of the database are parameters.
-/
namespace FaLocal

/-! ## Serialised events -/

mutual

/-- `serde_json::to_string` -/
def Value.compact : Value → List Char
  | .null => "null".toList
  | .bool b => (toString b).toList
  | .number text => text.toList
  | .string s => Delimited.quoted s
  | .array [] => ['[', ']']
  | .array (value :: values) => '[' :: (value.compact ++ Value.compactItems values)
  | .object [] => ['{', '}']
  | .object (member :: members) =>
    '{' :: (Delimited.quoted member.1 ++ ':' :: (member.2.compact ++ Value.compactMembers members))

def Value.compactItems : List Value → List Char
  | [] => [']']
  | value :: values => ',' :: (value.compact ++ Value.compactItems values)

def Value.compactMembers : List (String × Value) → List Char
  | [] => ['}']
  | member :: members =>
    ',' :: (Delimited.quoted member.1 ++ ':' :: (member.2.compact ++ Value.compactMembers members))

end

mutual

/-- `serde_json::to_value`, whose maps keep their members in the order of their names. -/
def Value.byName : Value → Value
  | .array values => .array (Value.itemsByName values)
  | .object members => .object ((Value.membersByName members).insertionSort (·.1 ≤ ·.1))
  | value => value

def Value.itemsByName : List Value → List Value
  | [] => []
  | value :: values => value.byName :: Value.itemsByName values

def Value.membersByName : List (String × Value) → List (String × Value)
  | [] => []
  | member :: members => (member.1, member.2.byName) :: Value.membersByName members

end

def ForensicEventType.serdeName : ForensicEventType → String
  | .denialIssued => "denial_issued"
  | .routeDecisionResolved => "route_decision_resolved"
  | .reviewPackagePrepared => "review_package_prepared"
  | .executionStatusObserved => "execution_status_observed"

def RedactionLevel.serdeName : RedactionLevel → String
  | .none => "none"
  | .sensitiveFieldsRedacted => "sensitive_fields_redacted"
  | .linkageOnly => "linkage_only"

def ExecutionState.serdeName : ExecutionState → String
  | .denied => "denied"
  | .reviewRequired => "review_required"
  | .waitingExplicitApproval => "waiting_explicit_approval"
  | .admittedNotStarted => "admitted_not_started"
  | .inProgress => "in_progress"
  | .degraded => "degraded"
  | .partialSuccess => "partial_success"
  | .completedWithConstraints => "completed_with_constraints"
  | .completed => "completed"
  | .failed => "failed"
  | .canceled => "canceled"

def ForensicEvent.toValue (times : DateTimes) (event : ForensicEvent) : Value := .object [
  ("forensic_event_id", event.forensicEventId.toValue),
  ("correlation_id", event.correlationId.toValue),
  ("request_id", event.requestId.toValue),
  ("event_type", .string event.eventType.serdeName),
  ("route_decision_id", optionValue UuidId.toValue event.routeDecisionId),
  ("execution_plan_id", optionValue UuidId.toValue event.executionPlanId),
  ("stable_plan_hash", optionValue .string event.stablePlanHash),
  ("review_package_id", optionValue UuidId.toValue event.reviewPackageId),
  ("timestamp_utc", .string (times.text event.timestampUtc)),
  ("current_posture", event.currentPosture.toValue),
  ("execution_state", .string event.executionState.serdeName),
  ("degraded_subtype", optionValue (fun s : DegradedSubtype => .string s.serdeName)
    event.degradedSubtype),
  ("summary", .string event.summary),
  ("redaction_level", .string event.redactionLevel.serdeName),
  ("payload_minimized", .bool event.payloadMinimized)]

def ForensicEvent.jsonText (times : DateTimes) (event : ForensicEvent) : String :=
  String.ofList (event.toValue times).compact

/-- The text of an event begins with its identifier. -/
theorem ForensicEvent.jsonText_id {times : DateTimes} {a b : ForensicEvent}
    (h : a.jsonText times = b.jsonText times) : a.forensicEventId = b.forensicEventId := by
  have htext := String.ofList_injective h
  simp only [toValue, Value.compact, UuidId.toValue, List.cons.injEq, true_and,
    List.append_cancel_left_eq] at htext
  exact UuidId.display_inj (Delimited.quoted_selfDelimiting.cancel htext).1

theorem mapM_ok {β γ : Type} {f : β → FaLocalResult γ} {g : β → γ} {l : List β}
    (h : ∀ b ∈ l, f b = .ok (g b)) : l.mapM f = .ok (l.map g) := by
  induction l with
  | nil => rfl
  | cons b l ih =>
    rw [List.mapM_cons, h b List.mem_cons_self, ih fun c hc => h c (List.mem_cons_of_mem b hc)]
    rfl

/-! ## Rows -/

/-- A row of `forensic_events`. -/
structure ForensicRow where
  forensicEventId : String
  correlationId : String
  requestId : String
  eventType : String
  executionState : String
  timestampUtc : String
  eventJson : String
  deriving DecidableEq

/-- An opened store: the rows it was opened with, how times are written and JSON is
read, and which inserts the database can write. -/
structure SqliteForensicStore (α : Type) where
  rows : List ForensicRow
  times : DateTimes
  toRfc3339 : TimestampUtc → String
  fromStr : String → FaLocalResult ForensicEvent
  writes : List (WorldEvent α) → ForensicRow → Bool

namespace SqliteForensicStore

variable {α : Type} (store : SqliteForensicStore α)

def rowOf (event : ForensicEvent) : ForensicRow where
  forensicEventId := event.forensicEventId.display
  correlationId := event.correlationId.display
  requestId := event.requestId.display
  eventType := event.eventType.serdeName
  executionState := event.executionState.serdeName
  timestampUtc := store.toRfc3339 event.timestampUtc
  eventJson := event.jsonText store.times

/-- The rows after a history: an export that was answered with `Exported` has left its row. -/
def rowsAfter (log : List (WorldEvent α)) : List ForensicRow :=
  store.rows ++ log.filterMap fun
    | .exported event (.exported _) => some (store.rowOf event)
    | _ => none

/-- `insert`: the identifier is the primary key. -/
def insert (log : List (WorldEvent α)) (event : ForensicEvent) :
    FaLocalResult (List ForensicRow) :=
  let row := store.rowOf event
  if (store.rowsAfter log).any fun stored => stored.forensicEventId == row.forensicEventId then
    .error (.returned (.sqlite "UNIQUE constraint failed: forensic_events.forensic_event_id"))
  else if store.writes log row then .ok (store.rowsAfter log ++ [row])
  else .error (.returned (.sqlite "write failed"))

def exportEvent (log : List (WorldEvent α)) (event : ForensicEvent) : ForensicExportResult :=
  match store.insert log event with
  | .ok _ => .exported event.forensicEventId.display
  | .error _ => .dependencyUnavailable "sqlite forensic store write failed"

/-- The store as an export adapter. -/
def adapter : ForensicEventExportAdapter α where
  adapterId := "sqlite-forensic-store"
  exportEvent := store.exportEvent

/-- `query_where`: what a query that the database carries out may return. SQL orders
the rows by the text of their timestamps, and says nothing more about their order. -/
def QueryWhere (rows : List ForensicRow) (predicate : ForensicRow → Bool)
    (result : FaLocalResult (List ForensicEvent)) : Prop :=
  ∃ answer, Selection.Selects predicate (·.timestampUtc) rows answer ∧
    result = answer.mapM fun row => store.fromStr row.eventJson

def QueryByCorrelationId (rows : List ForensicRow) (correlationId : CorrelationId)
    (result : FaLocalResult (List ForensicEvent)) : Prop :=
  store.QueryWhere rows (fun row => row.correlationId == correlationId.display) result

def QueryByEventType (rows : List ForensicRow) (eventType : ForensicEventType)
    (result : FaLocalResult (List ForensicEvent)) : Prop :=
  store.QueryWhere rows (fun row => row.eventType == eventType.serdeName) result

/-! ## What an export does -/

section
variable {store} {log mid out : List (WorldEvent α)} {event : ForensicEvent}

@[simp] theorem rowsAfter_append (log events : List (WorldEvent α)) :
    store.rowsAfter (log ++ events) = store.rowsAfter log ++ events.filterMap fun
      | .exported event (.exported _) => some (store.rowOf event)
      | _ => none := by
  rw [rowsAfter, rowsAfter, List.filterMap_append, List.append_assoc]

theorem insert_eq_ok {rows : List ForensicRow} : store.insert log event = .ok rows ↔
    (∀ row ∈ store.rowsAfter log, row.forensicEventId ≠ event.forensicEventId.display) ∧
      store.writes log (store.rowOf event) = true ∧
      rows = store.rowsAfter log ++ [store.rowOf event] := by
  rw [insert]
  split
  · rename_i hany
    obtain ⟨row, hrow, hid⟩ := List.any_eq_true.mp hany
    constructor
    · rintro ⟨⟩
    · rintro ⟨hfresh, -⟩
      exact absurd (beq_iff_eq.mp hid) (hfresh row hrow)
  · rename_i hany
    have hfresh : ∀ row ∈ store.rowsAfter log,
        row.forensicEventId ≠ event.forensicEventId.display := by
      intro row hrow hid
      exact hany (List.any_eq_true.mpr ⟨row, hrow, beq_iff_eq.mpr hid⟩)
    constructor
    · intro h
      split at h
      · rename_i hw
        exact ⟨hfresh, hw, (Except.ok.inj h).symm⟩
      · cases h
    · rintro ⟨-, hw, rfl⟩
      exact if_pos hw

/-- The rows after an export are what its insert has left. -/
theorem rowsAfter_export (log : List (WorldEvent α)) (event : ForensicEvent) :
    store.rowsAfter (log ++ [.exported event (store.exportEvent log event)]) =
      (store.insert log event).toOption.getD (store.rowsAfter log) := by
  rw [rowsAfter_append, exportEvent]
  cases hi : store.insert log event with
  | error e => exact List.append_nil _
  | ok rows =>
    rw [(insert_eq_ok.mp hi).2.2]
    rfl

theorem exportEvent_eq_exported {reference : String}
    (h : store.exportEvent log event = .exported reference) :
    reference = event.forensicEventId.display ∧
      ∃ rows, store.insert log event = .ok rows := by
  rw [exportEvent] at h
  split at h
  · rename_i rows hi
    cases h
    exact ⟨rfl, rows, hi⟩
  · cases h

/-! ## Stored events -/

variable (store log out) in
/-- Between two histories the store has taken these events, in this order. -/
structure Stored (events : List ForensicEvent) : Prop where
  rows : store.rowsAfter out = store.rowsAfter log ++ events.map store.rowOf
  nodup : (events.map (·.forensicEventId)).Nodup
  fresh : ∀ event ∈ events, ∀ row ∈ store.rowsAfter log,
    row.forensicEventId ≠ event.forensicEventId.display

theorem Stored.refl (h : store.rowsAfter out = store.rowsAfter log) : Stored store log out [] where
  rows := by simp [h]
  nodup := .nil
  fresh := by simp

/-- One accepted export. -/
theorem stored_single {reference : String}
    (h : store.exportEvent log event = .exported reference) :
    Stored store log (log ++ [.exported event (.exported reference)]) [event] := by
  obtain ⟨-, rows, hi⟩ := exportEvent_eq_exported h
  obtain ⟨hfresh, -, -⟩ := insert_eq_ok.mp hi
  exact ⟨rowsAfter_append _ _, by simp, by simpa using hfresh⟩

/-- What is taken later has other identifiers than what was there. -/
theorem Stored.disjoint {events events' : List ForensicEvent} (h' : Stored store mid out events')
    (hthere : ∀ event ∈ events, store.rowOf event ∈ store.rowsAfter mid) :
    (events.map (·.forensicEventId)).Disjoint (events'.map (·.forensicEventId)) := by
  intro i hi hi'
  obtain ⟨event, he, rfl⟩ := List.mem_map.mp hi
  obtain ⟨event', he', hid⟩ := List.mem_map.mp hi'
  refine h'.fresh event' he' (store.rowOf event) (hthere event he) ?_
  rw [hid]
  rfl

theorem Stored.append {events events' : List ForensicEvent} (h : Stored store log mid events)
    (h' : Stored store mid out events') : Stored store log out (events ++ events') where
  rows := by rw [h'.rows, h.rows, List.map_append, List.append_assoc]
  nodup := by
    rw [List.map_append]
    refine h.nodup.append h'.nodup (h'.disjoint fun event he => ?_)
    rw [h.rows]
    exact List.mem_append_right _ (List.mem_map_of_mem he)
  fresh := by
    intro event he row hrow
    rcases List.mem_append.mp he with he | he
    · exact h.fresh event he row hrow
    · refine h'.fresh event he row ?_
      rw [h.rows]
      exact List.mem_append_left _ hrow

end

end SqliteForensicStore

end FaLocal
