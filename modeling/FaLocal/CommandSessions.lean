import FaLocal.ForensicSchema
import FaLocal.ReadingCommands
import FaLocal.SessionEvidence

/-!
# Commands on one machine

Several calls of `execute` that name one SQLite store, and `forensics-query` behind them. What is
printed for a key is all that the store holds of it, with every record of every run that returned.
-/
namespace FaLocal

open Execution (RecordOf session_holds records_storable session_recorded)
open SqliteForensicStore (Storable exportedOf)
open ExecutionPipelineService (output recordedEvents)

/-! ## `forensics-query` -/

/-- What a query asks for. -/
inductive QueryKey where
  | byCorrelationId (correlationId : CorrelationId)
  | byEventType (eventType : ForensicEventType)

/-- The events of a key. -/
def QueryKey.names : QueryKey → ForensicEvent → Bool
  | .byCorrelationId correlationId, event => event.correlationId == correlationId
  | .byEventType eventType, event => event.eventType == eventType

/-- How the command words what it cannot parse. -/
structure QueryTexts extends CommandTexts where
  eventTypeError : String → String

def QueryTexts.queryKey (texts : QueryTexts) (args : List String) : Except String QueryKey :=
  match Flags.firstValue args "--correlation-id", Flags.firstValue args "--event-type" with
  | some value, none =>
    match Uuid.parseStr (Utf8.bytes value.toList) with
    | some uuid => .ok (.byCorrelationId ⟨uuid⟩)
    | none => .error ("error: invalid --correlation-id " ++ texts.quoted value ++ ": " ++
        texts.uuidError value)
  | none, some value =>
    match ForensicEventType.variants.find? (·.serdeName == value) with
    | some eventType => .ok (.byEventType eventType)
    | none => .error ("error: invalid --event-type " ++ texts.quoted value ++ ": " ++
        texts.eventTypeError value)
  | _, _ => .error
      "error: forensics-query requires exactly one of --correlation-id or --event-type"

namespace SqliteForensicStore

variable {α : Type} (store : SqliteForensicStore α)

def Query (rows : List ForensicRow) : QueryKey → FaLocalResult (List ForensicEvent) → Prop
  | .byCorrelationId correlationId => store.QueryByCorrelationId rows correlationId
  | .byEventType eventType => store.QueryByEventType rows eventType

variable {store} in
theorem Returns.query {log : List (WorldEvent α)} {events : List ForensicEvent}
    (h : store.Returns log events) (key : QueryKey) :
    (∃ result, store.Query (store.rowsAfter log) key result) ∧
      ∀ result, store.Query (store.rowsAfter log) key result ↔ ∃ answer,
        Selection.Selects key.names (·.timestampUtc) events answer ∧ result = .ok answer := by
  cases key with
  | byCorrelationId correlationId => exact h.byCorrelationId correlationId
  | byEventType eventType => exact h.byEventType eventType

end SqliteForensicStore

/-- What the command prints of an answer, with its exit code. -/
def queryEnd (times : DateTimes) : FaLocalResult (List ForensicEvent) → CommandEnd × Nat
  | .ok events => (.printed (.array (events.map (·.toValue times))), 0)
  | .error error => (.aborted error, error.exitCode)

/-- `fa-local-run forensics-query`: an end that the command may come to, behind this log. SQL
leaves open in which order it returns events of one time. -/
def ForensicsQuery (times : DateTimes) (texts : QueryTexts)
    (openStore : String → Except String (SqliteForensicStore BuiltAdapter)) (args : List String)
    (log : List (WorldEvent BuiltAdapter)) (ended : CommandEnd × Nat) : Prop :=
  match Flags.firstValue args "--sqlite" with
  | none => ended = (.refused "error: forensics-query requires --sqlite", 1)
  | some path =>
    match openStore path with
    | .error e => ended = (.refused ("error: could not open forensic sqlite store " ++
        texts.quoted path ++ ": " ++ e), 1)
    | .ok store =>
      match texts.queryKey args with
      | .error message => ended = (.refused message, 1)
      | .ok key => ∃ result, store.Query (store.rowsAfter log) key result ∧
          ended = queryEnd times result

/-! ## Lines of `execute` -/

/-- One call of `execute`, with what its run draws from outside. -/
structure ExecuteLine where
  args : List String
  env : RunEnvironment
  context : RouteResolutionContext

namespace ExecuteLine

variable (times : DateTimes) (machine : LocalMachine) (host : CommandHost)

def run (line : ExecuteLine) (log : List (WorldEvent BuiltAdapter)) :
    (CommandEnd × Nat) × List (WorldEvent BuiltAdapter) :=
  ExecutionPipelineService.execute times (machine.environment line.env) host line.context
    line.args log

/-- The log of several calls. -/
def session (lines : List ExecuteLine) (log : List (WorldEvent BuiltAdapter)) :
    List (WorldEvent BuiltAdapter) :=
  lines.foldl (fun log line => (line.run times machine host log).2) log

/-- The execution that a line is read as. -/
def execution (line : ExecuteLine) : Option Execution :=
  (host.executeCall (.ofArgs line.args)).toOption.map fun call => {
    env := line.env
    inputs := call.inputs
    adapterSelection := call.adapterSelection
    additionalAdapters := call.additionalAdapters
    dispatchMode := call.dispatchMode
    context := line.context }

/-- The line names this store for its events. -/
structure Names (path : String) (store : SqliteForensicStore BuiltAdapter) (line : ExecuteLine) :
    Prop where
  flag : (ExecuteFlags.ofArgs line.args).forensicSqlite = some path
  opened : host.openSqlite path = .ok store.adapter

section
variable {times machine host} {path : String} {store : SqliteForensicStore BuiltAdapter}
  {line : ExecuteLine} {lines : List ExecuteLine} {log : List (WorldEvent BuiltAdapter)}

theorem Names.sink (h : line.Names host path store) {call : ExecuteCall}
    (hcall : host.executeCall (.ofArgs line.args) = .ok call) :
    call.forensicExportAdapter = some store.adapter := by
  rw [CommandHost.executeCall] at hcall
  split at hcall
  · simp only [bind_eq_ok] at hcall
    obtain ⟨_, -, _, -, _, -, _, -, _, -, _, -, _, -, sink, hsink, hcall⟩ := hcall
    cases hcall
    rw [CommandHost.forensicSink, h.flag] at hsink
    cases hexport : (ExecuteFlags.ofArgs line.args).forensicExport with
    | none =>
      rw [hexport] at hsink
      dsimp only at hsink
      rw [h.opened] at hsink
      exact (Except.ok.inj hsink).symm
    | some file =>
      rw [hexport] at hsink
      cases hsink
  · cases hcall

/-- A line that is not read as a call changes nothing; one that is runs its execution. -/
theorem run_log (h : line.Names host path store) (log : List (WorldEvent BuiltAdapter)) :
    (line.run times machine host log).2 =
      Execution.session machine (some store.adapter) (line.execution host).toList log := by
  rw [run, ExecutionPipelineService.execute, ExecutionPipelineService.executeFlags, execution]
  cases hcall : host.executeCall (.ofArgs line.args) with
  | error message => rfl
  | ok call =>
    dsimp only
    rw [h.sink hcall]
    dsimp only [Except.toOption, Option.map_some, Option.toList_some, Execution.session,
      List.foldl_cons, List.foldl_nil, Execution.run]
    split <;> simp_all

/-- An execution that returns is printed. -/
theorem run_printed (h : line.Names host path store) {execution : Execution}
    {outcome : ExecutionPipelineOutcome} (hexecution : line.execution host = some execution)
    (hok : (execution.run machine (some store.adapter) log).1 = .ok outcome) :
    (line.run times machine host log).1.1 = .printed (output times outcome) := by
  rw [run, ExecutionPipelineService.execute, ExecutionPipelineService.executeFlags]
  rw [ExecuteLine.execution] at hexecution
  cases hcall : host.executeCall (.ofArgs line.args) with
  | error message =>
    rw [hcall] at hexecution
    cases hexecution
  | ok call =>
    rw [hcall] at hexecution
    cases hexecution
    dsimp only
    rw [h.sink hcall]
    rw [Execution.run] at hok
    dsimp only at hok
    split
    · rename_i outcome' out hrun
      rw [hrun] at hok
      obtain rfl := Except.ok.inj hok
      rfl
    · rename_i error out hrun
      rw [hrun] at hok
      cases hok

/-- The calls of a session are a session of executions. -/
theorem session_executions (h : ∀ line ∈ lines, line.Names host path store)
    (log : List (WorldEvent BuiltAdapter)) :
    session times machine host lines log = Execution.session machine (some store.adapter)
      (lines.filterMap (·.execution host)) log := by
  induction lines generalizing log with
  | nil => rfl
  | cons line rest ih =>
    obtain ⟨hline, hrest⟩ := List.forall_mem_cons.mp h
    rw [session, List.foldl_cons]
    refine (ih hrest _).trans ?_
    rw [run_log hline, ← Execution.session_append]
    cases hexecution : line.execution host with
    | none => rw [List.filterMap_cons_none hexecution]; rfl
    | some execution => rw [List.filterMap_cons_some hexecution]; rfl

end

end ExecuteLine

/-! ## What is printed -/

section
variable {times : DateTimes} {machine : LocalMachine} {host : CommandHost} {path : String}
  {store : SqliteForensicStore BuiltAdapter} {lines before behind : List ExecuteLine}
  {line : ExecuteLine} {log events : List (WorldEvent BuiltAdapter)}

open ExecuteLine (session)

/-- The records of a line that was printed are exported. -/
theorem lines_recorded (h : ∀ called ∈ before ++ line :: behind, called.Names host path store)
    (he : session times machine host (before ++ line :: behind) log = log ++ events)
    {execution : Execution} {outcome : ExecutionPipelineOutcome}
    (hexecution : line.execution host = some execution)
    (hok : (execution.run machine (some store.adapter)
      (session times machine host before log)).1 = .ok outcome) :
    ∀ event ∈ recordedEvents outcome.forensicRecords, event ∈ exportedOf events := by
  have hbefore : ∀ line ∈ before, line.Names host path store := fun line hm =>
    h line (List.mem_append_left _ hm)
  rw [ExecuteLine.session_executions h, List.filterMap_append,
    List.filterMap_cons_some hexecution] at he
  rw [ExecuteLine.session_executions hbefore] at hok
  exact fun event hm => (session_recorded he hok).subset hm

/-- The ends of a query for a key are the answers of the store. -/
theorem forensicsQuery_iff {texts : QueryTexts}
    {openStore : String → Except String (SqliteForensicStore BuiltAdapter)} {args : List String}
    {key : QueryKey} {ended : CommandEnd × Nat} (hopen : openStore path = .ok store)
    (hpath : Flags.firstValue args "--sqlite" = some path) (hkey : texts.queryKey args = .ok key) :
    ForensicsQuery times texts openStore args log ended ↔
      ∃ result, store.Query (store.rowsAfter log) key result ∧ ended = queryEnd times result := by
  rw [ForensicsQuery, hpath]
  dsimp only
  rw [hopen]
  dsimp only
  rw [hkey]

end

open ExecuteLine (session) in
/-- Behind calls that name the store, it answers with what it held and what they have exported. -/
theorem lines_returned {times : TimeTexts} {parse : String → Option Value}
    (machine : LocalMachine) {host : CommandHost} {path : String}
    {store : SqliteForensicStore BuiltAdapter} (huses : store.Uses times parse)
    {log : List (WorldEvent BuiltAdapter)} {earlier : List ForensicEvent}
    (hholds : store.Holds log earlier) (hearlier : ∀ event ∈ earlier, Storable times parse event)
    {lines : List ExecuteLine} (hnames : ∀ line ∈ lines, line.Names host path store)
    (hyears : ∀ line ∈ lines, FourDigitYear line.context.decidedAtUtc)
    (hparse : ∀ event ∈ exportedOf (session times.toDateTimes machine host lines log),
      parse (event.jsonText times.toDateTimes) = some (event.toValue times.toDateTimes)) :
    ∃ events, session times.toDateTimes machine host lines log = log ++ events ∧
      store.Returns (log ++ events) (earlier ++ exportedOf events) := by
  have hexecutions : session times.toDateTimes machine host lines log =
      Execution.session machine (some store.adapter) (lines.filterMap (·.execution host)) log :=
    ExecuteLine.session_executions hnames log
  obtain ⟨events, he, hafter, hrecords⟩ :=
    session_holds machine hholds (lines.filterMap (·.execution host))
  have hyears' : ∀ execution ∈ lines.filterMap (·.execution host),
      FourDigitYear execution.context.decidedAtUtc := by
    intro execution hm
    obtain ⟨line, hline, hexecution⟩ := List.mem_filterMap.mp hm
    obtain ⟨call, -, rfl⟩ := Option.map_eq_some_iff.mp hexecution
    exact hyears line hline
  have hparsed : ∀ event ∈ exportedOf events,
      parse (event.jsonText times.toDateTimes) = some (event.toValue times.toDateTimes) := by
    intro event hm
    apply hparse
    rw [hexecutions, he, exportedOf_append]
    exact List.mem_append_right _ hm
  exact ⟨events, hexecutions.trans he,
    hafter.returns huses (records_storable hearlier hrecords hyears' hparsed)⟩

open ExecuteLine (session) in
/-- Behind calls of `execute` that name the store, a query for a key prints what the store has held
of it and what the calls have exported, in the order of time; whatever a call has printed as a
record, is there. -/
theorem commands_queried {times : TimeTexts} {parse : String → Option Value}
    (machine : LocalMachine) (host : CommandHost) (texts : QueryTexts)
    {openStore : String → Except String (SqliteForensicStore BuiltAdapter)} {path : String}
    {store : SqliteForensicStore BuiltAdapter} (hopen : openStore path = .ok store)
    (huses : store.Uses times parse) {log : List (WorldEvent BuiltAdapter)}
    {earlier : List ForensicEvent} (hholds : store.Holds log earlier)
    (hearlier : ∀ event ∈ earlier, Storable times parse event) {lines : List ExecuteLine}
    (hnames : ∀ line ∈ lines, line.Names host path store)
    (hyears : ∀ line ∈ lines, FourDigitYear line.context.decidedAtUtc)
    (hparse : ∀ event ∈ exportedOf (session times.toDateTimes machine host lines log),
      parse (event.jsonText times.toDateTimes) = some (event.toValue times.toDateTimes)) :
    ∃ events, session times.toDateTimes machine host lines log = log ++ events ∧
      ∀ args key, Flags.firstValue args "--sqlite" = some path →
        texts.queryKey args = .ok key →
        (∃ ended, ForensicsQuery times.toDateTimes texts openStore args (log ++ events) ended) ∧
        ∀ ended, ForensicsQuery times.toDateTimes texts openStore args (log ++ events) ended →
          ∃ answer, ended =
              (.printed (.array (answer.map (·.toValue times.toDateTimes))), 0) ∧
            Selection.Selects key.names (·.timestampUtc) (earlier ++ exportedOf events) answer ∧
            ∀ before line behind execution outcome, lines = before ++ line :: behind →
              line.execution host = some execution →
              (execution.run machine (some store.adapter)
                (session times.toDateTimes machine host before log)).1 = .ok outcome →
              (line.run times.toDateTimes machine host
                (session times.toDateTimes machine host before log)).1.1 =
                  .printed (output times.toDateTimes outcome) ∧
              ∀ event ∈ recordedEvents outcome.forensicRecords, key.names event = true →
                event ∈ answer := by
  obtain ⟨events, he, hreturns⟩ :=
    lines_returned machine huses hholds hearlier hnames hyears hparse
  refine ⟨events, he, fun args key hpath hkey => ?_⟩
  obtain ⟨⟨result, hresult⟩, hanswers⟩ := hreturns.query key
  refine ⟨⟨_, (forensicsQuery_iff hopen hpath hkey).mpr ⟨result, hresult, rfl⟩⟩, ?_⟩
  intro ended hended
  obtain ⟨result, hresult, rfl⟩ := (forensicsQuery_iff hopen hpath hkey).mp hended
  obtain ⟨answer, hselects, rfl⟩ := (hanswers result).mp hresult
  refine ⟨answer, rfl, hselects, ?_⟩
  rintro before line behind execution outcome rfl hexecution hok
  have hline : line.Names host path store := hnames line (by simp)
  refine ⟨ExecuteLine.run_printed hline hexecution hok, fun event hm hnamed => ?_⟩
  have hexported := lines_recorded hnames he hexecution hok event hm
  exact hselects.perm.mem_iff.mpr
    (List.mem_filter.mpr ⟨List.mem_append_right _ hexported, hnamed⟩)

/-! One call of `execute`, made twice, and a query behind it. -/

namespace Fixture

/-- A host with the inputs of the fixture run, and the store. -/
def storeHost : CommandHost where
  texts := commandHost.texts
  readJsonFile := fun path => .ok (if path = "trust.json" then envelopeValue else .null)
  openSqlite := fun _ => .ok recordStore.adapter
  jsonl := commandHost.jsonl

def repeatedLine : ExecuteLine where
  args := ["fa-local-run", "execute", "--request", "request.json", "--requester-trust",
    "trust.json", "--policy", "policy.json", "--capability-registry", "registry.json", "--plan",
    "plan.json", "--local-file-write-root", "exports", "--forensic-sqlite", "events.db"]
  env := oneStepRun (id .request 5)
  context := context

def queryTexts : QueryTexts where
  toCommandTexts := commandHost.texts
  eventTypeError := fun _ => "unknown variant"

def openStore : String → Except String (SqliteForensicStore BuiltAdapter) := fun _ =>
  .ok recordStore

def queryArgs : List String := ["fa-local-run", "forensics-query", "--sqlite", "events.db",
  "--event-type", "execution_status_observed"]

theorem repeatedLine_flags : ExecuteFlags.ofArgs repeatedLine.args = {
    request := some "request.json"
    requesterTrust := some "trust.json"
    policy := some "policy.json"
    capabilityRegistry := some "registry.json"
    plan := some "plan.json"
    localFileWriteRoot := some "exports"
    nmapBinary := none
    nmapProfile := none
    adapters := []
    forensicExport := none
    forensicSqlite := some "events.db"
    perStepDispatch := false } := by decide

theorem repeatedLine_execution : repeatedLine.execution storeHost =
    some (execution (oneStepRun (id .request 5)) .wholeRoute) := by
  rw [ExecuteLine.execution, repeatedLine_flags]
  rfl

theorem repeatedLine_names : repeatedLine.Names storeHost "events.db" recordStore where
  flag := by rw [repeatedLine_flags]
  opened := rfl

end Fixture

open Fixture (repeatedLine storeHost queryTexts openStore queryArgs recordStore repeatedEvents
  exportsMachine timeTexts) in
/-- The second call is refused its first record, and the query prints those of the first. -/
theorem commands_queried_repeated : ∃ answer,
    ForensicsQuery timeTexts.toDateTimes queryTexts openStore queryArgs
      (ExecuteLine.session timeTexts.toDateTimes exportsMachine storeHost
        [repeatedLine, repeatedLine] [])
      (.printed (.array (answer.map (·.toValue timeTexts.toDateTimes))), 0) ∧
    Selection.Selects (QueryKey.byEventType .executionStatusObserved).names (·.timestampUtc)
      repeatedEvents answer := by
  have hnames : ∀ line ∈ [repeatedLine, repeatedLine],
      line.Names storeHost "events.db" recordStore :=
    List.forall_mem_cons.mpr ⟨Fixture.repeatedLine_names,
      List.forall_mem_singleton.mpr Fixture.repeatedLine_names⟩
  have hyears : ∀ line ∈ [repeatedLine, repeatedLine], FourDigitYear line.context.decidedAtUtc :=
    List.forall_mem_cons.mpr ⟨by decide, List.forall_mem_singleton.mpr (by decide)⟩
  have hexported : exportedOf (ExecuteLine.session timeTexts.toDateTimes exportsMachine storeHost
      [repeatedLine, repeatedLine] []) = repeatedEvents := by
    rw [ExecuteLine.session_executions hnames, List.filterMap_cons_some
      Fixture.repeatedLine_execution, List.filterMap_cons_some Fixture.repeatedLine_execution]
    exact Fixture.repeated_exported
  have hnew : recordStore.Holds [] [] := SqliteForensicStore.Opened.holds ⟨rfl, .nil⟩
  have hopen : openStore "events.db" = .ok recordStore := rfl
  obtain ⟨events, he, hquery⟩ := commands_queried exportsMachine storeHost queryTexts hopen
    Fixture.recordStore_uses hnew (fun _ hm => by cases hm) hnames hyears
    fun event hm => Fixture.parseAmong_text (hexported ▸ hm)
  rw [he, List.nil_append] at hexported
  rw [he]
  obtain ⟨⟨ended, hended⟩, hends⟩ :=
    hquery queryArgs (.byEventType .executionStatusObserved) (by decide) rfl
  obtain ⟨answer, rfl, hselects, -⟩ := hends ended hended
  exact ⟨answer, hended, hexported ▸ hselects⟩

end FaLocal
