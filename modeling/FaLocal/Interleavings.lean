import FaLocal.RunViews
import FaLocal.SessionEvidence

/-!
# Runs side by side

Several runs at once on one machine, each with its own inputs, clock and adapters, and each call
and each export of any of them between any two of another. No order of their steps lets a file
change that no gate has let through; runs for different requests lose no receipt of one another;
and a store that all of them export to keeps the evidence of each. Runs one behind the other are
one such order.
-/
namespace FaLocal

open Traced (Follow Interleaving Process Uniform erased ownPart seen)
open WorldEvent (calls exports)
open ExecutionPipelineService
open LocalFileSystem (receipts receiptPath receipts_append filesAfter_append mem_receipts)
open LocalFileWriteDeliveryAdapter (receiptContents)
open SqliteForensicStore (Stored Holds Storable Uses exportedOf)

/-- A machine that is asked through a view of the log. -/
def LocalMachine.through (machine : LocalMachine)
    (view : List (WorldEvent BuiltAdapter) → List (WorldEvent BuiltAdapter)) : LocalMachine where
  files := machine.files
  isDir := fun log => machine.isDir (view log)
  pathExists := fun log => machine.pathExists (view log)
  write := fun log => machine.write (view log)
  isFile := fun log => machine.isFile (view log)

theorem LocalMachine.through_deliverRoute (machine : LocalMachine)
    (view : List (WorldEvent BuiltAdapter) → List (WorldEvent BuiltAdapter)) :
    (machine.through view).deliverRoute = fun log => machine.deliverRoute (view log) := by
  funext log adapter request
  obtain ⟨selection, capabilityId⟩ := adapter
  cases selection <;> rfl

namespace Execution

variable (machine : LocalMachine) (exportAdapter : Option (ForensicEventExportAdapter BuiltAdapter))

/-- An execution as one of several. -/
def process (execution : Execution) :
    Process (WorldEvent BuiltAdapter) Abort ExecutionPipelineOutcome := fun view =>
  execution.run (machine.through view) (exportAdapter.map (·.through view))

/-- An interleaving of some executions behind a log. -/
def Interleaved (executions : List Execution) (log : List (WorldEvent BuiltAdapter))
    (whole : List (Nat × WorldEvent BuiltAdapter)) : Prop :=
  Interleaving (executions.map (process machine exportAdapter)) log whole

variable {machine exportAdapter} {executions : List Execution}
  {log : List (WorldEvent BuiltAdapter)} {whole : List (Nat × WorldEvent BuiltAdapter)}

theorem process_uniform (execution : Execution) :
    Uniform (execution.process machine exportAdapter) := by
  have huniform := run_uniform (machine.environment execution.env) execution.inputs
    execution.adapterSelection execution.additionalAdapters execution.dispatchMode exportAdapter
    execution.context
  have hsame : ∀ view, (machine.through view).environment execution.env =
      (machine.environment execution.env).through view := by
    intro view
    rw [LocalMachine.environment, LocalMachine.through_deliverRoute]
    rfl
  unfold process run
  simp only [hsame]
  exact huniform

theorem sequence_eq_session (machine : LocalMachine)
    (exportAdapter : Option (ForensicEventExportAdapter BuiltAdapter))
    (executions : List Execution) (log : List (WorldEvent BuiltAdapter)) :
    Traced.sequence (executions.map (process machine exportAdapter)) log =
      session machine exportAdapter executions log := by
  have hview : exportAdapter.map (·.through id) = exportAdapter := by
    cases exportAdapter <;> rfl
  rw [Traced.sequence, session, List.foldl_map]
  congr 1
  funext log execution
  rw [process, hview]
  rfl

theorem processes_uniform (executions : List Execution) :
    ∀ p ∈ executions.map (process machine exportAdapter), Uniform p := by
  intro p hp
  obtain ⟨execution, -, rfl⟩ := List.mem_map.mp hp
  exact process_uniform execution

/-- The executions of a session, one behind the other, are one interleaving of them. -/
theorem session_interleaved (machine : LocalMachine)
    (exportAdapter : Option (ForensicEventExportAdapter BuiltAdapter))
    (executions : List Execution) (log : List (WorldEvent BuiltAdapter)) :
    ∃ whole, Interleaved machine exportAdapter executions log whole ∧
      session machine exportAdapter executions log = log ++ erased whole := by
  rw [← sequence_eq_session]
  exact Traced.sequence_interleaving (processes_uniform executions) log

/-! ## What may come next -/

/-- The gates of an execution are the same on every machine. -/
theorem Gated.elsewhere {machine' : LocalMachine} {execution : Execution} {adapter : BuiltAdapter}
    {request : AdapterDeliveryRequest} (h : Gated machine execution adapter request) :
    Gated machine' execution adapter request where
  gate := by
    obtain ⟨d, typedRequest, plan, capabilities, v, hgate, haccepted, hcarries⟩ := h.gate
    exact ⟨d, typedRequest, plan, capabilities, v,
      ⟨hgate.decided, hgate.posture, hgate.executionAllowed, hgate.noReview, hgate.noApproval,
        hgate.intake, hgate.supplied, hgate.registry, hgate.accepted, hgate.hashed,
        hgate.correlationId, hgate.requestId, hgate.requested, hgate.adapters⟩,
      haccepted, hcarries⟩
  selected := h.selected
  supported := h.supported

theorem process_lawful {execution : Execution} (hm : execution ∈ executions)
    (view : List (WorldEvent BuiltAdapter) → List (WorldEvent BuiltAdapter)) :
    (execution.process machine exportAdapter view).Lawful fun part =>
      May machine exportAdapter executions (view part) := by
  intro part
  obtain ⟨entries, he, hfollow⟩ := run_may (machine.through view)
    (exportAdapter.map (·.through view)) (List.mem_singleton_self execution) part
  refine ⟨entries, hfollow.mono fun part entry hmay => ?_, he⟩
  cases entry with
  | inProgress stepId => trivial
  | called adapter request result =>
    obtain ⟨hresult, execution', hexecution, hgated⟩ := hmay
    obtain rfl := List.mem_singleton.mp hexecution
    rw [LocalMachine.through_deliverRoute] at hresult
    exact ⟨hresult, execution', hm, hgated.elsewhere⟩
  | exported event result =>
    obtain ⟨adapter, hadapter, hresult⟩ := hmay
    obtain ⟨original, horiginal, rfl⟩ := Option.map_eq_some_iff.mp hadapter
    exact ⟨original, horiginal, hresult⟩

/-- What may come next in a session may come next in an interleaving, and nothing else. -/
theorem interleaved_may (h : Interleaved machine exportAdapter executions log whole) :
    Follow (May machine exportAdapter executions) log (erased whole) := by
  apply h.follow
  intro p hp view
  obtain ⟨execution, hm, rfl⟩ := List.mem_map.mp hp
  exact process_lawful hm view

/-- The part of one execution is what it appends on the answers that it gets. -/
theorem Interleaved.part (h : Interleaved machine exportAdapter executions log whole) {i : Nat}
    {execution : Execution} (hi : executions[i]? = some execution) :
    (execution.process machine exportAdapter (seen log whole i) []).2 = ownPart i whole := by
  apply h.runs
  rw [List.getElem?_map, hi, Option.map_some]

/-! ## Files -/

/-- Whatever the order of the steps, a file that no sink keeps is as it was, unless a gated call
has tried to write to it; and where writes are atomic, it is as it was or the receipt of one. -/
theorem interleaved_files (h : Interleaved machine exportAdapter executions log whole)
    (disk : LocalDisk) (file : String) (hsink : file ∉ disk.sinkFiles) :
    FileKept machine disk executions log (log ++ erased whole) file :=
  fileKept_of_follow (interleaved_may h) hsink

/-! ## Receipts -/

/-- The receipt that an entry has written. -/
def receiptOf : WorldEvent BuiltAdapter → Option (String × AdapterDeliveryRequest)
  | .called ⟨.localFileWrite deliveryRoot, _⟩ request .deliveredAllSteps =>
    some (deliveryRoot, request)
  | _ => none

theorem receipts_eq (events : List (WorldEvent BuiltAdapter)) :
    receipts events = events.filterMap receiptOf := by
  induction events with
  | nil => rfl
  | cons event events ih =>
    rw [← List.singleton_append, receipts_append, ih, List.filterMap_append]
    congr 1
    cases event with
    | inProgress stepId => rfl
    | exported event result => rfl
    | called adapter request result =>
      obtain ⟨selection, capabilityId⟩ := adapter
      cases selection <;> cases result <;> rfl

theorem requestIdOf_inj (hids : (executions.filterMap requestIdOf).Nodup) {i j : Nat}
    {execution execution' : Execution} {requestId : RequestId}
    (hi : executions[i]? = some execution) (hj : executions[j]? = some execution')
    (hid : execution.requestIdOf = some requestId)
    (hid' : execution'.requestIdOf = some requestId) : i = j := by
  have hpairs := List.pairwise_iff_getElem.mp (List.pairwise_filterMap.mp hids)
  obtain ⟨hilt, hi⟩ := List.getElem?_eq_some_iff.mp hi
  obtain ⟨hjlt, hj⟩ := List.getElem?_eq_some_iff.mp hj
  rcases Nat.lt_trichotomy i j with hlt | heq | hgt
  · exact absurd rfl (hpairs i j hilt hjlt hlt requestId (hi ▸ hid) requestId (hj ▸ hid'))
  · exact heq
  · exact absurd rfl (hpairs j i hjlt hilt hgt requestId (hj ▸ hid') requestId (hi ▸ hid))

/-- A whole-route execution writes one receipt at most, and for its own request. -/
theorem part_receipts (h : Interleaved machine exportAdapter executions log whole)
    (hwhole : ∀ execution ∈ executions, execution.dispatchMode = .wholeRoute) (i : Nat) :
    (receipts (ownPart i whole)).length ≤ 1 ∧ ∀ receipt ∈ receipts (ownPart i whole),
      isValidHash receipt.2.stablePlanHash = true ∧ ∃ execution,
        executions[i]? = some execution ∧ execution.requestIdOf = some receipt.2.requestId := by
  cases hi : executions[i]? with
  | none =>
    have hnone : ownPart i whole = [] := by
      apply Traced.ownPart_eq_nil
      rintro entry hm rfl
      have hlt := h.known entry hm
      rw [List.length_map] at hlt
      exact absurd (List.getElem?_eq_none_iff.mp hi) (by omega)
    rw [hnone]
    exact ⟨by simp [receipts, calls], fun receipt hm => by simp [receipts, calls] at hm⟩
  | some execution =>
    obtain ⟨events, he, hone, hfrom⟩ := run_receipts_wholeRoute
      (machine.through (seen log whole i)) (exportAdapter.map (·.through (seen log whole i)))
      (hwhole execution (List.mem_of_getElem? hi)) []
    obtain rfl : ownPart i whole = events := (h.part hi).symm.trans he
    refine ⟨hone, fun receipt hm => ?_⟩
    obtain ⟨hhash, hid⟩ := hfrom receipt hm
    refine ⟨hhash, execution, rfl, ?_⟩
    simpa using hid

/-- Whole routes for different requests lose no receipt, whatever the order of their steps. On a
disk whose writes are atomic, and where no sink keeps the file of a receipt, they are what stands
in the files. -/
theorem interleaved_receipts_kept (h : Interleaved machine exportAdapter executions log whole)
    (hwhole : ∀ execution ∈ executions, execution.dispatchMode = .wholeRoute)
    (hids : (executions.filterMap requestIdOf).Nodup) :
    ∀ receipt ∈ receipts (erased whole),
      machine.filesAfter (log ++ erased whole) (receiptPath receipt) =
        some (receiptContents receipt.2) ∧
      ∀ disk : LocalDisk, disk.Plain (receiptPath receipt) →
        disk.contentsAfter machine.toLocalFileSystem (log ++ erased whole) (receiptPath receipt) =
          some (receiptContents receipt.2) := by
  have hpaths : ∀ events : List (WorldEvent BuiltAdapter), (receipts events).map receiptPath =
      events.filterMap fun event => (receiptOf event).map receiptPath := fun events => by
    rw [receipts_eq, List.map_filterMap]
  have hnodup : ((receipts (erased whole)).map receiptPath).Nodup := by
    rw [hpaths]
    apply Traced.nodup_of_parts
    · intro i
      rw [← hpaths]
      have hone := (part_receipts h hwhole i).1
      rcases hr : receipts (ownPart i whole) with _ | ⟨receipt, _ | ⟨receipt', tail⟩⟩
      · exact .nil
      · exact List.nodup_singleton _
      · simp [hr] at hone
    · intro i j hne path hpath hpath'
      rw [← hpaths] at hpath hpath'
      obtain ⟨receipt, hm, rfl⟩ := List.mem_map.mp hpath
      obtain ⟨receipt', hm', hsame⟩ := List.mem_map.mp hpath'
      obtain ⟨hhash, execution, hi, hid⟩ := (part_receipts h hwhole i).2 receipt hm
      obtain ⟨hhash', execution', hj, hid'⟩ := (part_receipts h hwhole j).2 receipt' hm'
      rw [LocalFileWriteDeliveryAdapter.receiptPathFor_inj hhash' hhash hsame] at hid'
      exact hne (requestIdOf_inj hids hi hj hid hid')
  intro receipt hm
  have hkept : machine.filesAfter (log ++ erased whole) (receiptPath receipt) =
      some (receiptContents receipt.2) := by
    rw [filesAfter_append]
    exact Overwrites.after_of_nodup hnodup hm
  exact ⟨hkept, fun disk hplain => (LocalDisk.contentsAfter_eq_filesAfter hplain _).trans hkept⟩

/-! ## Evidence -/

variable {store : SqliteForensicStore BuiltAdapter} {times : TimeTexts}
  {parse : String → Option Value} {earlier : List ForensicEvent}

/-- What an execution records is the same on every machine. -/
theorem RecordOf.elsewhere {machine' : LocalMachine} {execution : Execution} {event : ForensicEvent}
    (h : RecordOf machine execution event) : RecordOf machine' execution event where
  carries := by
    obtain ⟨d, hdecided, hcarries⟩ := h.carries
    exact ⟨d, hdecided, hcarries⟩
  time := h.time

theorem interleaved_recordOf (h : Interleaved machine exportAdapter executions log whole)
    {event : ForensicEvent} (he : event ∈ exports (erased whole)) :
    ∃ execution ∈ executions, RecordOf machine execution event := by
  obtain ⟨entry, hentry, hevent⟩ := List.mem_filterMap.mp he
  obtain ⟨i, hm⟩ := Traced.mem_erased.mp hentry
  obtain ⟨p, hp, hmem⟩ := h.process hm
  rw [List.getElem?_map, Option.map_eq_some_iff] at hp
  obtain ⟨execution, hi, rfl⟩ := hp
  have hrun : (execution.process machine exportAdapter (seen log whole i)).Appends fun events =>
      ∀ event ∈ exports events, RecordOf (machine.through (seen log whole i)) execution event :=
    run_recordOf execution
  obtain ⟨events, hrecords, hevents⟩ := hrun []
  obtain rfl : ownPart i whole = events := (h.part hi).symm.trans hevents
  refine ⟨execution, List.mem_of_getElem? hi, (hrecords event ?_).elsewhere⟩
  exact List.mem_filterMap.mpr ⟨entry, Traced.mem_ownPart.mpr hm, hevent⟩

/-- A store that all executions export to answers behind them with what it held and with what
they have exported: records of theirs, and all records of each execution that returned, in its
order. -/
theorem interleaved_answered (huses : store.Uses times parse) (hholds : store.Holds log earlier)
    (hearlier : ∀ event ∈ earlier, Storable times parse event)
    (h : Interleaved machine (some store.adapter) executions log whole)
    (hyears : ∀ execution ∈ executions, FourDigitYear execution.context.decidedAtUtc)
    (hparse : ∀ event ∈ exportedOf (erased whole),
      parse (event.jsonText times.toDateTimes) = some (event.toValue times.toDateTimes)) :
    store.Returns (log ++ erased whole) (earlier ++ exportedOf (erased whole)) ∧
      (∀ event ∈ exportedOf (erased whole), ∃ execution ∈ executions,
        RecordOf machine execution event) ∧
      ∀ (i : Nat) (execution : Execution) (outcome : ExecutionPipelineOutcome),
        executions[i]? = some execution →
        (execution.process machine (some store.adapter) (seen log whole i) []).1 = .ok outcome →
        (recordedEvents outcome.forensicRecords).Sublist (exportedOf (erased whole)) := by
  have hexported : ∀ event ∈ exportedOf (erased whole), ∃ execution ∈ executions,
      RecordOf machine execution event := fun event hm =>
    interleaved_recordOf h (exportedOf_subset_exports hm)
  have hstored : Stored store log (log ++ erased whole) (exportedOf (erased whole)) := by
    apply stored_of_answers ⟨BuiltAdapter.adapterId, machine.deliverRoute⟩
    refine (interleaved_may h).mono fun log entry hmay => ?_
    cases entry with
    | inProgress stepId => trivial
    | called adapter request result => exact hmay.1
    | exported event result => exact hmay
  have hstorable : ∀ event ∈ earlier ++ exportedOf (erased whole), Storable times parse event := by
    intro event hm
    rcases List.mem_append.mp hm with hm | hm
    · exact hearlier event hm
    · obtain ⟨execution, hexecution, hrecord⟩ := hexported event hm
      exact ⟨hrecord.time ▸ hyears execution hexecution, hparse event hm⟩
  refine ⟨(hholds.stored hstored).returns huses hstorable, hexported, ?_⟩
  intro i execution outcome hi hok
  obtain ⟨events, hevents, hrecorded⟩ := run_exportedOf (Prod.ext hok (h.part hi))
  obtain rfl : ownPart i whole = events := hevents
  rw [← hrecorded]
  exact (Traced.ownPart_sublist i whole).filterMap _

end Execution

/-! Two runs, the second one between two steps of the first. -/

namespace Fixture

def within (n : Nat) (first second : List (WorldEvent BuiltAdapter)) :
    List (Nat × WorldEvent BuiltAdapter) :=
  (first.take n).map (0, ·) ++ second.map (1, ·) ++ (first.drop n).map (0, ·)

theorem within_known {n : Nat} {first second : List (WorldEvent BuiltAdapter)}
    {entry : Nat × WorldEvent BuiltAdapter} (h : entry ∈ within n first second) : entry.1 < 2 := by
  simp only [within, List.mem_append, List.mem_map] at h
  rcases h with (⟨e, -, rfl⟩ | ⟨e, -, rfl⟩) | ⟨e, -, rfl⟩ <;> simp

@[simp] theorem ownPart_within_zero (n : Nat) (first second : List (WorldEvent BuiltAdapter)) :
    ownPart 0 (within n first second) = first := by
  rw [within, Traced.ownPart_append, Traced.ownPart_append, Traced.ownPart_tagged,
    Traced.ownPart_tagged_ne Nat.one_ne_zero, Traced.ownPart_tagged, List.append_nil,
    List.take_append_drop]

@[simp] theorem ownPart_within_one (n : Nat) (first second : List (WorldEvent BuiltAdapter)) :
    ownPart 1 (within n first second) = second := by
  rw [within, Traced.ownPart_append, Traced.ownPart_append, Traced.ownPart_tagged,
    Traced.ownPart_tagged_ne Nat.zero_ne_one, Traced.ownPart_tagged_ne Nat.zero_ne_one,
    List.nil_append, List.append_nil]

/-- The log of a run for the request, alone. -/
def alone (requestId : RequestId) : List (WorldEvent BuiltAdapter) :=
  ((execution (oneStepRun requestId) .wholeRoute).run exportsMachine none []).2

/-- The second run comes between the call of the first and its step. -/
def byTurns : List (Nat × WorldEvent BuiltAdapter) :=
  within 1 (alone (id .request 5)) (alone (id .request 9))

/-- The answers of this machine do not tell what has been done. -/
theorem process_alone (execution : Execution)
    (view : List (WorldEvent BuiltAdapter) → List (WorldEvent BuiltAdapter)) :
    execution.process exportsMachine none view = execution.run exportsMachine none := rfl

theorem byTurns_interleaved : Execution.Interleaved exportsMachine none twoRequests [] byTurns := by
  refine ⟨fun entry hm => within_known hm, ?_⟩
  intro i process hi
  rcases i with _ | _ | i
  · rw [← Option.some.inj hi, byTurns, ownPart_within_zero, process_alone, alone]
  · rw [← Option.some.inj hi, byTurns, ownPart_within_one, process_alone, alone]
  · simp [twoRequests] at hi

/-- Two requests whose runs draw different event identifiers. -/
def sharedFirst : Execution := execution (oneStepRun (id .request 5)) .wholeRoute

def sharedSecond : Execution :=
  execution { oneStepRun (id .request 9) with
    freshEventId := fun index => ⟨uuid (UInt8.ofNat (index + 7))⟩ } .wholeRoute

def sharing : List Execution := [sharedFirst, sharedSecond]

/-- The records of one of them alone. -/
def recordsOf (execution : Execution) : List ForensicEvent :=
  eventsOf (execution.run exportsMachine none []).1

/-- The store of both. -/
def sharedStore : SqliteForensicStore BuiltAdapter := storeAmong (sharing.flatMap recordsOf)

/-- The log of one of them alone with the store. -/
def storedAlone (execution : Execution) : List (WorldEvent BuiltAdapter) :=
  (execution.run exportsMachine (some sharedStore.adapter) []).2

/-- The second run comes behind the first record of the first. -/
def sharedByTurns : List (Nat × WorldEvent BuiltAdapter) :=
  within 3 (storedAlone sharedFirst) (storedAlone sharedSecond)

theorem sharedByTurns_interleaved :
    Execution.Interleaved exportsMachine (some sharedStore.adapter) sharing [] sharedByTurns := by
  refine ⟨fun entry hm => within_known hm, ?_⟩
  intro i process hi
  rcases i with _ | _ | i
  · rw [← Option.some.inj hi, sharedByTurns, ownPart_within_zero]
    decide +kernel
  · rw [← Option.some.inj hi, sharedByTurns, ownPart_within_one]
    decide +kernel
  · simp [sharing] at hi

theorem sharedByTurns_exported : exportedOf (erased sharedByTurns) =
    (recordsOf sharedFirst).take 1 ++ recordsOf sharedSecond ++ (recordsOf sharedFirst).drop 1 := by
  decide +kernel

theorem sharedByTurns_parsed {event : ForensicEvent}
    (h : event ∈ exportedOf (erased sharedByTurns)) :
    parseAmong (sharing.flatMap recordsOf) (event.jsonText timeTexts.toDateTimes) =
      some (event.toValue timeTexts.toDateTimes) := by
  apply parseAmong_text
  rw [sharedByTurns_exported, List.mem_append, List.mem_append] at h
  rw [sharing, List.flatMap_cons, List.flatMap_singleton, List.mem_append]
  rcases h with (h | h) | h
  · exact .inl (List.mem_of_mem_take h)
  · exact .inr h
  · exact .inl (List.mem_of_mem_drop h)

/-- A disk whose only sink is the database of the store. -/
def storeDisk : LocalDisk where
  place := fun path => path
  failedWrite := fun _ _ _ before => before
  sinkFiles := ["exports/events.db"]
  exported := fun _ event _ before => some (before.getD "" ++ event.summary ++ "\n")

end Fixture

namespace Execution

open Fixture (exportsMachine twoRequests byTurns byTurns_interleaved sharing sharedFirst
  sharedSecond sharedStore recordsOf sharedByTurns sharedByTurns_interleaved secondReceipt storeDisk)

theorem interleaved_files_byTurns : ∃ request,
    Attempt exportsMachine storeDisk sharing [] ([] ++ erased sharedByTurns) secondReceipt request
      (.ok ()) ∧
    storeDisk.contentsAfter exportsMachine.toLocalFileSystem ([] ++ erased sharedByTurns)
      secondReceipt = some (receiptContents request) := by
  have hkept := interleaved_files sharedByTurns_interleaved storeDisk secondReceipt
    (by decide +kernel)
  refine (hkept.receipt fun _ _ _ _ => rfl).resolve_left ?_
  decide +kernel

theorem interleaved_receipts_byTurns : (receipts (erased byTurns)).length = 2 ∧
    ∀ receipt ∈ receipts (erased byTurns),
      exportsMachine.filesAfter ([] ++ erased byTurns) (receiptPath receipt) =
        some (receiptContents receipt.2) ∧
      ∀ disk : LocalDisk, disk.Plain (receiptPath receipt) →
        disk.contentsAfter exportsMachine.toLocalFileSystem ([] ++ erased byTurns)
          (receiptPath receipt) = some (receiptContents receipt.2) := by
  have htwo : (receipts (erased byTurns)).length = 2 := by decide +kernel
  have hwhole : ∀ execution ∈ twoRequests, execution.dispatchMode = .wholeRoute :=
    List.forall_mem_cons.mpr ⟨rfl, List.forall_mem_singleton.mpr rfl⟩
  exact ⟨htwo, interleaved_receipts_kept byTurns_interleaved hwhole (by decide)⟩

/-- The records of the second run stand behind the first one of the first, and the store answers
with all of them. -/
theorem interleaved_answered_byTurns :
    sharedStore.Returns ([] ++ erased sharedByTurns) ([] ++ exportedOf (erased sharedByTurns)) ∧
      (∀ (i : Nat) (execution : Execution) (outcome : ExecutionPipelineOutcome),
        sharing[i]? = some execution →
        (execution.process exportsMachine (some sharedStore.adapter) (seen [] sharedByTurns i) []).1 =
          .ok outcome →
        (recordedEvents outcome.forensicRecords).Sublist (exportedOf (erased sharedByTurns))) ∧
      exportedOf (erased sharedByTurns) =
        (recordsOf sharedFirst).take 1 ++ recordsOf sharedSecond ++
          (recordsOf sharedFirst).drop 1 := by
  have hyears : ∀ execution ∈ sharing, FourDigitYear execution.context.decidedAtUtc :=
    List.forall_mem_cons.mpr ⟨by decide, List.forall_mem_singleton.mpr (by decide)⟩
  have hnew : sharedStore.Holds [] [] := SqliteForensicStore.Opened.holds ⟨rfl, .nil⟩
  obtain ⟨hreturns, -, hrecorded⟩ := interleaved_answered (Fixture.storeAmong_uses _) hnew
    (fun _ hm => by cases hm) sharedByTurns_interleaved hyears
    fun event hm => Fixture.sharedByTurns_parsed hm
  exact ⟨hreturns, hrecorded, Fixture.sharedByTurns_exported⟩

end Execution

end FaLocal
