import FaLocal.FileContents
import FaLocal.MachineRun

/-!
# Sessions

A session is a sequence of runs on one machine, each with its own inputs, clock and
adapters. A run that fails does not undo what it has done, and the next one starts
behind it. What holds of the log is what the gates let pass, and every file that no
such call writes to is left alone, but for the files that a sink keeps itself.
-/
namespace FaLocal

open Traced (Follow follow_append)
open WorldEvent (Answers calls)
open ExecutionPipelineService
open LocalFileSystem (receipts receiptPath receipts_append filesAfter_append mem_receipts)
open LocalFileWriteDeliveryAdapter (deliverRoute_writeAnswer receiptContents receiptName
  receiptPathFor refusalMarkerPath writeAnswer_eq_ok)

/-- One call of the `execute` command. -/
structure Execution where
  env : RunEnvironment
  inputs : ExecutionPipelineInputs
  adapterSelection : Option AdapterSelection
  additionalAdapters : List CapabilityScopedAdapterSelection
  dispatchMode : DispatchMode
  context : RouteResolutionContext

namespace Execution

variable (machine : LocalMachine) (exportAdapter : Option (ForensicEventExportAdapter BuiltAdapter))

def run (execution : Execution) : Coordinated BuiltAdapter ExecutionPipelineOutcome :=
  ExecutionPipelineService.run (machine.environment execution.env) execution.inputs
    execution.adapterSelection execution.additionalAdapters execution.dispatchMode exportAdapter
    execution.context

/-- The log of a session. -/
def session (executions : List Execution) (log : List (WorldEvent BuiltAdapter)) :
    List (WorldEvent BuiltAdapter) :=
  executions.foldl (fun log execution => (execution.run machine exportAdapter log).2) log

/-- The call was made behind the gates of the execution, and for its decision and plan. -/
structure Gated (execution : Execution) (adapter : BuiltAdapter) (request : AdapterDeliveryRequest) :
    Prop where
  gate : ∃ d typedRequest plan capabilities v,
    CallGate (machine.environment execution.env) execution.inputs execution.adapterSelection
      execution.additionalAdapters execution.context d typedRequest plan capabilities ∧
    acceptedPlan (machine.environment execution.env) execution.inputs = some v ∧
    RequestCarries d v request
  selected : ∃ typedRequest,
    execution.env.loaders.executionRequest execution.inputs.request = .ok typedRequest ∧
    ∃ entry ∈ registeredAdapters execution.adapterSelection execution.additionalAdapters
      typedRequest.requestedCapabilityId, entry.selection = adapter.selection
  supported : adapter.supportedCapabilityId = request.requestedCapabilityId

/-- Which entry may come next in a session. -/
def May (executions : List Execution) (log : List (WorldEvent BuiltAdapter)) :
    WorldEvent BuiltAdapter → Prop
  | .inProgress _ => True
  | .called adapter request result => result = machine.deliverRoute log adapter request ∧
      ∃ execution ∈ executions, Gated machine execution adapter request
  | .exported event result => ∃ adapter, exportAdapter = some adapter ∧
      result = adapter.exportEvent log event

variable {executions : List Execution}

/-- Every call of an execution is gated. -/
theorem run_gated (execution : Execution) (log : List (WorldEvent BuiltAdapter)) :
    ∃ events, (execution.run machine exportAdapter log).2 = log ++ events ∧
      ∀ call ∈ calls events, Gated machine execution call.1 call.2.1 := by
  obtain ⟨events, hreached, he⟩ := run_calls (machine.environment execution.env) execution.inputs
    execution.adapterSelection execution.additionalAdapters execution.dispatchMode exportAdapter
    execution.context log
  refine ⟨events, he, fun call hc => ?_⟩
  obtain ⟨d, prepared, hr, haddressed⟩ := hreached call hc
  obtain ⟨typedRequest, plan, capabilities, hfrom, hgate⟩ := hr.gate
  have hcapability : d.capabilityDecisionSummary.requestedCapabilityId =
      typedRequest.requestedCapabilityId := by
    obtain ⟨request, _, -, hload, hres⟩ := DecisionService.resolveRouteDecision_eq_ok hr.decided
    obtain ⟨hstamp, -⟩ := ApprovalPostureResolver.resolve_spec hres
    cases hload.symm.trans hgate.intake
    exact hstamp.capability
  have hresolved : prepared.registry.resolve call.2.1.requestedCapabilityId = some call.1 := by
    cases hmode : execution.dispatchMode with
    | wholeRoute =>
      rw [hmode] at haddressed
      obtain ⟨hresolve, link, -, hrequest⟩ := haddressed
      rw [hrequest]
      exact hresolve
    | perStep =>
      rw [hmode] at haddressed
      obtain ⟨step, -, hresolve, hrequest⟩ := haddressed
      rw [hrequest]
      exact hresolve
  refine ⟨⟨d, typedRequest, plan, capabilities, _, hgate, hfrom.acceptedPlan_eq,
    haddressed.carries hfrom⟩, ⟨typedRequest, hgate.intake, ?_⟩,
    buildRegistry_supported hfrom.adapters hresolved⟩
  obtain ⟨entry, hentry, he⟩ := buildRegistry_selection hfrom.adapters hresolved
  rw [hcapability] at hentry
  exact ⟨entry, hentry, he⟩

theorem run_may {execution : Execution} (hm : execution ∈ executions)
    (log : List (WorldEvent BuiltAdapter)) :
    ∃ events, (execution.run machine exportAdapter log).2 = log ++ events ∧
      Follow (May machine exportAdapter executions) log events := by
  obtain ⟨events, hfollow, he⟩ := run_answers (machine.environment execution.env) execution.inputs
    execution.adapterSelection execution.additionalAdapters execution.dispatchMode exportAdapter
    execution.context log
  obtain ⟨events', he', hgated⟩ := run_gated machine exportAdapter execution log
  obtain rfl : events = events' := List.append_cancel_left (he.symm.trans he')
  refine ⟨events, he, (hfollow.and_mem (P := fun event => ∀ call ∈ calls [event],
    Gated machine execution call.1 call.2.1) fun event hevent call hc => ?_).mono ?_⟩
  · obtain ⟨pre, post, rfl⟩ := List.append_of_mem hevent
    refine hgated call ?_
    rw [List.append_cons, WorldEvent.calls_append, WorldEvent.calls_append]
    exact List.mem_append_left _ (List.mem_append_right _ hc)
  · rintro log event ⟨hanswers, hcalls⟩
    cases event with
    | inProgress stepId => trivial
    | called adapter request result =>
      exact ⟨hanswers, execution, hm, hcalls (adapter, request, result) (List.mem_singleton.mpr rfl)⟩
    | exported event result => exact hanswers

/-- A session appends only what may come. -/
theorem session_may (executions : List Execution) (log : List (WorldEvent BuiltAdapter)) :
    ∃ events, session machine exportAdapter executions log = log ++ events ∧
      Follow (May machine exportAdapter executions) log events := by
  suffices hsub : ∀ rest : List Execution, (∀ execution ∈ rest, execution ∈ executions) → ∀ log,
      ∃ events, session machine exportAdapter rest log = log ++ events ∧
        Follow (May machine exportAdapter executions) log events from
    hsub executions (fun _ h => h) log
  intro rest
  induction rest with
  | nil => exact fun _ log => ⟨[], (List.append_nil log).symm, trivial⟩
  | cons execution rest ih =>
    intro hmem log
    obtain ⟨hm, hrest⟩ := List.forall_mem_cons.mp hmem
    obtain ⟨events, he, hfollow⟩ := run_may machine exportAdapter hm log
    obtain ⟨events', he', hfollow'⟩ := ih hrest (log ++ events)
    refine ⟨events ++ events', ?_, follow_append.mpr ⟨hfollow, hfollow'⟩⟩
    rw [session, List.foldl_cons, he]
    exact he'.trans (List.append_assoc _ _ _)

/-! ## Files -/

/-- A gated call behind the log has written to the file, or has tried to: it found its root a
directory without a refusal marker, and its write was answered. -/
structure Attempt (machine : LocalMachine) (disk : LocalDisk) (executions : List Execution)
    (log out : List (WorldEvent BuiltAdapter)) (file : String) (request : AdapterDeliveryRequest)
    (answer : Except WriteError Unit) : Prop where
  call : ∃ pre deliveryRoot capabilityId result post,
    out = (log ++ pre) ++
      .called ⟨.localFileWrite deliveryRoot, capabilityId⟩ request result :: post ∧
    file = disk.place (receiptPathFor deliveryRoot request.requestId request.stablePlanHash) ∧
    machine.isDir (log ++ pre) deliveryRoot = true ∧
    machine.pathExists (log ++ pre) (refusalMarkerPath deliveryRoot) = false ∧
    machine.write (log ++ pre)
      (receiptPathFor deliveryRoot request.requestId request.stablePlanHash)
      (receiptContents request) = answer ∧
    ∃ execution ∈ executions,
      Gated machine execution ⟨.localFileWrite deliveryRoot, capabilityId⟩ request

/-- A file between a log and one behind it: where it is not as it was, such a call has tried to
write to it, and if writes are atomic, it is the receipt of one. -/
structure FileKept (machine : LocalMachine) (disk : LocalDisk) (executions : List Execution)
    (log out : List (WorldEvent BuiltAdapter)) (file : String) : Prop where
  changed : disk.contentsAfter machine.toLocalFileSystem out file ≠
      disk.contentsAfter machine.toLocalFileSystem log file →
    ∃ request answer, Attempt machine disk executions log out file request answer
  receipt : disk.AtomicWrites →
    disk.contentsAfter machine.toLocalFileSystem out file =
        disk.contentsAfter machine.toLocalFileSystem log file ∨
      ∃ request, Attempt machine disk executions log out file request (.ok ()) ∧
        disk.contentsAfter machine.toLocalFileSystem out file = some (receiptContents request)

variable {machine exportAdapter} {disk : LocalDisk} {log : List (WorldEvent BuiltAdapter)}
  {file : String}

theorem Attempt.append {out : List (WorldEvent BuiltAdapter)} {request : AdapterDeliveryRequest}
    {answer : Except WriteError Unit}
    (h : Attempt machine disk executions log out file request answer)
    (event : WorldEvent BuiltAdapter) :
    Attempt machine disk executions log (out ++ [event]) file request answer where
  call := by
    obtain ⟨pre, deliveryRoot, capabilityId, result, post, rfl, hcall⟩ := h.call
    refine ⟨pre, deliveryRoot, capabilityId, result, post ++ [event], ?_, hcall⟩
    rw [List.append_assoc (log ++ pre), List.cons_append]

/-- An entry that may come and that leaves a file alone. -/
theorem FileKept.unchanged {out : List (WorldEvent BuiltAdapter)} {event : WorldEvent BuiltAdapter}
    (h : FileKept machine disk executions log out file)
    (hsame : disk.contentsAfter machine.toLocalFileSystem (out ++ [event]) file =
      disk.contentsAfter machine.toLocalFileSystem out file) :
    FileKept machine disk executions log (out ++ [event]) file where
  changed := by
    intro hchanged
    rw [hsame] at hchanged
    obtain ⟨request, answer, hattempt⟩ := h.changed hchanged
    exact ⟨request, answer, hattempt.append event⟩
  receipt := by
    intro hatomic
    rw [hsame]
    rcases h.receipt hatomic with hold | ⟨request, hattempt, hfile⟩
    · exact .inl hold
    · exact .inr ⟨request, hattempt.append event, hfile⟩

/-- An entry that may come changes no file but that of its own receipt. -/
theorem FileKept.append {behind : List (WorldEvent BuiltAdapter)}
    {event : WorldEvent BuiltAdapter} (hsink : file ∉ disk.sinkFiles)
    (h : FileKept machine disk executions log (log ++ behind) file)
    (hmay : May machine exportAdapter executions (log ++ behind) event) :
    FileKept machine disk executions log (log ++ behind ++ [event]) file := by
  rcases LocalDisk.contentsStep_cases hsink (log ++ behind) event
      (disk.contentsAfter machine.toLocalFileSystem (log ++ behind)) with
    hsame | ⟨deliveryRoot, capabilityId, request, result, answer, rfl, hfile, hanswer, hcontents⟩
  · exact h.unchanged (by rw [LocalDisk.contentsAfter_snoc, hsame])
  · rw [← LocalDisk.contentsAfter_snoc] at hcontents
    obtain ⟨hresult, hgated⟩ := hmay
    obtain ⟨-, hdir, hmarker, hwrite⟩ := deliverRoute_writeAnswer (hresult ▸ hanswer)
    have hattempt : Attempt machine disk executions log (log ++ behind ++
        [.called ⟨.localFileWrite deliveryRoot, capabilityId⟩ request result]) file request
        answer :=
      ⟨behind, deliveryRoot, capabilityId, result, [], rfl, hfile, hdir, hmarker, hwrite, hgated⟩
    cases answer with
    | ok _ => exact ⟨fun _ => ⟨request, _, hattempt⟩, fun _ => .inr ⟨request, hattempt, hcontents⟩⟩
    | error e =>
      refine ⟨fun _ => ⟨request, _, hattempt⟩, fun hatomic => ?_⟩
      -- the write has left what stood there, which is as it was or an earlier receipt
      exact (h.unchanged (hcontents.trans (hatomic _ _ _ _))).receipt hatomic

/-- Entries that may come keep every file that no sink keeps. -/
theorem fileKept_of_follow {events : List (WorldEvent BuiltAdapter)}
    (hfollow : Follow (May machine exportAdapter executions) log events)
    (hsink : file ∉ disk.sinkFiles) :
    FileKept machine disk executions log (log ++ events) file := by
  have hinv : log <+: log ++ events ∧
      FileKept machine disk executions log (log ++ events) file := by
    refine hfollow.invariant (I := fun out => log <+: out ∧
      FileKept machine disk executions log out file) ?_ ?_
    · rintro out event ⟨⟨behind, rfl⟩, hkept⟩ hmay
      exact ⟨(List.prefix_append log behind).trans (List.prefix_append _ _),
        hkept.append hsink hmay⟩
    · exact ⟨List.prefix_rfl, fun h => absurd rfl h, fun _ => .inl rfl⟩
  exact hinv.2

/-- Over a session, a file that no sink keeps is as it was, unless a call that was made behind
the gates of one of its runs has tried to write to it, under a root that was a directory without
a refusal marker when the call was made; and where writes are atomic, it is as it was or the
receipt of such a call. -/
theorem session_files (machine : LocalMachine) (disk : LocalDisk)
    (exportAdapter : Option (ForensicEventExportAdapter BuiltAdapter))
    (executions : List Execution) (log : List (WorldEvent BuiltAdapter)) (file : String)
    (hsink : file ∉ disk.sinkFiles) :
    FileKept machine disk executions log (session machine exportAdapter executions log) file := by
  obtain ⟨events, he, hfollow⟩ := session_may machine exportAdapter executions log
  rw [he]
  exact fileKept_of_follow hfollow hsink

/-! ## Receipts of whole routes -/

end Execution

namespace LocalFileWriteDeliveryAdapter

theorem join_toList (root name : String) : ∃ dir, (join root name).toList = dir ++ name.toList ∧
    (dir = [] ∨ ∃ pre, dir = pre ++ ['/']) := by
  rw [join]
  split
  · rename_i h
    refine ⟨root.toList, by simp, ?_⟩
    rw [Bool.or_eq_true] at h
    rcases h with h | h
    · exact .inl (by simpa using h)
    · obtain ⟨pre, hpre⟩ := String.Slice.endsWith_string_iff.mp h
      exact .inr ⟨pre, by simpa using hpre.symm⟩
  · exact ⟨root.toList ++ ['/'], by simp, .inr ⟨_, rfl⟩⟩

/-- A joined path tells the name, whatever its root is. -/
theorem join_name_inj {root root' name name' : String} (h : '/' ∉ name.toList)
    (h' : '/' ∉ name'.toList) (he : join root name = join root' name') : name = name' := by
  -- the name is what stands behind the last separator
  have hlast : ∀ {root name : String}, '/' ∉ name.toList →
      (join root name).toList.reverse.takeWhile (· != '/') = name.toList.reverse := by
    intro root name hn
    have hall : ∀ c ∈ name.toList.reverse, (c != '/') = true := by
      intro c hc
      rw [bne_iff_ne]
      rintro rfl
      exact hn (List.mem_reverse.mp hc)
    obtain ⟨dir, hjoin, rfl | ⟨pre, rfl⟩⟩ := join_toList root name
    · rw [hjoin, List.nil_append, List.takeWhile_eq_self_iff.mpr hall]
    · rw [hjoin, List.reverse_append, List.takeWhile_append_of_pos hall]
      simp
  exact String.toList_injective (List.reverse_injective ((hlast h).symm.trans (he ▸ hlast h')))

theorem receiptName_slashless (requestId : RequestId) {stablePlanHash : String}
    (h : isValidHash stablePlanHash = true) :
    '/' ∉ (receiptName requestId stablePlanHash).toList := by
  have hid : '/' ∉ requestId.display.toList := by
    intro hm
    rw [UuidId.display, String.toList_ofList] at hm
    exact absurd (mem_hyphenated hm) (by decide)
  have hhash : '/' ∉ stablePlanHash.toList.take 12 := by
    intro hm
    rw [isValidHash, Bool.and_eq_true] at h
    exact absurd (List.all_eq_true.mp h.2 _ (List.mem_of_mem_take hm)) (by decide)
  have hname : ∀ {text : String} {digits : List Char}, '/' ∉ text.toList → '/' ∉ digits → '/' ∉
      ("fa_local_delivery_" ++ text ++ "_" ++ String.ofList digits ++ ".receipt").toList :=
    fun ht hd => by simp [ht, hd]
  exact hname hid hhash

theorem receiptName_inj {requestId requestId' : RequestId} {hash hash' : String}
    (h : receiptName requestId hash = receiptName requestId' hash') : requestId = requestId' := by
  unfold receiptName at h
  simp only [String.append_assoc] at h
  have hchars := congrArg String.toList ((String.append_right_inj _).mp h)
  simp only [String.toList_append] at hchars
  refine UuidId.display_inj (String.toList_injective (List.append_inj hchars ?_).1)
  simp [UuidId.display, hyphenated_length]

/-- Receipts of different requests have different paths, under whatever roots. -/
theorem receiptPathFor_inj {root root' : String} {requestId requestId' : RequestId}
    {hash hash' : String} (h : isValidHash hash = true) (h' : isValidHash hash' = true)
    (he : receiptPathFor root requestId hash = receiptPathFor root' requestId' hash') :
    requestId = requestId' :=
  receiptName_inj (join_name_inj (receiptName_slashless requestId h)
    (receiptName_slashless requestId' h') he)

end LocalFileWriteDeliveryAdapter

namespace Execution

variable (machine : LocalMachine)
  (exportAdapter : Option (ForensicEventExportAdapter BuiltAdapter)) {executions : List Execution}

/-- The request of an execution, if it is one. -/
def requestIdOf (execution : Execution) : Option RequestId :=
  (execution.env.loaders.executionRequest execution.inputs.request).toOption.map (·.requestId)

/-- The hash of an accepted plan is the one that the digest computes. -/
theorem acceptedPlan_hash {env : RunEnvironment} {inputs : ExecutionPipelineInputs}
    {v : ValidatedExecutionPlan} (h : acceptedPlan env inputs = some v) :
    isValidHash v.stablePlanHash = true := by
  simp only [acceptedPlan] at h
  split at h
  · cases h
  · split at h
    · rename_i plan capabilities _ _
      cases hv : ExecutionPlanValidator.validate env.digest env.planClock plan capabilities with
      | error denial =>
        rw [hv] at h
        cases h
      | ok accepted =>
        rw [hv] at h
        obtain rfl : accepted = v := Option.some.inj h
        obtain ⟨-, rfl⟩ := ExecutionPlanValidator.validate_eq_ok.mp hv
        exact env.digest.wellFormed _
    · cases h

variable {machine} in
theorem Gated.request {execution : Execution} {adapter : BuiltAdapter}
    {request : AdapterDeliveryRequest} (h : Gated machine execution adapter request) :
    execution.requestIdOf = some request.requestId ∧ isValidHash request.stablePlanHash = true := by
  obtain ⟨d, typedRequest, plan, capabilities, v, hgate, haccepted, hcarries⟩ := h.gate
  constructor
  · obtain ⟨loaded, _, -, hload, hres⟩ := DecisionService.resolveRouteDecision_eq_ok hgate.decided
    obtain ⟨hstamp, -⟩ := ApprovalPostureResolver.resolve_spec hres
    have hload' : execution.env.loaders.executionRequest execution.inputs.request = .ok loaded :=
      hload
    rw [requestIdOf, hload', hcarries.requestId, hstamp.requestId]
    rfl
  · rw [hcarries.planHash]
    exact acceptedPlan_hash haccepted

/-- Receipts come from gated calls, so each names a request of the session. -/
def FromRequests (executions : List Execution) (events : List (WorldEvent BuiltAdapter)) : Prop :=
  ∀ receipt ∈ receipts events, isValidHash receipt.2.stablePlanHash = true ∧
    receipt.2.requestId ∈ executions.filterMap requestIdOf

/-- A whole-route run writes at most one receipt. -/
theorem run_receipts_wholeRoute {execution : Execution} (hmode : execution.dispatchMode = .wholeRoute)
    (log : List (WorldEvent BuiltAdapter)) :
    ∃ events, (execution.run machine exportAdapter log).2 = log ++ events ∧
      (receipts events).length ≤ 1 ∧ FromRequests [execution] events := by
  obtain ⟨events, he, hgated⟩ := run_gated machine exportAdapter execution log
  refine ⟨events, he, ?_, fun receipt hm => ?_⟩
  · obtain ⟨env, inputs, adapterSelection, additionalAdapters, mode, context⟩ := execution
    obtain rfl : mode = .wholeRoute := hmode
    refine (List.length_filterMap_le _ _).trans ?_
    by_cases hnil : calls events = []
    · simp [hnil]
    obtain ⟨events', hreached, he'⟩ := run_calls (machine.environment env) inputs adapterSelection
      additionalAdapters .wholeRoute exportAdapter context log
    obtain rfl : events = events' := List.append_cancel_left (he.symm.trans he')
    obtain ⟨call, hc⟩ := List.exists_mem_of_ne_nil _ hnil
    obtain ⟨d, prepared, hr, -⟩ := hreached call hc
    obtain ⟨delivered, hone, hdelivered⟩ := ExecutionService.deliverSelectedRoute_oneCall
      (machine.environment env).world prepared.selectedRoute prepared.registry
      (coordinationContext context) log
    have hcalls : calls (log ++ events) = calls (log ++ delivered) := by
      rw [← he', hr.calls_eq exportAdapter log, ← hdelivered]
      rfl
    rw [WorldEvent.calls_append, WorldEvent.calls_append, List.append_cancel_left_eq] at hcalls
    rw [hcalls]
    rcases hone with hnone | ⟨adapter, link, result, -, -, hsingle⟩
    · simp [hnone]
    · simp [hsingle]
  · obtain ⟨call, hc, -, hd⟩ := mem_receipts.mp hm
    obtain ⟨hid, hhash⟩ := (hgated call hc).request
    have hrequest : call.2.1 = receipt.2 := congrArg Prod.fst hd
    rw [hrequest] at hid hhash
    exact ⟨hhash, by simp [hid]⟩

/-- Receipts of different requests are written to different paths. -/
theorem session_paths_nodup (hwhole : ∀ execution ∈ executions, execution.dispatchMode = .wholeRoute)
    (hids : (executions.filterMap requestIdOf).Nodup) (log : List (WorldEvent BuiltAdapter)) :
    ∃ events, session machine exportAdapter executions log = log ++ events ∧
      ((receipts events).map receiptPath).Nodup ∧ FromRequests executions events := by
  induction executions generalizing log with
  | nil => exact ⟨[], (List.append_nil log).symm, .nil, by rintro receipt ⟨⟩⟩
  | cons execution rest ih =>
    obtain ⟨hmode, hrest⟩ := List.forall_mem_cons.mp hwhole
    obtain ⟨events, he, hone, hfrom⟩ := run_receipts_wholeRoute machine
      exportAdapter hmode log
    have hids' : (rest.filterMap requestIdOf).Nodup :=
      hids.sublist ((List.sublist_cons_self _ _).filterMap _)
    obtain ⟨events', he', hnodup, hfrom'⟩ := ih hrest hids' (log ++ events)
    refine ⟨events ++ events', ?_, ?_, ?_⟩
    · rw [session, List.foldl_cons, he]
      exact he'.trans (List.append_assoc _ _ _)
    · rw [receipts_append, List.map_append]
      have hnodup₁ : ((receipts events).map receiptPath).Nodup := by
        rcases hr : receipts events with _ | ⟨receipt, _ | ⟨receipt', tail⟩⟩
        · exact .nil
        · exact List.nodup_singleton _
        · simp [hr] at hone
      refine hnodup₁.append hnodup fun path hp hp' => ?_
      obtain ⟨receipt, hm, rfl⟩ := List.mem_map.mp hp
      obtain ⟨receipt', hm', hsame⟩ := List.mem_map.mp hp'
      obtain ⟨hhash, hid⟩ := hfrom receipt hm
      obtain ⟨hhash', hid'⟩ := hfrom' receipt' hm'
      rw [LocalFileWriteDeliveryAdapter.receiptPathFor_inj hhash' hhash hsame] at hid'
      cases hrequest : execution.requestIdOf with
      | none => simp [hrequest] at hid
      | some requestId =>
        rw [List.filterMap_cons_some hrequest] at hids
        have hown : receipt.2.requestId = requestId := by simpa [hrequest] using hid
        exact (List.nodup_cons.mp hids).1 (hown ▸ hid')
    · have hsub : ∀ {part : List Execution} {entries : List (WorldEvent BuiltAdapter)},
          FromRequests part entries → part.Sublist (execution :: rest) →
          FromRequests (execution :: rest) entries := fun h hs receipt hm =>
        ⟨(h receipt hm).1, (hs.filterMap _).subset (h receipt hm).2⟩
      intro receipt hm
      rw [receipts_append, List.mem_append] at hm
      rcases hm with hm | hm
      · exact hsub hfrom (by simp) receipt hm
      · exact hsub hfrom' (List.sublist_cons_self _ _) receipt hm

/-- A session of whole routes for different requests loses no receipt. On a disk whose writes are
atomic, and where no sink keeps the file of a receipt, they are what stands in the files. -/
theorem session_receipts_kept (machine : LocalMachine)
    (exportAdapter : Option (ForensicEventExportAdapter BuiltAdapter))
    (executions : List Execution) (log : List (WorldEvent BuiltAdapter))
    (hwhole : ∀ execution ∈ executions, execution.dispatchMode = .wholeRoute)
    (hids : (executions.filterMap requestIdOf).Nodup) :
    ∃ events, session machine exportAdapter executions log = log ++ events ∧
      ∀ receipt ∈ receipts events,
        machine.filesAfter (log ++ events) (receiptPath receipt) =
          some (receiptContents receipt.2) ∧
        ∀ disk : LocalDisk, disk.Plain (receiptPath receipt) →
          disk.contentsAfter machine.toLocalFileSystem (log ++ events) (receiptPath receipt) =
            some (receiptContents receipt.2) := by
  obtain ⟨events, he, hnodup, -⟩ := session_paths_nodup machine exportAdapter hwhole
    hids log
  refine ⟨events, he, fun receipt hm => ?_⟩
  have hkept : machine.filesAfter (log ++ events) (receiptPath receipt) =
      some (receiptContents receipt.2) := by
    rw [filesAfter_append]
    exact Overwrites.after_of_nodup hnodup hm
  exact ⟨hkept, fun disk hplain => (LocalDisk.contentsAfter_eq_filesAfter hplain _).trans hkept⟩

end Execution

/-! Two requests for one step, one after the other under one root. -/

namespace Fixture

def execution (env : RunEnvironment) (dispatchMode : DispatchMode) : Execution :=
  ⟨env, plannedInputs, some fileWrite, [], dispatchMode, context⟩

/-- A run of one step for the fixture request, renumbered. -/
def oneStepRun (requestId : RequestId) : RunEnvironment :=
  { twoStepRun capabilities with
    loaders := { loaders with
      executionRequest := fun _ => .ok { request with requestId := requestId }
      executionPlan := fun _ => .ok { planOf [step "step_a" 4] [] twoStepHash with
        originatingRequestId := requestId
        referencedCapabilities := [id .capability 4] } } }

def twoRequests : List Execution :=
  [execution (oneStepRun (id .request 5)) .wholeRoute,
    execution (oneStepRun (id .request 9)) .wholeRoute]

/-- The receipt of the second one. -/
def secondReceipt : String := receiptPathFor "exports" (id .request 9) twoStepHash

def lineSink : ForensicEventExportAdapter BuiltAdapter :=
  ⟨"lines", fun _ _ => .exported "exports/events.jsonl"⟩

/-- A disk whose only sink is a file of lines. -/
def sinkDisk : LocalDisk where
  place := fun path => path
  failedWrite := fun _ _ _ before => before
  sinkFiles := ["exports/events.jsonl"]
  exported := fun _ event _ before => some (before.getD "" ++ event.summary ++ "\n")

/-- A disk on which a write that fails empties its file, and a machine that finds it full. -/
def tornDisk : LocalDisk := { sinkDisk with failedWrite := fun _ _ _ _ => some "" }

def fullMachine : LocalMachine := { exportsMachine with write := fun _ _ _ => .error .other }

end Fixture

namespace Execution

open Fixture (twoRequests exportsMachine fullMachine lineSink sinkDisk tornDisk secondReceipt)

/-- The second request leaves its receipt; on a full disk it leaves an empty file. -/
theorem session_files_two_requests :
    (∃ request, Attempt exportsMachine sinkDisk twoRequests []
        (session exportsMachine (some lineSink) twoRequests []) secondReceipt request (.ok ()) ∧
      sinkDisk.contentsAfter exportsMachine.toLocalFileSystem
        (session exportsMachine (some lineSink) twoRequests []) secondReceipt =
        some (receiptContents request)) ∧
    tornDisk.contentsAfter fullMachine.toLocalFileSystem
        (session fullMachine (some lineSink) twoRequests []) secondReceipt = some "" ∧
      ∃ request, Attempt fullMachine tornDisk twoRequests []
        (session fullMachine (some lineSink) twoRequests []) secondReceipt request
        (.error .other) := by
  have hsink : secondReceipt ∉ sinkDisk.sinkFiles := by decide +kernel
  have hempty : tornDisk.contentsAfter fullMachine.toLocalFileSystem
      (session fullMachine (some lineSink) twoRequests []) secondReceipt = some "" := by
    decide +kernel
  refine ⟨?_, hempty, ?_⟩
  · have hkept := session_files exportsMachine sinkDisk (some lineSink) twoRequests []
      secondReceipt hsink
    refine (hkept.receipt fun _ _ _ _ => rfl).resolve_left ?_
    decide +kernel
  · have hkept := session_files fullMachine tornDisk (some lineSink) twoRequests []
      secondReceipt hsink
    obtain ⟨request, answer, hattempt⟩ := hkept.changed (by rw [hempty]; exact Option.some_ne_none _)
    obtain rfl : .error .other = answer := by
      obtain ⟨pre, root, capabilityId, result, post, -, -, -, -, hwrite, -⟩ := hattempt.call
      exact hwrite
    exact ⟨request, hattempt⟩

theorem session_receipts_two_requests : ∃ events,
    session exportsMachine none twoRequests [] = [] ++ events ∧ (receipts events).length = 2 ∧
    ∀ receipt ∈ receipts events,
      exportsMachine.filesAfter ([] ++ events) (receiptPath receipt) =
        some (receiptContents receipt.2) ∧
      ∀ disk : LocalDisk, disk.Plain (receiptPath receipt) →
        disk.contentsAfter exportsMachine.toLocalFileSystem ([] ++ events) (receiptPath receipt) =
          some (receiptContents receipt.2) := by
  have htwo : (receipts (session exportsMachine none twoRequests [])).length = 2 := by
    decide +kernel
  obtain ⟨events, he, hkept⟩ := session_receipts_kept exportsMachine none twoRequests []
    (List.forall_mem_cons.mpr ⟨rfl, List.forall_mem_singleton.mpr rfl⟩) (by decide)
  exact ⟨events, he, by rwa [he, List.nil_append] at htwo, hkept⟩

end Execution

end FaLocal
