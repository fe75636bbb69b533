import FaLocal.LocalFileWrite
import FaLocal.RunRecords

/-!
# The receipts of a per-step run

All requests of a run carry one request id and one plan hash, and that is all that
the path of a receipt is made of: under one delivery root, every delivered step of
a run writes over the receipt of the step before it.
-/
namespace FaLocal

open LocalFileWriteDeliveryAdapter (Names join receiptContents receiptName receiptPathFor names_own)
open LocalFileSystem (receipts receiptPath receipts_append filesAfter_append)
open WorldEvent (calls)

/-- Lists that share nothing are different, unless they are empty. -/
theorem nodup_map_of_flatMap {β γ : Type} {l : List β} {f : β → List γ}
    (h : (l.flatMap f).Nodup) (hne : ∀ b ∈ l, f b ≠ []) : (l.map f).Nodup := by
  obtain ⟨-, hdisjoint⟩ := List.nodup_flatMap.mp h
  refine List.pairwise_map.mpr (hdisjoint.imp_of_mem fun {a b} ha hb hd he => ?_)
  obtain ⟨x, hx⟩ := List.exists_mem_of_ne_nil _ (hne a ha)
  exact hd hx (he ▸ hx)

/-! ## Receipts of a history -/

namespace LocalFileSystem

variable {fs : LocalFileSystem} {log events : List (WorldEvent BuiltAdapter)}

theorem mem_receipts {deliveryRoot : String} {request : AdapterDeliveryRequest} :
    (deliveryRoot, request) ∈ receipts events ↔ ∃ call ∈ calls events,
      call.1.selection = .localFileWrite deliveryRoot ∧ call.2 = (request, .deliveredAllSteps) := by
  rw [receipts, List.mem_filterMap]
  refine exists_congr fun call => and_congr_right fun _ => ?_
  obtain ⟨⟨selection, capabilityId⟩, request', result⟩ := call
  cases selection <;> cases result <;> simp

/-- The receipts are about calls, in their order. -/
theorem receipts_sublist (events : List (WorldEvent BuiltAdapter)) :
    ((receipts events).map fun receipt => receipt.2.declaredStepIds).Sublist
      ((calls events).map fun call => call.2.1.declaredStepIds) := by
  rw [receipts]
  induction calls events with
  | nil => exact .slnil
  | cons call rest ih =>
    obtain ⟨⟨selection, capabilityId⟩, request, result⟩ := call
    cases selection with
    | nmapPreflight binary profile => exact ih.cons _
    | localFileWrite deliveryRoot =>
      cases result with
      | deliveredAllSteps => exact ih.cons_cons _
      | _ => exact ih.cons _

/-- Every delivered step has a receipt under the root of its adapter. -/
def Accounted (fs : LocalFileSystem) (log events : List (WorldEvent BuiltAdapter)) : Prop :=
  ∀ receipt ∈ receipts events, ∃ name contents,
    fs.filesAfter (log ++ events) (join receipt.1 name) = some contents ∧ Names contents receipt.2

/-- Whenever a receipt is written, its path holds no receipt of these events. -/
def Undisturbed (events : List (WorldEvent BuiltAdapter)) : Prop :=
  ∀ pre adapter request post deliveryRoot, adapter.selection = .localFileWrite deliveryRoot →
    events = pre ++ .called adapter request .deliveredAllSteps :: post →
    ∀ receipt ∈ receipts pre,
      receiptPath receipt ≠ receiptPathFor deliveryRoot request.requestId request.stablePlanHash

theorem receipts_delivered {adapter : BuiltAdapter} {deliveryRoot : String}
    (h : adapter.selection = .localFileWrite deliveryRoot) (request : AdapterDeliveryRequest) :
    receipts [.called adapter request .deliveredAllSteps] = [(deliveryRoot, request)] := by
  obtain ⟨selection, capabilityId⟩ := adapter
  cases h
  rfl

/-- An event leaves a receipt exactly if it is a delivery by a file-write adapter. -/
theorem receipts_single (event : WorldEvent BuiltAdapter) : receipts [event] = [] ∨
    ∃ adapter request deliveryRoot, event = .called adapter request .deliveredAllSteps ∧
      adapter.selection = .localFileWrite deliveryRoot ∧
      receipts [event] = [(deliveryRoot, request)] := by
  cases hr : receipts [event] with
  | nil => exact .inl rfl
  | cons receipt rest =>
    have hm : (receipt.1, receipt.2) ∈ receipts [event] := by simp [hr]
    obtain ⟨call, hc, hs, he⟩ := mem_receipts.mp hm
    cases event with
    | called adapter request result =>
      obtain rfl := List.mem_singleton.mp hc
      obtain ⟨rfl, rfl⟩ := Prod.mk.inj he
      refine .inr ⟨adapter, _, receipt.1, rfl, hs, ?_⟩
      rw [← hr, receipts_delivered hs]
    | inProgress stepId => cases hc
    | exported event result => cases hc

theorem undisturbed_iff_nodup : Undisturbed events ↔ ((receipts events).map receiptPath).Nodup := by
  constructor
  · intro h
    induction events using List.reverseRecOn with
    | nil => exact .nil
    | append_singleton events event ih =>
      have hbefore : ((receipts events).map receiptPath).Nodup := by
        refine ih fun pre adapter request post deliveryRoot hs he => ?_
        exact h pre adapter request (post ++ [event]) deliveryRoot hs (by simp [he])
      rw [receipts_append, List.map_append]
      rcases receipts_single event with hr | ⟨adapter, request, deliveryRoot, rfl, hs, hr⟩
      · rwa [hr, List.map_nil, List.append_nil]
      · rw [hr]
        refine hbefore.append (List.nodup_singleton _) fun p hp hp' => ?_
        obtain ⟨receipt, hreceipt, rfl⟩ := List.mem_map.mp hp
        exact h events adapter request [] deliveryRoot hs rfl receipt hreceipt
          (List.mem_singleton.mp hp')
  · intro h pre adapter request post deliveryRoot hs he receipt hr hp
    have hcons : events = pre ++ ([.called adapter request .deliveredAllSteps] ++ post) := he
    rw [hcons, receipts_append, receipts_append, receipts_delivered hs, List.map_append,
      List.nodup_append] at h
    exact h.2.2 _ (List.mem_map_of_mem hr) _ (List.mem_map_of_mem List.mem_cons_self) hp

/-- Receipts at different paths are all kept. -/
theorem accounted_of_undisturbed (h : Undisturbed events) : fs.Accounted log events := by
  intro receipt hr
  refine ⟨receiptName receipt.2.requestId receipt.2.stablePlanHash, receiptContents receipt.2, ?_,
    names_own receipt.2⟩
  rw [filesAfter_append]
  exact Overwrites.after_of_nodup (undisturbed_iff_nodup.mp h) hr

/-- No file tells of a delivery before it is made. -/
def Unreceipted (fs : LocalFileSystem) (log events : List (WorldEvent BuiltAdapter)) : Prop :=
  ∀ path contents, fs.filesAfter log path = some contents →
    ∀ receipt ∈ receipts events, ¬ Names contents receipt.2

/-- Deliveries of single steps of one plan, each at most once. -/
structure SingleSteps (events : List (WorldEvent BuiltAdapter)) : Prop where
  once : ((calls events).flatMap fun call => call.2.1.declaredStepIds).Nodup
  single : ∀ call ∈ calls events, ∃ stepId, call.2.1.declaredStepIds = [stepId]
  requestId : ∀ call ∈ calls events, ∀ call' ∈ calls events,
    call.2.1.requestId = call'.2.1.requestId
  planHash : ∀ call ∈ calls events, ∀ call' ∈ calls events,
    call.2.1.stablePlanHash = call'.2.1.stablePlanHash

theorem SingleSteps.nodup (h : SingleSteps events) :
    ((receipts events).map fun receipt => receipt.2.declaredStepIds).Nodup := by
  refine (nodup_map_of_flatMap h.once fun call hc hnil => ?_).sublist (receipts_sublist events)
  obtain ⟨stepId, hs⟩ := h.single call hc
  rw [hs] at hnil
  cases hnil

/-- If all of them are accounted for, no receipt was written over. -/
theorem SingleSteps.undisturbed (h : SingleSteps events) (hbefore : fs.Unreceipted log events)
    (hacc : fs.Accounted log events) : Undisturbed events := by
  have hcall : ∀ receipt ∈ receipts events, ∃ call ∈ calls events, call.2.1 = receipt.2 := by
    intro receipt hr
    obtain ⟨call, hc, -, he⟩ := mem_receipts.mp hr
    exact ⟨call, hc, congrArg Prod.fst he⟩
  have hown : ∀ receipt ∈ receipts events, ∀ receipt' ∈ receipts events,
      Names (receiptContents receipt'.2) receipt.2 → receipt' = receipt := by
    intro receipt hr receipt' hr' ht
    obtain ⟨call, hc, he⟩ := hcall receipt hr
    obtain ⟨call', hc', he'⟩ := hcall receipt' hr'
    obtain ⟨stepId, hs⟩ := h.single call hc
    obtain ⟨stepId', hs'⟩ := h.single call' hc'
    rw [he] at hs
    rw [he'] at hs'
    have hhash := h.planHash call' hc' call hc
    rw [he, he'] at hhash
    have hstep := ht.step hhash hs hs'
    refine List.inj_on_of_nodup_map h.nodup hr' hr ?_
    rw [hs, hs', hstep]
  have htold : ∀ receipt ∈ receipts events, ∃ path contents,
      Overwrites.after receiptPath (fun receipt => receiptContents receipt.2) (fs.filesAfter log)
        (receipts events) path = some contents ∧ Names contents receipt.2 := by
    intro receipt hr
    obtain ⟨name, contents, hf, hn⟩ := hacc receipt hr
    rw [filesAfter_append] at hf
    exact ⟨_, contents, hf, hn⟩
  exact undisturbed_iff_nodup.mpr
    (Overwrites.nodup_of_told (h.nodup.of_map _) hbefore hown htold)

/-- Under one root they have one path. -/
theorem SingleSteps.undisturbed_iff (h : SingleSteps events) {deliveryRoot : String}
    (hroot : ∀ receipt ∈ receipts events, receipt.1 = deliveryRoot) :
    Undisturbed events ↔ (receipts events).length ≤ 1 := by
  have hpath : ∀ receipt ∈ receipts events, ∀ receipt' ∈ receipts events,
      receiptPath receipt = receiptPath receipt' := by
    intro receipt hr receipt' hr'
    obtain ⟨call, hc, -, he⟩ := mem_receipts.mp hr
    obtain ⟨call', hc', -, he'⟩ := mem_receipts.mp hr'
    have hid := h.requestId call hc call' hc'
    have hhash := h.planHash call hc call' hc'
    rw [he, he'] at hid hhash
    rw [receiptPath, receiptPath, hroot receipt hr, hroot receipt' hr', hid, hhash]
  rw [undisturbed_iff_nodup]
  rcases hr : receipts events with _ | ⟨receipt, _ | ⟨receipt', rest⟩⟩
  · simp
  · simp
  · refine iff_of_false (fun hnodup => ?_) (by simp)
    have he := hpath receipt (by simp [hr]) receipt' (by simp [hr])
    simp [he] at hnodup

end LocalFileSystem

/-! ## Receipts of a run -/

namespace ExecutionPipelineService

open ExecutionService
open LocalFileSystem (Undisturbed SingleSteps mem_receipts)

section
variable {env : RunEnvironment} {inputs : ExecutionPipelineInputs}
  {adapterSelection : Option AdapterSelection}
  {additionalAdapters : List CapabilityScopedAdapterSelection} {context : RouteResolutionContext}
  {exportAdapter : Option (ForensicEventExportAdapter BuiltAdapter)}
  {log events : List (WorldEvent BuiltAdapter)}

/-- A per-step run delivers single steps of its plan, each at most once. -/
theorem run_singleSteps
    (h : (run env inputs adapterSelection additionalAdapters .perStep exportAdapter context
      log).2 = log ++ events) : SingleSteps events := by
  obtain ⟨events', hreached, he⟩ := run_calls env inputs adapterSelection additionalAdapters
    .perStep exportAdapter context log
  obtain rfl : events = events' := List.append_cancel_left (h.symm.trans he)
  have hcarries : ∀ call ∈ calls events, ∃ d v, decided env inputs context = .ok d ∧
      acceptedPlan env inputs = some v ∧ RequestCarries d v call.2.1 := by
    intro call hc
    obtain ⟨d, prepared, hr, haddr⟩ := hreached call hc
    obtain ⟨plan, capabilities, hfrom⟩ := prepare_eq_inr hr.admitted hr.prepared
    exact ⟨d, _, hr.decided, hfrom.acceptedPlan_eq, haddr.carries hfrom⟩
  have halike : ∀ call ∈ calls events, ∀ call' ∈ calls events,
      call.2.1.requestId = call'.2.1.requestId ∧
        call.2.1.stablePlanHash = call'.2.1.stablePlanHash := by
    intro call hc call' hc'
    obtain ⟨d, v, hd, hv, hcarry⟩ := hcarries call hc
    obtain ⟨d', v', hd', hv', hcarry'⟩ := hcarries call' hc'
    cases hd.symm.trans hd'
    cases hv.symm.trans hv'
    exact ⟨hcarry.requestId.trans hcarry'.requestId.symm,
      hcarry.planHash.trans hcarry'.planHash.symm⟩
  refine ⟨?_, fun call hc => ?_, fun call hc call' hc' => (halike call hc call' hc').1,
    fun call hc call' hc' => (halike call hc call' hc').2⟩
  · rcases hcalls : calls events with _ | ⟨call, rest⟩
    · exact .nil
    · obtain ⟨d, prepared, hr, -⟩ := hreached call (by simp [hcalls])
      obtain ⟨plan, capabilities, hfrom⟩ := prepare_eq_inr hr.admitted hr.prepared
      obtain ⟨delivered, hd, honce, -⟩ := deliver_calls_once env.world prepared.selectedRoute
        prepared.registry (coordinationContext context) log hfrom.validated
      have hcalls' : calls events = calls delivered := by
        have hrun : calls (run env inputs adapterSelection additionalAdapters .perStep
            exportAdapter context log).2 = _ := hr.calls_eq exportAdapter log
        rw [he, deliver, hd] at hrun
        simpa using hrun
      rw [← hcalls, hcalls']
      exact honce
  · obtain ⟨d, prepared, hr, step, -, -, hrequest⟩ := hreached call hc
    exact ⟨step.stepId, by rw [hrequest]; rfl⟩

variable (adapterSelection additionalAdapters) in
/-- All adapters of a run are file-write adapters under one root. -/
structure SharedRoot (deliveryRoot : String) : Prop where
  selected : ∀ selection, adapterSelection = some selection →
    selection = .localFileWrite deliveryRoot
  additional : ∀ entry ∈ additionalAdapters, entry.selection = .localFileWrite deliveryRoot

theorem SharedRoot.receipts_root {deliveryRoot : String}
    (hshared : SharedRoot adapterSelection additionalAdapters deliveryRoot)
    (h : (run env inputs adapterSelection additionalAdapters .perStep exportAdapter context
      log).2 = log ++ events) : ∀ receipt ∈ receipts events, receipt.1 = deliveryRoot := by
  obtain ⟨events', hreached, he⟩ := run_calls env inputs adapterSelection additionalAdapters
    .perStep exportAdapter context log
  obtain rfl : events = events' := List.append_cancel_left (h.symm.trans he)
  intro receipt hr
  obtain ⟨call, hc, hselection, -⟩ := mem_receipts.mp hr
  obtain ⟨d, prepared, hreach, step, -, hresolve, -⟩ := hreached call hc
  obtain ⟨plan, capabilities, hfrom⟩ := prepare_eq_inr hreach.admitted hreach.prepared
  obtain ⟨entry, hentry, hbuilt⟩ := buildRegistry_selection hfrom.adapters hresolve
  have hroot : entry.selection = .localFileWrite deliveryRoot := by
    rcases List.mem_append.mp hentry with hm | hm
    · cases hs : adapterSelection with
      | none => simp [hs] at hm
      | some selection =>
        simp only [hs, Option.map_some, Option.toList_some, List.mem_singleton] at hm
        rw [hm]
        exact hshared.selected selection hs
    · exact hshared.additional entry hm
  rw [hbuilt, hselection] at hroot
  exact AdapterSelection.localFileWrite.inj hroot

end

/-- While no receipt of a per-step run is written over, the receipts account for every
delivered step; once one is, they do not, unless another file tells of the step. Under
one root that is the second delivered step of the run. -/
theorem run_receipts_accounted (fs : LocalFileSystem) (env : RunEnvironment)
    (inputs : ExecutionPipelineInputs) (adapterSelection : Option AdapterSelection)
    (additionalAdapters : List CapabilityScopedAdapterSelection)
    (exportAdapter : Option (ForensicEventExportAdapter BuiltAdapter))
    (context : RouteResolutionContext) (log : List (WorldEvent BuiltAdapter))
    {deliveryRoot : String}
    (hshared : SharedRoot adapterSelection additionalAdapters deliveryRoot) :
    ∃ events, (run (fs.environment env) inputs adapterSelection additionalAdapters .perStep
        exportAdapter context log).2 = log ++ events ∧
      (Undisturbed events → ∀ pre post, events = pre ++ post → fs.Accounted log pre) ∧
      (fs.Unreceipted log events → fs.Accounted log events → Undisturbed events) ∧
      (Undisturbed events ↔ (receipts events).length ≤ 1) := by
  obtain ⟨events, -, he⟩ := run_calls (fs.environment env) inputs adapterSelection
    additionalAdapters .perStep exportAdapter context log
  have hsingle := run_singleSteps he
  refine ⟨events, he, fun h pre post hsplit => ?_, fun hbefore hacc => ?_, ?_⟩
  · refine LocalFileSystem.accounted_of_undisturbed ?_
    intro pre' adapter request post' root hs hpre
    exact h pre' adapter request (post' ++ post) root hs (by rw [hsplit, hpre]; simp)
  · exact hsingle.undisturbed hbefore hacc
  · exact hsingle.undisturbed_iff (hshared.receipts_root he)

end ExecutionPipelineService

/-! The two-step run, with both adapters under one empty root. -/

namespace Fixture

open ExecutionPipelineService

def emptyRoot : LocalFileSystem where
  files := fun _ => none
  isDir := fun _ path => path == "exports"
  pathExists := fun _ _ => false
  write := fun _ _ _ => .ok ()

def receiptRun : RunEnvironment := emptyRoot.environment (twoStepRun capabilities)

theorem sharedRoot : SharedRoot (some fileWrite) secondAdapter "exports" where
  selected := fun selection h => (Option.some.inj h).symm
  additional := fun entry h => by rw [List.mem_singleton.mp h]; rfl

theorem receiptRun_receipts :
    (receipts (run receiptRun plannedInputs (some fileWrite) secondAdapter .perStep none context
      []).2).map (fun receipt => (receipt.1, receipt.2.declaredStepIds)) =
      [("exports", ["step_a"]), ("exports", ["step_b"])] := by decide +kernel

end Fixture

namespace ExecutionPipelineService

open LocalFileSystem (Undisturbed)
open Fixture (plannedInputs fileWrite secondAdapter emptyRoot receiptRun)

theorem run_receipts_two_steps : ∃ events,
    (run receiptRun plannedInputs (some fileWrite) secondAdapter .perStep none Fixture.context
      []).2 = [] ++ events ∧
    (Undisturbed events → ∀ pre post, events = pre ++ post → emptyRoot.Accounted [] pre) ∧
    (emptyRoot.Unreceipted [] events → emptyRoot.Accounted [] events → Undisturbed events) ∧
    (Undisturbed events ↔ (receipts events).length ≤ 1) :=
  run_receipts_accounted emptyRoot (Fixture.twoStepRun Fixture.capabilities) plannedInputs
    (some fileWrite) secondAdapter none Fixture.context [] Fixture.sharedRoot

/-- Both steps of the run are delivered, and its receipts do not account for both. -/
theorem run_receipt_overwritten : ∃ events,
    (run receiptRun plannedInputs (some fileWrite) secondAdapter .perStep none Fixture.context
      []).2 = events ∧
    ((receipts events).map fun receipt => receipt.2.declaredStepIds) = [["step_a"], ["step_b"]] ∧
    emptyRoot.Unreceipted [] events ∧ ¬ emptyRoot.Accounted [] events := by
  have hreceipts := Fixture.receiptRun_receipts
  obtain ⟨events, he⟩ : ∃ events, (run receiptRun plannedInputs (some fileWrite) secondAdapter
    .perStep none Fixture.context []).2 = [] ++ events := ⟨_, (List.nil_append _).symm⟩
  rw [he, List.nil_append] at hreceipts
  have hsteps := congrArg (List.map Prod.snd) hreceipts
  rw [List.map_map] at hsteps
  have hbefore : emptyRoot.Unreceipted [] events := by rintro path contents ⟨⟩
  refine ⟨events, he, hsteps, hbefore, fun hacc => ?_⟩
  have hsingle := run_singleSteps he
  have hone := (hsingle.undisturbed_iff (Fixture.sharedRoot.receipts_root he)).mp
    (hsingle.undisturbed hbefore hacc)
  have htwo := congrArg List.length hreceipts
  rw [List.length_map] at htwo
  rw [htwo] at hone
  simp at hone

end ExecutionPipelineService

end FaLocal
