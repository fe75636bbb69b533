import FaLocal.DeliveredWork
import FaLocal.Recording
import FaLocal.WholeRoute

/-!
# What a run calls

Every delivery call of a run belongs to the one delivery that an admitted
decision and an accepted plan have prepared. Recording calls no delivery adapter.
-/
namespace FaLocal

open WorldEvent (Quiet quiet_closed)

/-! ## Registered adapters -/

theorem AdapterRegistry.register_eq_ok {α : Type} {registry registry' : AdapterRegistry α}
    {capabilityId : CapabilityId} {adapter : α} :
    registry.register capabilityId adapter = .ok registry' ↔
      registry.resolve capabilityId = none ∧
        registry' = ⟨Function.update registry.byCapability capabilityId (some adapter)⟩ := by
  rw [register, resolve]
  cases registry.byCapability capabilityId with
  | none => simp [eq_comm]
  | some b => simp

namespace ExecutionPipelineService

open ExecutionService

/-- The adapters that a run registers, with their capabilities, in order. -/
def registeredAdapters (adapterSelection : Option AdapterSelection)
    (additionalAdapters : List CapabilityScopedAdapterSelection)
    (routeCapabilityId : CapabilityId) : List CapabilityScopedAdapterSelection :=
  (adapterSelection.map fun selection => ⟨routeCapabilityId, selection⟩).toList ++
    additionalAdapters

/-- The capabilities that a run registers adapters for. -/
def registeredCapabilities (adapterSelection : Option AdapterSelection)
    (additionalAdapters : List CapabilityScopedAdapterSelection)
    (routeCapabilityId : CapabilityId) : List CapabilityId :=
  (registeredAdapters adapterSelection additionalAdapters routeCapabilityId).map (·.capabilityId)

def registerAll (registry : AdapterRegistry BuiltAdapter)
    (entries : List CapabilityScopedAdapterSelection) :
    FaLocalResult (AdapterRegistry BuiltAdapter) :=
  entries.foldlM (fun registry entry => registry.register entry.capabilityId
    (buildAdapter entry.selection entry.capabilityId)) registry

theorem registerAll_cons {registry registry' : AdapterRegistry BuiltAdapter}
    {entry : CapabilityScopedAdapterSelection} {entries : List CapabilityScopedAdapterSelection} :
    registerAll registry (entry :: entries) = .ok registry' ↔
      registry.resolve entry.capabilityId = none ∧
        registerAll ⟨Function.update registry.byCapability entry.capabilityId
          (some (buildAdapter entry.selection entry.capabilityId))⟩ entries = .ok registry' := by
  rw [registerAll, List.foldlM_cons]
  cases hr : registry.register entry.capabilityId
      (buildAdapter entry.selection entry.capabilityId) with
  | error e =>
    have hne : registry.resolve entry.capabilityId ≠ none := by
      intro hn
      cases hr.symm.trans (AdapterRegistry.register_eq_ok.mpr ⟨hn, rfl⟩)
    simp [bind, Except.bind, hne]
  | ok next =>
    obtain ⟨hnone, rfl⟩ := AdapterRegistry.register_eq_ok.mp hr
    simp [bind, Except.bind, hnone, registerAll]

/-- The selected adapter is registered in front of the additional ones. -/
theorem buildRegistry_eq (adapterSelection : Option AdapterSelection)
    (additionalAdapters : List CapabilityScopedAdapterSelection)
    (routeCapabilityId : CapabilityId) :
    buildRegistry adapterSelection additionalAdapters routeCapabilityId =
      registerAll AdapterRegistry.new
        (registeredAdapters adapterSelection additionalAdapters routeCapabilityId) := by
  cases adapterSelection <;> rfl

theorem registerAll_fresh {entries : List CapabilityScopedAdapterSelection}
    {registry registry' : AdapterRegistry BuiltAdapter}
    (h : registerAll registry entries = .ok registry') :
    (∀ entry ∈ entries, registry.resolve entry.capabilityId = none) ∧
      (entries.map (·.capabilityId)).Nodup := by
  induction entries generalizing registry with
  | nil => simp
  | cons entry entries ih =>
    obtain ⟨hnone, h⟩ := registerAll_cons.mp h
    obtain ⟨hfresh, hnodup⟩ := ih h
    have hother : ∀ other ∈ entries, other.capabilityId ≠ entry.capabilityId ∧
        registry.resolve other.capabilityId = none := by
      intro other ho
      have hres := hfresh other ho
      simp only [AdapterRegistry.resolve, Function.update_apply] at hres
      split at hres
      · cases hres
      · rename_i hne
        exact ⟨hne, hres⟩
    refine ⟨List.forall_mem_cons.mpr ⟨hnone, fun other ho => (hother other ho).2⟩, ?_⟩
    rw [List.map_cons, List.nodup_cons]
    refine ⟨fun hm => ?_, hnodup⟩
    obtain ⟨other, ho, he⟩ := List.mem_map.mp hm
    exact (hother other ho).1 he

/-- What holds of every registered adapter holds of every resolved one. -/
theorem registerAll_resolved {P : CapabilityId → BuiltAdapter → Prop}
    {entries : List CapabilityScopedAdapterSelection}
    {registry registry' : AdapterRegistry BuiltAdapter}
    (hreg : ∀ c adapter, registry.resolve c = some adapter → P c adapter)
    (hentries : ∀ entry ∈ entries,
      P entry.capabilityId (buildAdapter entry.selection entry.capabilityId))
    (h : registerAll registry entries = .ok registry') :
    ∀ c adapter, registry'.resolve c = some adapter → P c adapter := by
  induction entries generalizing registry with
  | nil =>
    cases h
    exact hreg
  | cons entry entries ih =>
    obtain ⟨hentry, hentries⟩ := List.forall_mem_cons.mp hentries
    obtain ⟨-, h⟩ := registerAll_cons.mp h
    refine ih (fun c adapter hc => ?_) hentries h
    simp only [AdapterRegistry.resolve, Function.update_apply] at hc
    split at hc
    · rename_i he
      cases hc
      exact he ▸ hentry
    · exact hreg c adapter hc

section
variable {adapterSelection : Option AdapterSelection}
  {additionalAdapters : List CapabilityScopedAdapterSelection} {routeCapabilityId : CapabilityId}
  {registry : AdapterRegistry BuiltAdapter}

/-- A registry is only built from adapters for different capabilities. -/
theorem buildRegistry_nodup
    (h : buildRegistry adapterSelection additionalAdapters routeCapabilityId = .ok registry) :
    (registeredCapabilities adapterSelection additionalAdapters routeCapabilityId).Nodup := by
  rw [buildRegistry_eq] at h
  exact (registerAll_fresh h).2

theorem buildRegistry_supported {c : CapabilityId} {adapter : BuiltAdapter}
    (h : buildRegistry adapterSelection additionalAdapters routeCapabilityId = .ok registry)
    (hr : registry.resolve c = some adapter) : adapter.supportedCapabilityId = c := by
  rw [buildRegistry_eq] at h
  exact registerAll_resolved (P := fun c adapter => adapter.supportedCapabilityId = c)
    (fun _ _ hc => by cases hc) (fun _ _ => rfl) h c adapter hr

/-- Every resolved adapter was built from a registered selection. -/
theorem buildRegistry_selection {c : CapabilityId} {adapter : BuiltAdapter}
    (h : buildRegistry adapterSelection additionalAdapters routeCapabilityId = .ok registry)
    (hr : registry.resolve c = some adapter) :
    ∃ entry ∈ registeredAdapters adapterSelection additionalAdapters routeCapabilityId,
      entry.selection = adapter.selection := by
  rw [buildRegistry_eq] at h
  exact registerAll_resolved (P := fun _ adapter =>
      ∃ entry ∈ registeredAdapters adapterSelection additionalAdapters routeCapabilityId,
        entry.selection = adapter.selection)
    (fun _ _ hc => by cases hc) (fun entry he => ⟨entry, he, rfl⟩) h c adapter hr

end

/-! ## Recording -/

/-- A record appends nothing but the export of its event. -/
theorem record_appends {P : List (WorldEvent BuiltAdapter) → Prop} (hP : Traced.Closed P)
    (env : RunEnvironment) (exportAdapter : Option (ForensicEventExportAdapter BuiltAdapter))
    (index : Nat) {kind : ForensicRecordKind} {redactionLevel : RedactionLevel}
    {context : ForensicRecordContext}
    (h : ∀ result, P [.exported (ForensicService.recordedEvent (env.freshEventId index)
      ⟨kind, redactionLevel, context⟩) result]) :
    (record env exportAdapter index kind redactionLevel context).Appends P := by
  rw [record]
  refine Traced.appends_lift_bind hP.nil fun input hin => ?_
  cases exportAdapter with
  | none => exact hP.bind (hP.lift _) fun _ => hP.pure _
  | some adapter =>
    refine hP.bind ?_ fun _ => hP.pure _
    have hinput : input = ⟨kind, redactionLevel, context⟩ := by
      rw [ForensicRecordInput.new, seq_eq_ok] at hin
      exact (Except.ok.inj hin.2).symm
    subst hinput
    refine Traced.appends_lift_bind hP.nil fun event hev =>
      hP.bind (Traced.appends_perform fun log => ?_) fun _ =>
        hP.bind (hP.lift _) fun _ => hP.pure _
    rw [(ForensicService.recordEvent_eq_ok.mp hev).2]
    exact h _

theorem recordStatuses_appends {P : List (WorldEvent BuiltAdapter) → Prop} (hP : Traced.Closed P)
    (env : RunEnvironment) (exportAdapter : Option (ForensicEventExportAdapter BuiltAdapter))
    {routeDecision : RouteDecision} {context : ForensicRecordContext}
    {statuses : List ValidatedExecutionStatus}
    (h : ∀ status ∈ statuses, ∀ index result,
      P [.exported (ForensicService.recordedEvent (env.freshEventId index)
        ⟨.executionStatusObserved routeDecision status, .linkageOnly, context⟩) result])
    (index : Nat) :
    (recordStatuses env exportAdapter routeDecision context index statuses).Appends P := by
  induction statuses generalizing index with
  | nil => exact hP.pure _
  | cons status rest ih =>
    obtain ⟨h₁, h₂⟩ := List.forall_mem_cons.mp h
    exact hP.bind (record_appends hP env exportAdapter index (h₁ index)) fun _ =>
      hP.bind (ih h₂ _) fun _ => hP.pure _

theorem recordStatuses_quiet (env : RunEnvironment)
    (exportAdapter : Option (ForensicEventExportAdapter BuiltAdapter))
    (routeDecision : RouteDecision) (context : ForensicRecordContext) (index : Nat)
    (statuses : List ValidatedExecutionStatus) :
    (recordStatuses env exportAdapter routeDecision context index statuses).Appends Quiet :=
  recordStatuses_appends quiet_closed env exportAdapter (fun _ _ _ _ => rfl) index

/-! ## The delivery of a run -/

section
variable {env : RunEnvironment} {inputs : ExecutionPipelineInputs}
  {adapterSelection : Option AdapterSelection}
  {additionalAdapters : List CapabilityScopedAdapterSelection} {d : RouteDecision}
  {prepared : Prepared}

variable (env inputs adapterSelection additionalAdapters d prepared) in
/-- What a run has passed when it comes to delivery. -/
structure PreparedFrom (plan : ExecutionPlan) (capabilities : CapabilityRegistry) : Prop where
  supplied : ∃ value, inputs.executionPlan = some value ∧ env.loaders.executionPlan value = .ok plan
  registry : env.loaders.capabilityRegistry inputs.capabilityRegistry = .ok capabilities
  validated : ExecutionPlanValidator.validate env.digest env.planClock plan capabilities =
    .ok prepared.validatedPlan
  matching : Matches d prepared.validatedPlan
  route : prepared.selectedRoute = selectedRoute d prepared.validatedPlan
  adapters : buildRegistry adapterSelection additionalAdapters
    d.capabilityDecisionSummary.requestedCapabilityId = .ok prepared.registry

/-- What the preparations of a delivery come to, where they do not fail. -/
theorem prepare_cases {result : DenialGuard ⊕ Prepared}
    (h : prepare env inputs adapterSelection additionalAdapters d = .ok result) :
    ∃ value plan capabilities, inputs.executionPlan = some value ∧
      env.loaders.executionPlan value = .ok plan ∧
      env.loaders.capabilityRegistry inputs.capabilityRegistry = .ok capabilities ∧
      ((∃ denial, ExecutionPlanValidator.validate env.digest env.planClock plan capabilities =
          .error denial ∧ result = .inl denial) ∨
        ∃ v input route registry,
          ExecutionPlanValidator.validate env.digest env.planClock plan capabilities = .ok v ∧
          RoutingInput.new d (some v) = .ok input ∧ RoutingService.selectRoute input = .ok route ∧
          buildRegistry adapterSelection additionalAdapters
            d.capabilityDecisionSummary.requestedCapabilityId = .ok registry ∧
          result = .inr ⟨v, route, registry⟩) := by
  rw [prepare] at h
  cases hplan : inputs.executionPlan with
  | none => simp [hplan] at h
  | some value =>
    simp only [hplan, bind_eq_ok] at h
    obtain ⟨capabilities, hreg, plan, hload, h⟩ := h
    refine ⟨value, plan, capabilities, rfl, loaded_eq_ok.mp hload, loaded_eq_ok.mp hreg, ?_⟩
    cases hval : ExecutionPlanValidator.validate env.digest env.planClock plan capabilities with
    | error denial =>
      rw [hval] at h
      cases h
      exact .inl ⟨denial, rfl, rfl⟩
    | ok v =>
      simp only [hval, bind_eq_ok] at h
      obtain ⟨input, hin, route, hsel, registry, hb, hresult⟩ := h
      cases hresult
      exact .inr ⟨v, input, route, registry, rfl, hin, hsel, hb, rfl⟩

theorem prepare_eq_inr (hp : d.resolvedApprovalPosture.admitted = true)
    (h : prepare env inputs adapterSelection additionalAdapters d = .ok (.inr prepared)) :
    ∃ plan capabilities, PreparedFrom env inputs adapterSelection additionalAdapters d prepared
      plan capabilities := by
  obtain ⟨value, plan, capabilities, hplan, hload, hreg, ⟨denial, -, ⟨⟩⟩ |
    ⟨v, input, route, registry, hval, hin, hsel, hb, he⟩⟩ := prepare_cases h
  cases he
  obtain ⟨hm, rfl⟩ := (RoutingInput.new_eq_ok hp).mp hin
  rw [RoutingService.selectRoute_of_admitted hp] at hsel
  cases hsel
  exact ⟨plan, capabilities, ⟨value, hplan, hload⟩, hreg, hval, hm, rfl, hb⟩

variable (env inputs adapterSelection additionalAdapters) in
/-- A run comes to delivery with this decision and these preparations. -/
structure Reached (context : RouteResolutionContext) (d : RouteDecision) (prepared : Prepared) :
    Prop where
  decided : DecisionService.resolveRouteDecision env.loaders env.clock inputs.request
    inputs.requesterTrust inputs.policy inputs.capabilityRegistry context = .ok d
  admitted : d.resolvedApprovalPosture.admitted = true
  prepared : prepare env inputs adapterSelection additionalAdapters d = .ok (.inr prepared)

/-- The calls that a delivery may make: the whole route to the adapter of the
requested capability, or one step to the adapter of the step's own. -/
def Addressed (dispatchMode : DispatchMode) (prepared : Prepared) (adapter : BuiltAdapter)
    (request : AdapterDeliveryRequest) : Prop :=
  match dispatchMode with
  | .wholeRoute =>
    prepared.registry.resolve prepared.selectedRoute.requestedCapabilityId = some adapter ∧
      ∃ link, planLink prepared.selectedRoute = .ok link ∧
        request = routeRequest prepared.selectedRoute link
  | .perStep => ∃ step ∈ prepared.validatedPlan.plan.steps,
      prepared.registry.resolve step.capabilityId = some adapter ∧
        request = stepRequest prepared.selectedRoute prepared.validatedPlan step

theorem deliver_addressed {plan : ExecutionPlan} {capabilities : CapabilityRegistry}
    (hprep : PreparedFrom env inputs adapterSelection additionalAdapters d prepared plan
      capabilities) (dispatchMode : DispatchMode) (context : RouteResolutionContext) :
    (deliver env dispatchMode prepared.selectedRoute prepared.validatedPlan prepared.registry
      context).Appends fun events => ∀ call ∈ WorldEvent.calls events,
        Addressed dispatchMode prepared call.1 call.2.1 := by
  cases dispatchMode with
  | wholeRoute =>
    refine (deliverSelectedRoute_oneCall env.world prepared.selectedRoute prepared.registry
      (coordinationContext context)).mono fun events h call hc => ?_
    rcases h with hnone | ⟨adapter, link, result, hres, hl, hone⟩
    · simp [hnone] at hc
    · simp only [hone, List.mem_singleton] at hc
      subst hc
      exact ⟨hres, link, hl, rfl⟩
  | perStep =>
    intro log
    have hacc := ExecutionPlanValidator.accepted_of_validate hprep.validated
    obtain ⟨events, a, l, he, -, -, hh⟩ := deliver_history env.world prepared.selectedRoute
      prepared.registry (coordinationContext context) log (fallbacksDeclared_of_accepted hacc.2)
      (layout_of_accepted hacc.2)
    exact ⟨events, hh.addressed, he⟩

/-! ## The parts of a run -/

/-- The record that a run without delivery leaves. -/
def decisionKind (d : RouteDecision) : ForensicRecordKind :=
  if d.resolvedApprovalPosture = .denied then .denialIssued d else .routeDecisionResolved d

variable (env inputs adapterSelection additionalAdapters)
  (dispatchMode : DispatchMode) (exportAdapter : Option (ForensicEventExportAdapter BuiltAdapter))
  (context : RouteResolutionContext)

/-- The end of a run without delivery. -/
def recordDecision (d : RouteDecision) : Coordinated BuiltAdapter ExecutionPipelineOutcome := do
  let outcome ← record env exportAdapter 0 (decisionKind d) .sensitiveFieldsRedacted
    { recordedAtUtc := context.decidedAtUtc }
  return { routeDecision := d, planDenial := none, executionTrace := none,
           forensicRecords := [outcome] }

/-- The end of a run that has been prepared. -/
def deliverAndRecord (d : RouteDecision) (prepared : Prepared) :
    Coordinated BuiltAdapter ExecutionPipelineOutcome := do
  let executionTrace ← deliver env dispatchMode prepared.selectedRoute prepared.validatedPlan
    prepared.registry context
  let forensicRecords ← recordStatuses env exportAdapter d
    { recordedAtUtc := context.decidedAtUtc } 0 executionTrace.statuses
  return { routeDecision := d, planDenial := none, executionTrace := some executionTrace,
           forensicRecords := forensicRecords }

/-- The rest of a run behind an admitted decision. -/
def executeDecision (d : RouteDecision) : Coordinated BuiltAdapter ExecutionPipelineOutcome := do
  let prepared ← Traced.lift (prepare env inputs adapterSelection additionalAdapters d)
  match prepared with
  | .inl denial => return { routeDecision := d, planDenial := some denial, executionTrace := none,
                            forensicRecords := [] }
  | .inr prepared => deliverAndRecord env dispatchMode exportAdapter context d prepared

/-- A run decides, and then it records the decision or executes it. -/
theorem run_eq : run env inputs adapterSelection additionalAdapters dispatchMode exportAdapter
    context = (do
      let d ← Traced.lift (DecisionService.resolveRouteDecision env.loaders env.clock inputs.request
        inputs.requesterTrust inputs.policy inputs.capabilityRegistry context)
      if d.resolvedApprovalPosture.admitted then
        executeDecision env inputs adapterSelection additionalAdapters dispatchMode exportAdapter
          context d
      else recordDecision env exportAdapter context d) := by
  rw [run]
  congr 1
  funext d
  cases hpos : d.resolvedApprovalPosture <;>
    simp only [ApprovalPosture.admitted, Bool.false_eq_true, if_false, if_true, recordDecision,
      decisionKind, hpos, reduceCtorEq] <;>
    rfl

/-- Calls that all belong to a prepared delivery. -/
def CallsReached (events : List (WorldEvent BuiltAdapter)) : Prop :=
  ∀ call ∈ WorldEvent.calls events, ∃ d prepared,
    Reached env inputs adapterSelection additionalAdapters context d prepared ∧
      Addressed dispatchMode prepared call.1 call.2.1

variable {env inputs adapterSelection additionalAdapters dispatchMode context}

theorem CallsReached.of_quiet {events : List (WorldEvent BuiltAdapter)} (h : Quiet events) :
    CallsReached env inputs adapterSelection additionalAdapters dispatchMode context events := by
  intro call hc
  rw [show WorldEvent.calls events = [] from h] at hc
  cases hc

theorem CallsReached.append_quiet {a b : List (WorldEvent BuiltAdapter)}
    (ha : CallsReached env inputs adapterSelection additionalAdapters dispatchMode context a)
    (hb : Quiet b) :
    CallsReached env inputs adapterSelection additionalAdapters dispatchMode context (a ++ b) := by
  intro call hc
  rw [WorldEvent.calls_append, show WorldEvent.calls b = [] from hb, List.append_nil] at hc
  exact ha call hc

theorem deliverAndRecord_calls
    (h : Reached env inputs adapterSelection additionalAdapters context d prepared) :
    (deliverAndRecord env dispatchMode exportAdapter context d prepared).Appends
      (CallsReached env inputs adapterSelection additionalAdapters dispatchMode context) := by
  obtain ⟨plan, capabilities, hfrom⟩ := prepare_eq_inr h.admitted h.prepared
  have hdeliver := (deliver_addressed hfrom dispatchMode context).mono
    (Q := CallsReached env inputs adapterSelection additionalAdapters dispatchMode context)
    fun events haddr call hc => ⟨d, prepared, h, haddr call hc⟩
  exact hdeliver.bind CallsReached.append_quiet quiet_closed.nil fun trace =>
    quiet_closed.bind (recordStatuses_quiet env exportAdapter d _ 0 trace.statuses) fun _ =>
      quiet_closed.pure _

theorem executeDecision_calls
    (hd : DecisionService.resolveRouteDecision env.loaders env.clock inputs.request
      inputs.requesterTrust inputs.policy inputs.capabilityRegistry context = .ok d)
    (hp : d.resolvedApprovalPosture.admitted = true) :
    (executeDecision env inputs adapterSelection additionalAdapters dispatchMode exportAdapter
      context d).Appends
      (CallsReached env inputs adapterSelection additionalAdapters dispatchMode context) := by
  have hnil : CallsReached env inputs adapterSelection additionalAdapters dispatchMode context [] :=
    .of_quiet quiet_closed.nil
  refine Traced.appends_lift_bind hnil fun prepared hprep => ?_
  cases prepared with
  | inl denial => exact fun log => ⟨[], hnil, by simp⟩
  | inr prepared => exact deliverAndRecord_calls exportAdapter ⟨hd, hp, hprep⟩

variable (env inputs adapterSelection additionalAdapters dispatchMode context) in
/-- Every call of a run belongs to the delivery that the run has prepared. -/
theorem run_calls : (run env inputs adapterSelection additionalAdapters dispatchMode exportAdapter
    context).Appends
      (CallsReached env inputs adapterSelection additionalAdapters dispatchMode context) := by
  rw [run_eq]
  refine Traced.appends_lift_bind (.of_quiet quiet_closed.nil) fun d hd => ?_
  split
  · rename_i hp
    exact executeDecision_calls exportAdapter hd hp
  · refine Traced.Appends.mono (P := Quiet) ?_ fun events h => .of_quiet h
    exact quiet_closed.bind (record_appends quiet_closed env exportAdapter 0 fun _ => rfl)
      fun _ => quiet_closed.pure _

/-- A run that comes to delivery is its delivery and the records of the trace. -/
theorem Reached.run_eq (h : Reached env inputs adapterSelection additionalAdapters context d prepared)
    (log : List (WorldEvent BuiltAdapter)) :
    run env inputs adapterSelection additionalAdapters dispatchMode exportAdapter context log =
      deliverAndRecord env dispatchMode exportAdapter context d prepared log := by
  rw [ExecutionPipelineService.run_eq, h.decided, Traced.lift_ok_bind, if_pos h.admitted,
    executeDecision, h.prepared, Traced.lift_ok_bind]

/-- Its calls are those of the delivery. -/
theorem Reached.calls_eq
    (h : Reached env inputs adapterSelection additionalAdapters context d prepared)
    (log : List (WorldEvent BuiltAdapter)) :
    WorldEvent.calls (run env inputs adapterSelection additionalAdapters dispatchMode exportAdapter
        context log).2 =
      WorldEvent.calls (deliver env dispatchMode prepared.selectedRoute prepared.validatedPlan
        prepared.registry context log).2 := by
  rw [h.run_eq, deliverAndRecord, Traced.bind_apply]
  cases deliver env dispatchMode prepared.selectedRoute prepared.validatedPlan prepared.registry
    context log with
  | mk r mid =>
    cases r with
    | error e => rfl
    | ok trace =>
      obtain ⟨events, hq, he⟩ := quiet_closed.bind (recordStatuses_quiet env exportAdapter d
        { recordedAtUtc := context.decidedAtUtc } 0 trace.statuses)
        (fun records => quiet_closed.pure
          (ExecutionPipelineOutcome.mk d none (some trace) records)) mid
      rw [he, WorldEvent.calls_append, show WorldEvent.calls events = [] from hq, List.append_nil]

end

end ExecutionPipelineService

end FaLocal
