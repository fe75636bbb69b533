import FaLocal.RunGate

/-!
# What a run leaves on record

The requests, statuses and records of a run all carry the identifiers of its one
decision and its one plan. Every run that returns leaves a record, unless the
validator has denied its plan.
-/
namespace FaLocal

open WorldEvent (calls progress)

namespace WorldEvent

variable {α : Type}

/-- The events that were handed to the export adapter, in order. -/
def exports (log : List (WorldEvent α)) : List ForensicEvent :=
  log.filterMap fun
    | .exported event _ => some event
    | _ => none

@[simp] theorem exports_append (a b : List (WorldEvent α)) :
    exports (a ++ b) = exports a ++ exports b :=
  List.filterMap_append

theorem exports_closed {P : ForensicEvent → Prop} :
    Traced.Closed fun events : List (WorldEvent α) => ∀ event ∈ exports events, P event where
  nil := fun _ he => by cases he
  append := fun ha hb event he => by
    rw [exports_append, List.mem_append] at he
    exact he.elim (ha event) (hb event)

end WorldEvent

open WorldEvent (exports exports_append exports_closed)

namespace ExecutionService

/-- Delivery exports nothing. -/
theorem exports_progressive {α : Type} :
    Progressive fun events : List (WorldEvent α) => exports events = [] where
  nil := rfl
  append := fun ha hb => by rw [exports_append, ha, hb, List.append_nil]
  inProgress := fun stepIds => by
    induction stepIds with
    | nil => rfl
    | cons stepId stepIds ih => exact ih

/-! ## Statuses of a route -/

/-- A status that was built for a route. -/
structure FromRoute (route : SelectedExecutionRoute) (link : ExecutionPlanId × String)
    (status : ExecutionStatus) : Prop where
  requestId : status.requestId = route.requestId
  correlationId : status.correlationId = route.correlationId
  posture : status.currentPosture = route.resolvedApprovalPosture
  planId : status.executionPlanId = some link.1
  planHash : status.stablePlanHash = some link.2
  state : status.state ∈ admittedStates

section
variable {route : SelectedExecutionRoute} {link : ExecutionPlanId × String}
  {context : CoordinationContext} {final : ExecutionStatus}

theorem FinalRecord.fromRoute {outcomes : List (String × StepDeliveryOutcome)}
    {startedAtUtc completedAtUtc : TimestampUtc}
    (h : FinalRecord route link outcomes startedAtUtc completedAtUtc final) :
    FromRoute route link final := by
  cases h <;> exact ⟨rfl, rfl, rfl, rfl, rfl, List.mem_of_elem_eq_true rfl⟩

theorem WholeFinal.fromRoute {answers : List AdapterDeliveryResult} {stepIds : List String}
    (h : WholeFinal route link context answers stepIds final) : FromRoute route link final := by
  cases h <;> exact ⟨rfl, rfl, rfl, rfl, rfl, List.mem_of_elem_eq_true rfl⟩

theorem toldStatuses_fromRoute {stepIds : List String} (h : FromRoute route link final) :
    ∀ status ∈ toldStatuses route link context stepIds final, FromRoute route link status := by
  intro status hs
  simp only [toldStatuses, List.cons_append, List.mem_cons, List.mem_append, List.mem_map,
    List.not_mem_nil, or_false] at hs
  rcases hs with rfl | ⟨stepId, -, rfl⟩ | rfl
  · exact ⟨rfl, rfl, rfl, rfl, rfl, List.mem_of_elem_eq_true rfl⟩
  · exact ⟨rfl, rfl, rfl, rfl, rfl, List.mem_of_elem_eq_true rfl⟩
  · exact h

end

end ExecutionService

namespace ExecutionPipelineService

open ExecutionService

section
variable {env : RunEnvironment} {inputs : ExecutionPipelineInputs}
  {adapterSelection : Option AdapterSelection}
  {additionalAdapters : List CapabilityScopedAdapterSelection} {d : RouteDecision}
  {prepared : Prepared} {plan : ExecutionPlan} {capabilities : CapabilityRegistry}

/-- The plan link of a prepared run. -/
def Prepared.link (prepared : Prepared) : ExecutionPlanId × String :=
  (prepared.validatedPlan.plan.executionPlanId, prepared.validatedPlan.stablePlanHash)

theorem PreparedFrom.linked
    (h : PreparedFrom env inputs adapterSelection additionalAdapters d prepared plan capabilities) :
    planLink prepared.selectedRoute = .ok prepared.link := by
  rw [h.route]
  rfl

/-- How the last status of a delivered trace came about. -/
def FinalOf (env : RunEnvironment) (dispatchMode : DispatchMode) (prepared : Prepared)
    (context : CoordinationContext) (trace : ExecutionTrace)
    (events : List (WorldEvent BuiltAdapter)) (final : ExecutionStatus) : Prop :=
  match dispatchMode with
  | .wholeRoute => WholeFinal prepared.selectedRoute prepared.link context (answers events)
      (progress events) final
  | .perStep => final = trace.finalStatus.status ∧ ∃ attempts v, Returned env.world
      prepared.selectedRoute prepared.validatedPlan prepared.registry context trace attempts v
      events

theorem FinalOf.fromRoute {dispatchMode : DispatchMode} {context : CoordinationContext}
    {trace : ExecutionTrace} {events : List (WorldEvent BuiltAdapter)} {final : ExecutionStatus}
    (h : FinalOf env dispatchMode prepared context trace events final) :
    FromRoute prepared.selectedRoute prepared.link final := by
  cases dispatchMode with
  | wholeRoute => exact WholeFinal.fromRoute h
  | perStep =>
    obtain ⟨rfl, attempts, v, hr⟩ := h
    exact hr.final.fromRoute

/-- A trace that the delivery of a run returned. -/
theorem deliver_told
    (hfrom : PreparedFrom env inputs adapterSelection additionalAdapters d prepared plan
      capabilities) {dispatchMode : DispatchMode} {context : RouteResolutionContext}
    {log out : List (WorldEvent BuiltAdapter)} {trace : ExecutionTrace}
    (h : deliver env dispatchMode prepared.selectedRoute prepared.validatedPlan prepared.registry
      context log = (.ok trace, out)) :
    ∃ events final, out = log ++ events ∧
      trace.statuses.map (·.status) = toldStatuses prepared.selectedRoute prepared.link
        (coordinationContext context) (progress events) final ∧
      FinalOf env dispatchMode prepared (coordinationContext context) trace events final := by
  cases dispatchMode with
  | wholeRoute => exact deliverSelectedRoute_returned hfrom.linked h
  | perStep =>
    obtain ⟨-, hacc⟩ := ExecutionPlanValidator.accepted_of_validate hfrom.validated
    obtain ⟨events, attempts, v, he, hr⟩ := deliver_returned (fallbacksDeclared_of_accepted hacc)
      (layout_of_accepted hacc) hacc.nonempty h
    refine ⟨events, _, he, ?_, rfl, attempts, v, hr⟩
    have hprogress : progress events = attempts.map fun attempt => attempt.1.stepId := by
      simpa [named, Function.comp_def] using hr.history.progress
    rw [hr.statuses, hprogress, toldStatuses, List.map_map]
    rfl

/-- Delivery exports nothing. -/
theorem deliver_exports (env : RunEnvironment) (dispatchMode : DispatchMode) (prepared : Prepared)
    (context : RouteResolutionContext) :
    (deliver env dispatchMode prepared.selectedRoute prepared.validatedPlan prepared.registry
      context).Appends fun events => exports events = [] := by
  cases dispatchMode with
  | wholeRoute =>
    exact deliverSelectedRoute_appends _ _ _ _ exports_progressive rfl exports_progressive.append
      fun _ _ _ _ _ => rfl
  | perStep => exact deliverPlanPerStep_appends exports_progressive fun _ _ _ _ _ => rfl

/-! ## Identifiers -/

/-- The plan that the validator accepts from the inputs. -/
def acceptedPlan (env : RunEnvironment) (inputs : ExecutionPipelineInputs) :
    Option ValidatedExecutionPlan :=
  match inputs.executionPlan with
  | none => none
  | some value =>
    match env.loaders.executionPlan value,
      env.loaders.capabilityRegistry inputs.capabilityRegistry with
    | .ok plan, .ok capabilities =>
      (ExecutionPlanValidator.validate env.digest env.planClock plan capabilities).toOption
    | _, _ => none

theorem PreparedFrom.acceptedPlan_eq
    (h : PreparedFrom env inputs adapterSelection additionalAdapters d prepared plan capabilities) :
    acceptedPlan env inputs = some prepared.validatedPlan := by
  obtain ⟨value, hv, hl⟩ := h.supplied
  simp only [acceptedPlan, hv, hl, h.registry, h.validated]
  rfl

/-- A request to an adapter carries the decision and the plan. -/
structure RequestCarries (d : RouteDecision) (v : ValidatedExecutionPlan)
    (request : AdapterDeliveryRequest) : Prop where
  routeDecisionId : request.routeDecisionId = d.routeDecisionId
  requestId : request.requestId = d.requestId
  correlationId : request.correlationId = d.correlationId
  posture : request.resolvedApprovalPosture = d.resolvedApprovalPosture
  planId : request.executionPlanId = v.plan.executionPlanId
  planHash : request.stablePlanHash = v.stablePlanHash

/-- A status carries the decision and the plan. -/
structure StatusCarries (d : RouteDecision) (v : ValidatedExecutionPlan)
    (status : ExecutionStatus) : Prop where
  requestId : status.requestId = d.requestId
  correlationId : status.correlationId = d.correlationId
  posture : status.currentPosture = d.resolvedApprovalPosture
  planId : status.executionPlanId = some v.plan.executionPlanId
  planHash : status.stablePlanHash = some v.stablePlanHash

/-- A record carries the decision, and the plan if it is about its execution. -/
structure RecordCarries (d : RouteDecision) (accepted : Option ValidatedExecutionPlan)
    (event : ForensicEvent) : Prop where
  requestId : event.requestId = d.requestId
  correlationId : event.correlationId = d.correlationId
  posture : event.currentPosture = d.resolvedApprovalPosture
  observed : event.eventType = .executionStatusObserved →
    event.routeDecisionId = some d.routeDecisionId ∧ ∃ v, accepted = some v ∧
      event.executionPlanId = some v.plan.executionPlanId ∧
      event.stablePlanHash = some v.stablePlanHash
  unlinked : event.eventType ≠ .executionStatusObserved →
    event.executionPlanId = none ∧ event.stablePlanHash = none

theorem Addressed.carries
    (hfrom : PreparedFrom env inputs adapterSelection additionalAdapters d prepared plan
      capabilities) {dispatchMode : DispatchMode} {adapter : BuiltAdapter}
    {request : AdapterDeliveryRequest} (h : Addressed dispatchMode prepared adapter request) :
    RequestCarries d prepared.validatedPlan request := by
  cases dispatchMode with
  | wholeRoute =>
    obtain ⟨-, link, hl, rfl⟩ := h
    cases hfrom.linked.symm.trans hl
    rw [hfrom.route]
    exact ⟨rfl, rfl, rfl, rfl, rfl, rfl⟩
  | perStep =>
    obtain ⟨step, -, -, rfl⟩ := h
    rw [hfrom.route]
    exact ⟨rfl, rfl, rfl, rfl, rfl, rfl⟩

theorem statusCarries_of_fromRoute
    (hfrom : PreparedFrom env inputs adapterSelection additionalAdapters d prepared plan
      capabilities) {status : ExecutionStatus}
    (h : FromRoute prepared.selectedRoute prepared.link status) :
    StatusCarries d prepared.validatedPlan status := by
  rw [hfrom.route] at h
  exact ⟨h.requestId, h.correlationId, h.posture, h.planId, h.planHash⟩

/-- The statuses of a delivered trace, all of them built for the route. -/
theorem delivered_fromRoute
    (hfrom : PreparedFrom env inputs adapterSelection additionalAdapters d prepared plan
      capabilities) {dispatchMode : DispatchMode} {context : RouteResolutionContext}
    {log out : List (WorldEvent BuiltAdapter)} {trace : ExecutionTrace}
    (h : deliver env dispatchMode prepared.selectedRoute prepared.validatedPlan prepared.registry
      context log = (.ok trace, out)) :
    ∀ status ∈ trace.statuses, FromRoute prepared.selectedRoute prepared.link status.status := by
  obtain ⟨events, final, -, ht, hf⟩ := deliver_told hfrom h
  intro status hs
  have hmem : status.status ∈ trace.statuses.map (·.status) := List.mem_map_of_mem hs
  rw [ht] at hmem
  exact toldStatuses_fromRoute hf.fromRoute status.status hmem

/-- The record of such a status. -/
theorem observed_carries {v : ValidatedExecutionPlan} {status : ValidatedExecutionStatus}
    (h : StatusCarries d v status.status) (accepted : Option ValidatedExecutionPlan)
    (ha : accepted = some v) (forensicEventId : ForensicEventId) (redactionLevel : RedactionLevel)
    (context : ForensicRecordContext) :
    RecordCarries d accepted (ForensicService.recordedEvent forensicEventId
      ⟨.executionStatusObserved d status, redactionLevel, context⟩) where
  requestId := rfl
  correlationId := rfl
  posture := h.posture
  observed := fun _ => ⟨rfl, v, ha, h.planId, h.planHash⟩
  unlinked := fun hne => absurd rfl hne

/-- The record of a decision that is not executed. -/
theorem decision_carries (d : RouteDecision) (accepted : Option ValidatedExecutionPlan)
    (forensicEventId : ForensicEventId) (redactionLevel : RedactionLevel)
    (context : ForensicRecordContext) :
    RecordCarries d accepted (ForensicService.recordedEvent forensicEventId
      ⟨decisionKind d, redactionLevel, context⟩) := by
  rw [decisionKind]
  split
  · rename_i hp
    exact ⟨rfl, rfl, hp.symm, (by intro he; cases he), fun _ => ⟨rfl, rfl⟩⟩
  · exact ⟨rfl, rfl, rfl, (by intro he; cases he), fun _ => ⟨rfl, rfl⟩⟩

/-! ## Exported records -/

/-- What a run exports carries its decision and its plan. -/
def ExportsCarry (env : RunEnvironment) (inputs : ExecutionPipelineInputs)
    (context : RouteResolutionContext) (events : List (WorldEvent BuiltAdapter)) : Prop :=
  ∀ event ∈ exports events, ∃ d, decided env inputs context = .ok d ∧
    RecordCarries d (acceptedPlan env inputs) event

theorem exportsCarry_closed {context : RouteResolutionContext} :
    Traced.Closed (ExportsCarry env inputs context) :=
  exports_closed

theorem exportsCarry_single {context : RouteResolutionContext}
    (hd : decided env inputs context = .ok d) {event : ForensicEvent}
    (h : RecordCarries d (acceptedPlan env inputs) event) (result : ForensicExportResult) :
    ExportsCarry env inputs context [.exported event result] := by
  intro event' he
  rw [List.mem_singleton.mp he]
  exact ⟨d, hd, h⟩

theorem deliverAndRecord_exports (dispatchMode : DispatchMode)
    (exportAdapter : Option (ForensicEventExportAdapter BuiltAdapter))
    {context : RouteResolutionContext}
    (h : Reached env inputs adapterSelection additionalAdapters context d prepared) :
    (deliverAndRecord env dispatchMode exportAdapter context d prepared).Appends
      (ExportsCarry env inputs context) := by
  obtain ⟨plan, capabilities, hfrom⟩ := prepare_eq_inr h.admitted h.prepared
  have hdeliver := (deliver_exports env dispatchMode prepared context).mono
    (Q := ExportsCarry env inputs context) fun events hn event he => by simp [hn] at he
  refine hdeliver.bind_returned exportsCarry_closed.append exportsCarry_closed.nil
    fun log trace mid ht => exportsCarry_closed.bind ?_ fun _ => exportsCarry_closed.pure _
  refine recordStatuses_appends exportsCarry_closed env exportAdapter
    (fun status hs index result => exportsCarry_single h.decided ?_ result) 0
  exact observed_carries (statusCarries_of_fromRoute hfrom (delivered_fromRoute hfrom ht status hs))
    _ hfrom.acceptedPlan_eq _ _ _

theorem run_exports (env : RunEnvironment) (inputs : ExecutionPipelineInputs)
    (adapterSelection : Option AdapterSelection)
    (additionalAdapters : List CapabilityScopedAdapterSelection) (dispatchMode : DispatchMode)
    (exportAdapter : Option (ForensicEventExportAdapter BuiltAdapter))
    (context : RouteResolutionContext) :
    (run env inputs adapterSelection additionalAdapters dispatchMode exportAdapter
      context).Appends (ExportsCarry env inputs context) := by
  rw [run_eq]
  refine Traced.appends_lift_bind exportsCarry_closed.nil fun d hd => ?_
  split
  · rename_i hp
    refine Traced.appends_lift_bind exportsCarry_closed.nil fun prepared hprep => ?_
    cases prepared with
    | inl denial => exact exportsCarry_closed.pure _
    | inr prepared => exact deliverAndRecord_exports dispatchMode exportAdapter ⟨hd, hp, hprep⟩
  · exact exportsCarry_closed.bind (record_appends exportsCarry_closed env exportAdapter 0
      fun result => exportsCarry_single hd (decision_carries d _ _ _ _) result) fun _ =>
        exportsCarry_closed.pure _

/-! ## Returned records -/

/-- Records that were exported one by one carry their references; without an
export adapter nothing is exported. -/
def ExportedAs (exportAdapter : Option (ForensicEventExportAdapter BuiltAdapter))
    (events : List (WorldEvent BuiltAdapter)) (records : List ForensicRecordOutcome) : Prop :=
  match exportAdapter with
  | none => events = [] ∧ ∀ record ∈ records, record.exportReference = none
  | some _ => List.Forall₂ (fun event record => ∃ reference,
      event = .exported record.event.event (.exported reference) ∧
        record.exportReference = some reference) events records

/-- A record that was exported: the adapter has taken the event of its kind. -/
theorem record_exported {adapter : ForensicEventExportAdapter BuiltAdapter} {index : Nat}
    {kind : ForensicRecordKind} {redactionLevel : RedactionLevel} {context : ForensicRecordContext}
    {log out : List (WorldEvent BuiltAdapter)} {outcome : ForensicRecordOutcome}
    (h : record env (some adapter) index kind redactionLevel context log = (.ok outcome, out)) :
    outcome.event.event = ForensicService.recordedEvent (env.freshEventId index)
        ⟨kind, redactionLevel, context⟩ ∧
      ∃ reference, adapter.exportEvent log outcome.event.event = .exported reference ∧
        outcome.exportReference = some reference ∧
        out = log ++ [.exported outcome.event.event (.exported reference)] := by
  rw [record] at h
  obtain ⟨input, hin, h⟩ := Traced.lift_bind_eq_ok.mp h
  have hinput : input = ⟨kind, redactionLevel, context⟩ := by
    rw [ForensicRecordInput.new, seq_eq_ok] at hin
    exact (Except.ok.inj hin.2).symm
  subst hinput
  obtain ⟨exported, mid, he, h⟩ := Traced.bind_eq_ok h
  cases h
  rw [ForensicService.recordAndExportEventVia] at he
  obtain ⟨event, hev, he⟩ := Traced.lift_bind_eq_ok.mp he
  rw [Traced.bind_of_ok (Traced.perform_apply _ _)] at he
  obtain ⟨receipt, hr, he⟩ := Traced.lift_bind_eq_ok.mp he
  cases he
  have hanswer := ForensicService.mapExportResult_eq_ok hr
  refine ⟨(ForensicService.recordEvent_eq_ok.mp hev).2, receipt.exportReference, hanswer, rfl, ?_⟩
  rw [← hanswer]

/-- A returned record holds the event of its kind, exported if there is where to. -/
theorem record_returned {exportAdapter : Option (ForensicEventExportAdapter BuiltAdapter)}
    {index : Nat} {kind : ForensicRecordKind} {redactionLevel : RedactionLevel}
    {context : ForensicRecordContext} {log out : List (WorldEvent BuiltAdapter)}
    {outcome : ForensicRecordOutcome}
    (h : record env exportAdapter index kind redactionLevel context log = (.ok outcome, out)) :
    outcome.event.event = ForensicService.recordedEvent (env.freshEventId index)
        ⟨kind, redactionLevel, context⟩ ∧
      ∃ events, out = log ++ events ∧ ExportedAs exportAdapter events [outcome] := by
  cases exportAdapter with
  | none =>
    rw [record] at h
    obtain ⟨input, hin, h⟩ := Traced.lift_bind_eq_ok.mp h
    have hinput : input = ⟨kind, redactionLevel, context⟩ := by
      rw [ForensicRecordInput.new, seq_eq_ok] at hin
      exact (Except.ok.inj hin.2).symm
    subst hinput
    obtain ⟨event, hev, h⟩ := Traced.lift_bind_eq_ok.mp h
    cases h
    exact ⟨(ForensicService.recordEvent_eq_ok.mp hev).2, [], by simp, rfl, by simp⟩
  | some adapter =>
    obtain ⟨hev, reference, -, href, rfl⟩ := record_exported h
    exact ⟨hev, _, rfl, .cons ⟨reference, rfl, href⟩ .nil⟩

/-- So it is with the records of all statuses, in order. -/
theorem recordStatuses_returned
    {exportAdapter : Option (ForensicEventExportAdapter BuiltAdapter)} {index : Nat}
    {context : ForensicRecordContext} {statuses : List ValidatedExecutionStatus}
    {log out : List (WorldEvent BuiltAdapter)} {outcomes : List ForensicRecordOutcome}
    (h : recordStatuses env exportAdapter d context index statuses log = (.ok outcomes, out)) :
    List.Forall₂ (fun status outcome => ∃ index, outcome.event.event =
        ForensicService.recordedEvent (env.freshEventId index)
          ⟨.executionStatusObserved d status, .linkageOnly, context⟩) statuses outcomes ∧
      ∃ events, out = log ++ events ∧ ExportedAs exportAdapter events outcomes := by
  induction statuses generalizing index log outcomes with
  | nil =>
    cases h
    refine ⟨.nil, [], by simp, ?_⟩
    cases exportAdapter with
    | none => exact ⟨rfl, by simp⟩
    | some adapter => exact .nil
  | cons status rest ih =>
    obtain ⟨outcome, mid, ho, h⟩ := Traced.bind_eq_ok h
    obtain ⟨outcomes', mid', hos, h⟩ := Traced.bind_eq_ok h
    cases h
    obtain ⟨hev, e₁, rfl, h₁⟩ := record_returned ho
    obtain ⟨hevs, e₂, rfl, h₂⟩ := ih hos
    refine ⟨.cons ⟨index, hev⟩ hevs, e₁ ++ e₂, by simp, ?_⟩
    cases exportAdapter with
    | none =>
      obtain ⟨rfl, hn₁⟩ := h₁
      obtain ⟨rfl, hn₂⟩ := h₂
      exact ⟨rfl, List.forall_mem_cons.mpr ⟨hn₁ _ List.mem_cons_self, hn₂⟩⟩
    | some adapter => exact List.rel_append h₁ h₂

/-- How a run can return. -/
inductive Returns (env : RunEnvironment) (inputs : ExecutionPipelineInputs)
    (adapterSelection : Option AdapterSelection)
    (additionalAdapters : List CapabilityScopedAdapterSelection) (dispatchMode : DispatchMode)
    (exportAdapter : Option (ForensicEventExportAdapter BuiltAdapter))
    (context : RouteResolutionContext) (log : List (WorldEvent BuiltAdapter)) :
    ExecutionPipelineOutcome → List (WorldEvent BuiltAdapter) → Prop where
  | recorded {d : RouteDecision} {record : ForensicRecordOutcome}
      {events : List (WorldEvent BuiltAdapter)} :
      decided env inputs context = .ok d → d.resolvedApprovalPosture.admitted = false →
      record.event.event = ForensicService.recordedEvent (env.freshEventId 0)
        ⟨decisionKind d, .sensitiveFieldsRedacted, { recordedAtUtc := context.decidedAtUtc }⟩ →
      ExportedAs exportAdapter events [record] →
      Returns env inputs adapterSelection additionalAdapters dispatchMode exportAdapter context log
        ⟨d, none, none, [record]⟩ (log ++ events)
  | planDenied {d : RouteDecision} {denial : DenialGuard} :
      decided env inputs context = .ok d → d.resolvedApprovalPosture.admitted = true →
      prepare env inputs adapterSelection additionalAdapters d = .ok (.inl denial) →
      Returns env inputs adapterSelection additionalAdapters dispatchMode exportAdapter context log
        ⟨d, some denial, none, []⟩ log
  | delivered {d : RouteDecision} {prepared : Prepared} {trace : ExecutionTrace}
      {mid events : List (WorldEvent BuiltAdapter)} {records : List ForensicRecordOutcome} :
      Reached env inputs adapterSelection additionalAdapters context d prepared →
      deliver env dispatchMode prepared.selectedRoute prepared.validatedPlan prepared.registry
        context log = (.ok trace, mid) →
      List.Forall₂ (fun status record => ∃ index, record.event.event =
        ForensicService.recordedEvent (env.freshEventId index)
          ⟨.executionStatusObserved d status, .linkageOnly,
            { recordedAtUtc := context.decidedAtUtc }⟩) trace.statuses records →
      ExportedAs exportAdapter events records →
      Returns env inputs adapterSelection additionalAdapters dispatchMode exportAdapter context log
        ⟨d, none, some trace, records⟩ (mid ++ events)

/-- The computations that a returned run consists of. -/
inductive RunCase (env : RunEnvironment) (inputs : ExecutionPipelineInputs)
    (adapterSelection : Option AdapterSelection)
    (additionalAdapters : List CapabilityScopedAdapterSelection) (dispatchMode : DispatchMode)
    (exportAdapter : Option (ForensicEventExportAdapter BuiltAdapter))
    (context : RouteResolutionContext) (log : List (WorldEvent BuiltAdapter)) :
    ExecutionPipelineOutcome → List (WorldEvent BuiltAdapter) → Prop where
  | recorded {d : RouteDecision} {outcome : ForensicRecordOutcome}
      {out : List (WorldEvent BuiltAdapter)} :
      decided env inputs context = .ok d → d.resolvedApprovalPosture.admitted = false →
      record env exportAdapter 0 (decisionKind d) .sensitiveFieldsRedacted
        { recordedAtUtc := context.decidedAtUtc } log = (.ok outcome, out) →
      RunCase env inputs adapterSelection additionalAdapters dispatchMode exportAdapter context log
        ⟨d, none, none, [outcome]⟩ out
  | planDenied {d : RouteDecision} {denial : DenialGuard} :
      decided env inputs context = .ok d → d.resolvedApprovalPosture.admitted = true →
      prepare env inputs adapterSelection additionalAdapters d = .ok (.inl denial) →
      RunCase env inputs adapterSelection additionalAdapters dispatchMode exportAdapter context log
        ⟨d, some denial, none, []⟩ log
  | delivered {d : RouteDecision} {prepared : Prepared} {trace : ExecutionTrace}
      {mid out : List (WorldEvent BuiltAdapter)} {records : List ForensicRecordOutcome} :
      Reached env inputs adapterSelection additionalAdapters context d prepared →
      deliver env dispatchMode prepared.selectedRoute prepared.validatedPlan prepared.registry
        context log = (.ok trace, mid) →
      recordStatuses env exportAdapter d { recordedAtUtc := context.decidedAtUtc } 0
        trace.statuses mid = (.ok records, out) →
      RunCase env inputs adapterSelection additionalAdapters dispatchMode exportAdapter context log
        ⟨d, none, some trace, records⟩ out

theorem run_cases {dispatchMode : DispatchMode}
    {exportAdapter : Option (ForensicEventExportAdapter BuiltAdapter)}
    {context : RouteResolutionContext} {log out : List (WorldEvent BuiltAdapter)}
    {outcome : ExecutionPipelineOutcome}
    (h : run env inputs adapterSelection additionalAdapters dispatchMode exportAdapter context
      log = (.ok outcome, out)) :
    RunCase env inputs adapterSelection additionalAdapters dispatchMode exportAdapter context log
      outcome out := by
  rw [run_eq] at h
  obtain ⟨d, hd, h⟩ := Traced.lift_bind_eq_ok.mp h
  by_cases hp : d.resolvedApprovalPosture.admitted = true
  · rw [if_pos hp] at h
    obtain ⟨prepared, hprep, h⟩ := Traced.lift_bind_eq_ok.mp h
    cases prepared with
    | inl denial =>
      cases h
      exact .planDenied hd hp hprep
    | inr prepared =>
      obtain ⟨trace, mid, ht, h⟩ := Traced.bind_eq_ok h
      obtain ⟨records, mid', hr, h⟩ := Traced.bind_eq_ok h
      cases h
      exact .delivered ⟨hd, hp, hprep⟩ ht hr
  · rw [if_neg hp] at h
    obtain ⟨record, mid, hr, h⟩ := Traced.bind_eq_ok h
    cases h
    exact .recorded hd (by simpa using hp) hr

theorem run_returned {dispatchMode : DispatchMode}
    {exportAdapter : Option (ForensicEventExportAdapter BuiltAdapter)}
    {context : RouteResolutionContext} {log out : List (WorldEvent BuiltAdapter)}
    {outcome : ExecutionPipelineOutcome}
    (h : run env inputs adapterSelection additionalAdapters dispatchMode exportAdapter context
      log = (.ok outcome, out)) :
    Returns env inputs adapterSelection additionalAdapters dispatchMode exportAdapter context log
      outcome out := by
  cases run_cases h with
  | recorded hd hp hr =>
    obtain ⟨hev, events, rfl, hexp⟩ := record_returned hr
    exact .recorded hd hp hev hexp
  | planDenied hd hp hprep => exact .planDenied hd hp hprep
  | delivered hreached ht hr =>
    obtain ⟨hall, events, rfl, hexp⟩ := recordStatuses_returned hr
    exact .delivered hreached ht hall hexp

/-- Everything that a returned run hands back carries its decision and its plan. -/
structure OutcomeCarries (env : RunEnvironment) (inputs : ExecutionPipelineInputs)
    (context : RouteResolutionContext) (outcome : ExecutionPipelineOutcome) : Prop where
  decision : decided env inputs context = .ok outcome.routeDecision
  statuses : ∀ trace, outcome.executionTrace = some trace →
    ∃ v, acceptedPlan env inputs = some v ∧
      ∀ status ∈ trace.statuses, StatusCarries outcome.routeDecision v status.status
  records : ∀ record ∈ outcome.forensicRecords,
    RecordCarries outcome.routeDecision (acceptedPlan env inputs) record.event.event

theorem Returns.carries {dispatchMode : DispatchMode}
    {exportAdapter : Option (ForensicEventExportAdapter BuiltAdapter)}
    {context : RouteResolutionContext} {log out : List (WorldEvent BuiltAdapter)}
    {outcome : ExecutionPipelineOutcome}
    (h : Returns env inputs adapterSelection additionalAdapters dispatchMode exportAdapter context
      log outcome out) : OutcomeCarries env inputs context outcome := by
  cases h with
  | recorded hd hp hev hexp =>
    refine ⟨hd, (by rintro _ ⟨⟩), fun record hr => ?_⟩
    rw [List.mem_singleton.mp hr, hev]
    exact decision_carries _ _ _ _ _
  | planDenied hd hp hprep => exact ⟨hd, (by rintro _ ⟨⟩), (by simp)⟩
  | delivered hr ht hall hexp =>
    obtain ⟨plan, capabilities, hfrom⟩ := prepare_eq_inr hr.admitted hr.prepared
    have hstatus := fun status hs =>
      statusCarries_of_fromRoute hfrom (delivered_fromRoute hfrom ht status hs)
    refine ⟨hr.decided, ?_, fun record hrec => ?_⟩
    · rintro _ ⟨⟩
      exact ⟨_, hfrom.acceptedPlan_eq, hstatus⟩
    · obtain ⟨status, hs, index, hev⟩ := exists_mem_of_forall₂ hall hrec
      rw [hev]
      exact observed_carries (hstatus status hs) _ hfrom.acceptedPlan_eq _ _ _

/-! ## Runs without evidence -/

variable (env inputs) in
/-- The decision admits, and the validator denies the plan. -/
def PlanDenied (context : RouteResolutionContext) : Prop :=
  ∃ d value plan capabilities denial, decided env inputs context = .ok d ∧
    d.resolvedApprovalPosture.admitted = true ∧ inputs.executionPlan = some value ∧
    env.loaders.executionPlan value = .ok plan ∧
    env.loaders.capabilityRegistry inputs.capabilityRegistry = .ok capabilities ∧
    ExecutionPlanValidator.validate env.digest env.planClock plan capabilities = .error denial

theorem prepare_eq_inl {denial : DenialGuard}
    (h : prepare env inputs adapterSelection additionalAdapters d = .ok (.inl denial)) :
    ∃ value plan capabilities, inputs.executionPlan = some value ∧
      env.loaders.executionPlan value = .ok plan ∧
      env.loaders.capabilityRegistry inputs.capabilityRegistry = .ok capabilities ∧
      ExecutionPlanValidator.validate env.digest env.planClock plan capabilities =
        .error denial := by
  obtain ⟨value, plan, capabilities, hplan, hload, hreg, ⟨g, hval, ⟨⟩⟩ |
    ⟨v, input, route, registry, -, -, -, -, ⟨⟩⟩⟩ := prepare_cases h
  exact ⟨value, plan, capabilities, hplan, hload, hreg, hval⟩

/-- A run that comes to delivery has no denied plan. -/
theorem Reached.notDenied {context : RouteResolutionContext}
    (h : Reached env inputs adapterSelection additionalAdapters context d prepared) :
    ¬ PlanDenied env inputs context := by
  rintro ⟨d', value, plan, capabilities, denial, -, -, hv, hl, hc, he⟩
  obtain ⟨plan', capabilities', hfrom⟩ := prepare_eq_inr h.admitted h.prepared
  obtain ⟨value', hv', hl'⟩ := hfrom.supplied
  cases hv.symm.trans hv'
  cases hl.symm.trans hl'
  cases hc.symm.trans hfrom.registry
  cases he.symm.trans hfrom.validated

/-- The evidence of a returned run: records of its request, each exported with its
reference where there is an export adapter. -/
structure EvidenceLeft (request : ExecutionRequest)
    (exportAdapter : Option (ForensicEventExportAdapter BuiltAdapter))
    (events : List (WorldEvent BuiltAdapter)) (outcome : ExecutionPipelineOutcome) : Prop where
  recorded : outcome.forensicRecords ≠ []
  about : ∀ record ∈ outcome.forensicRecords, record.event.event.requestId = request.requestId
  exported : ∀ adapter, exportAdapter = some adapter → ∀ record ∈ outcome.forensicRecords,
    ∃ reference, record.exportReference = some reference ∧
      .exported record.event.event (.exported reference) ∈ events

theorem ExportedAs.exported {exportAdapter : Option (ForensicEventExportAdapter BuiltAdapter)}
    {events : List (WorldEvent BuiltAdapter)} {records : List ForensicRecordOutcome}
    (h : ExportedAs exportAdapter events records)
    {adapter : ForensicEventExportAdapter BuiltAdapter} (ha : exportAdapter = some adapter) :
    ∀ record ∈ records, ∃ reference, record.exportReference = some reference ∧
      .exported record.event.event (.exported reference) ∈ events := by
  subst ha
  intro record hr
  obtain ⟨event, he, reference, rfl, href⟩ := exists_mem_of_forall₂ h hr
  exact ⟨reference, href, he⟩

theorem deliver_extends
    (hfrom : PreparedFrom env inputs adapterSelection additionalAdapters d prepared plan
      capabilities) {dispatchMode : DispatchMode} {context : RouteResolutionContext}
    {log out : List (WorldEvent BuiltAdapter)} {trace : ExecutionTrace}
    (h : deliver env dispatchMode prepared.selectedRoute prepared.validatedPlan prepared.registry
      context log = (.ok trace, out)) : ∃ events, out = log ++ events := by
  obtain ⟨events, -, he, -⟩ := deliver_told hfrom h
  exact ⟨events, he⟩

end

/-- Every request, status and record of a run carries its decision and its plan, and
the decision is about the run's request. -/
theorem run_evidence_attributed (env : RunEnvironment) (inputs : ExecutionPipelineInputs)
    (adapterSelection : Option AdapterSelection)
    (additionalAdapters : List CapabilityScopedAdapterSelection) (dispatchMode : DispatchMode)
    (exportAdapter : Option (ForensicEventExportAdapter BuiltAdapter))
    (context : RouteResolutionContext) (log : List (WorldEvent BuiltAdapter)) :
    ∃ events, (run env inputs adapterSelection additionalAdapters dispatchMode exportAdapter
        context log).2 = log ++ events ∧
      (∀ call ∈ calls events, ∃ d v, decided env inputs context = .ok d ∧
        acceptedPlan env inputs = some v ∧ RequestCarries d v call.2.1) ∧
      ExportsCarry env inputs context events ∧
      (∀ outcome, (run env inputs adapterSelection additionalAdapters dispatchMode exportAdapter
        context log).1 = .ok outcome → OutcomeCarries env inputs context outcome) ∧
      (∀ d, decided env inputs context = .ok d → ∃ request,
        env.loaders.executionRequest inputs.request = .ok request ∧
          ApprovalPostureResolver.Stamped request context d) := by
  obtain ⟨events, hreached, he⟩ := run_calls env inputs adapterSelection additionalAdapters
    dispatchMode exportAdapter context log
  obtain ⟨events', hexports, he'⟩ := run_exports env inputs adapterSelection additionalAdapters
    dispatchMode exportAdapter context log
  obtain rfl : events = events' := List.append_cancel_left (he.symm.trans he')
  refine ⟨events, he, fun call hc => ?_, hexports, fun outcome ho => ?_, fun d hd => ?_⟩
  · obtain ⟨d, prepared, hr, haddr⟩ := hreached call hc
    obtain ⟨plan, capabilities, hfrom⟩ := prepare_eq_inr hr.admitted hr.prepared
    exact ⟨d, _, hr.decided, hfrom.acceptedPlan_eq, haddr.carries hfrom⟩
  · exact (run_returned (Prod.ext ho rfl)).carries
  · obtain ⟨request, _, -, hr, hres⟩ := DecisionService.resolveRouteDecision_eq_ok hd
    exact ⟨request, hr, (ApprovalPostureResolver.resolve_spec hres).1⟩

/-- The requests of the two-step run, and its outcome. -/
theorem run_evidence_attributed_two_steps : ∃ events,
    (run (Fixture.twoStepRun Fixture.capabilities) Fixture.plannedInputs (some Fixture.fileWrite)
      Fixture.secondAdapter .perStep none Fixture.context []).2 = events ∧
    (calls events).length = 2 ∧
    ∀ call ∈ calls events, ∃ d v,
      decided (Fixture.twoStepRun Fixture.capabilities) Fixture.plannedInputs Fixture.context =
        .ok d ∧
      acceptedPlan (Fixture.twoStepRun Fixture.capabilities) Fixture.plannedInputs = some v ∧
      RequestCarries d v call.2.1 := by
  obtain ⟨events, he, hcalls, -⟩ := run_evidence_attributed
    (Fixture.twoStepRun Fixture.capabilities) Fixture.plannedInputs (some Fixture.fileWrite)
    Fixture.secondAdapter .perStep none Fixture.context []
  rw [List.nil_append] at he
  refine ⟨events, he, ?_, hcalls⟩
  have h := congrArg List.length Fixture.twoStepRun_calls
  rw [Fixture.calledCapabilities, he] at h
  simpa using h

/-- A run that returns leaves evidence exactly when its plan was not denied. -/
theorem run_evidence_left_iff (env : RunEnvironment) (inputs : ExecutionPipelineInputs)
    (adapterSelection : Option AdapterSelection)
    (additionalAdapters : List CapabilityScopedAdapterSelection) (dispatchMode : DispatchMode)
    (exportAdapter : Option (ForensicEventExportAdapter BuiltAdapter))
    (context : RouteResolutionContext) {log out : List (WorldEvent BuiltAdapter)}
    {outcome : ExecutionPipelineOutcome}
    (h : run env inputs adapterSelection additionalAdapters dispatchMode exportAdapter context
      log = (.ok outcome, out)) :
    ∃ request events, env.loaders.executionRequest inputs.request = .ok request ∧
      out = log ++ events ∧
      (EvidenceLeft request exportAdapter events outcome ↔ ¬ PlanDenied env inputs context) := by
  have hreturns := run_returned h
  have hcarries := hreturns.carries
  obtain ⟨request, _, -, hrequest, hres⟩ :=
    DecisionService.resolveRouteDecision_eq_ok hcarries.decision
  have hstamp := (ApprovalPostureResolver.resolve_spec hres).1
  have habout : ∀ record ∈ outcome.forensicRecords,
      record.event.event.requestId = request.requestId := fun record hr =>
    (hcarries.records record hr).requestId.trans hstamp.requestId
  cases hreturns with
  | recorded hd hp hev hexp =>
    refine ⟨request, _, hrequest, rfl, iff_of_true ⟨by simp, habout, fun _ ha =>
      hexp.exported ha⟩ ?_⟩
    rintro ⟨d', _, _, _, _, hd', hp', -⟩
    cases hd.symm.trans hd'
    rw [hp] at hp'
    cases hp'
  | planDenied hd hp hprep =>
    obtain ⟨value, plan, capabilities, hv, hl, hc, hval⟩ := prepare_eq_inl hprep
    refine ⟨request, [], hrequest, by simp, iff_of_false (fun he => he.recorded rfl) ?_⟩
    exact not_not.mpr ⟨_, value, plan, capabilities, _, hd, hp, hv, hl, hc, hval⟩
  | delivered hr ht hall hexp =>
    obtain ⟨plan, capabilities, hfrom⟩ := prepare_eq_inr hr.admitted hr.prepared
    obtain ⟨e₁, rfl⟩ := deliver_extends hfrom ht
    refine ⟨request, _, hrequest, List.append_assoc log e₁ _, iff_of_true ⟨?_, habout,
      fun _ ha record hrec => ?_⟩ hr.notDenied⟩
    · rintro rfl
      exact ExecutionTrace.nonempty _ (List.forall₂_nil_right_iff.mp hall)
    · obtain ⟨reference, href, hmem⟩ := hexp.exported ha record hrec
      exact ⟨reference, href, List.mem_append_right _ hmem⟩

end ExecutionPipelineService

/-! A run that awaits review, and one whose plan exceeds its own step count. -/

namespace Fixture

def awaitingReview : RunEnvironment :=
  environment { loaders with
    requesterTrust := fun _ => .ok { envelope with userIntentBasis := none } } twoStepDigest
    fun _ => .deliveredAllSteps

def unboundedPlan : RunEnvironment :=
  environment (planLoaders capabilities { twoStepPlan with declaredMaxStepCount := 1 })
    twoStepDigest fun _ => .deliveredAllSteps

end Fixture

namespace ExecutionPipelineService

theorem run_evidence_left_review : ∃ outcome out,
    run Fixture.awaitingReview Fixture.plannedInputs none [] .wholeRoute none Fixture.context [] =
      (.ok outcome, out) ∧
    ∃ request events,
      Fixture.awaitingReview.loaders.executionRequest Fixture.plannedInputs.request =
        .ok request ∧ out = [] ++ events ∧
      (EvidenceLeft request none events outcome ↔
        ¬ PlanDenied Fixture.awaitingReview Fixture.plannedInputs Fixture.context) := by
  have hok : (run Fixture.awaitingReview Fixture.plannedInputs none [] .wholeRoute none
      Fixture.context []).1.isOk = true := by
    decide +kernel
  obtain ⟨outcome, h⟩ := exists_of_fst_isOk hok
  exact ⟨outcome, _, h, run_evidence_left_iff Fixture.awaitingReview Fixture.plannedInputs none []
    .wholeRoute none Fixture.context h⟩

/-- The run whose plan is denied returns without a record. -/
theorem run_evidence_missing : ∃ outcome out,
    run Fixture.unboundedPlan Fixture.plannedInputs none [] .wholeRoute none Fixture.context [] =
      (.ok outcome, out) ∧ outcome.planDenial.isSome = true ∧ outcome.forensicRecords = [] := by
  have hok : (run Fixture.unboundedPlan Fixture.plannedInputs none [] .wholeRoute none
      Fixture.context []).1.map (fun outcome =>
        (outcome.planDenial.isSome, outcome.forensicRecords.length)) = .ok (true, 0) := by
    decide +kernel
  cases h : run Fixture.unboundedPlan Fixture.plannedInputs none [] .wholeRoute none
      Fixture.context [] with
  | mk result out =>
    cases result with
    | error e =>
      rw [h] at hok
      cases hok
    | ok outcome =>
      rw [h] at hok
      simp only [Except.map, Except.ok.injEq, Prod.mk.injEq, List.length_eq_zero_iff] at hok
      exact ⟨outcome, out, rfl, hok.1, hok.2⟩

end ExecutionPipelineService

end FaLocal
