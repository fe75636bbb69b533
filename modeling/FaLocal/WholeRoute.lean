import FaLocal.Footprint
import FaLocal.StepLoop

/-!
# Whole-route delivery

The adapter of the requested capability is called at most once, with the whole
route. A returned trace is the admission, one status for each step put in
progress, and the status that the single answer calls for.
-/
namespace FaLocal.ExecutionService

section
variable {route : SelectedExecutionRoute} {link : ExecutionPlanId × String}
  {startedAtUtc : TimestampUtc}

/-- The statuses put in progress, for any list of steps. -/
theorem buildInProgressStatuses_ok {stepIds : List String}
    {statuses : List ValidatedExecutionStatus} (hl : planLink route = .ok link)
    (h : buildInProgressStatusesFromRoute route stepIds startedAtUtc = .ok statuses) :
    statuses.map (·.status) = stepIds.map (inProgressStatus route link startedAtUtc) := by
  simp only [buildInProgressStatusesFromRoute, hl, bind, Except.bind] at h
  exact mapM_emitStatus_ok h

end

section
variable {α : Type} {world : DeliveryWorld α} {route : SelectedExecutionRoute}
  {link : ExecutionPlanId × String} {registry : AdapterRegistry α} {adapter : α}
  {context : CoordinationContext} {log out : List (WorldEvent α)} {trace : ExecutionTrace}

theorem pushInProgress_ok {stepIds : List String} {startedAtUtc : TimestampUtc}
    {statuses : List ValidatedExecutionStatus} (hl : planLink route = .ok link)
    (h : pushInProgress route stepIds startedAtUtc log = (.ok statuses, out)) :
    out = log ++ stepIds.map .inProgress ∧
      statuses.map (·.status) = stepIds.map (inProgressStatus route link startedAtUtc) := by
  rw [pushInProgress_apply] at h
  split at h
  · rename_i built hb
    cases h
    exact ⟨rfl, buildInProgressStatuses_ok hl hb⟩
  · cases h

/-- The request that carries the whole route. -/
def routeRequest (route : SelectedExecutionRoute) (link : ExecutionPlanId × String) :
    AdapterDeliveryRequest where
  routeDecisionId := route.routeDecisionId
  correlationId := route.correlationId
  requestId := route.requestId
  resolvedApprovalPosture := route.resolvedApprovalPosture
  requestedCapabilityId := route.requestedCapabilityId
  executionPlanId := link.1
  stablePlanHash := link.2
  declaredStepIds := route.declaredStepIds
  declaredCapabilityIds := route.declaredCapabilityIds
  declaredFallbackReferences := route.declaredFallbackReferences

theorem adapterRequestFor_eq_ok {request : AdapterDeliveryRequest} :
    adapterRequestFor route = .ok request ↔
      validateSelectedRouteForDelivery route = .ok () ∧
        ∃ link, planLink route = .ok link ∧ request = routeRequest route link := by
  rw [adapterRequestFor, seq_eq_ok]
  refine and_congr_right fun _ => ?_
  cases hp : route.executionPlanId with
  | none => simp [planLink, hp]
  | some planId =>
    cases hh : route.stablePlanHash with
    | none => simp [planLink, hp, hh]
    | some planHash =>
      simp [planLink, hp, hh, pure, Except.pure, routeRequest, eq_comm]

/-! ## The one call -/

open WorldEvent (Quiet quiet_closed quiet_inProgress)

variable (world route adapter registry context)

/-- A delivery through an adapter is one call with the whole route, behind its
checks and before the steps that it puts in progress. -/
theorem deliverViaAdapter_appends {P R : List (WorldEvent α) → Prop} (hP : Progressive P)
    (hnil : R []) (happ : ∀ {a b}, R a → P b → R (a ++ b))
    (hcall : ∀ link result, planLink route = .ok link →
      R [.called adapter (routeRequest route link) result]) :
    (deliverViaAdapter world route adapter context).Appends R := by
  rw [deliverViaAdapter]
  refine Traced.appends_lift_bind hnil fun _ _ => Traced.appends_lift_bind hnil fun request hreq =>
    Traced.appends_lift_bind hnil fun admitted _ => ?_
  obtain ⟨-, link, hl, rfl⟩ := adapterRequestFor_eq_ok.mp hreq
  have hone : (deliverRoute world adapter (routeRequest route link)).Appends R :=
    Traced.appends_perform fun log => hcall link _ hl
  refine hone.bind happ hP.nil fun result => ?_
  have hpush : ∀ stepIds, (pushInProgress route stepIds context.startedAtUtc).Appends P :=
    fun stepIds => pushInProgress_appends hP stepIds context.startedAtUtc
  cases result with
  | deliveredAllSteps =>
    exact hP.bind (hpush _) fun _ => hP.bind (hP.lift _) fun _ => hP.lift _
  | completedWithDeclaredFallback stepId fallbackStepId degradedSubtype =>
    exact hP.bind (hP.lift _) fun _ => hP.bind (hP.lift _) fun _ => hP.bind (hpush _) fun _ =>
      hP.bind (hP.lift _) fun _ => hP.lift _
  | failedAtDeclaredStep stepId failureSummary =>
    exact hP.bind (hP.lift _) fun _ => hP.bind (hP.lift _) fun _ => hP.bind (hpush _) fun _ =>
      hP.bind (hP.lift _) fun _ => hP.lift _
  | canceledAtDeclaredStep stepId =>
    exact hP.bind (hP.lift _) fun _ => hP.bind (hpush _) fun _ => hP.bind (hP.lift _) fun _ =>
      hP.lift _
  | dependencyUnavailable summary =>
    exact hP.bind (hP.lift _) fun _ => hP.bind (hP.lift _) fun _ => hP.lift _
  | unsupported summary => exact hP.bind (hP.lift _) fun _ => hP.lift _

theorem deliverSelectedRoute_appends {P R : List (WorldEvent α) → Prop} (hP : Progressive P)
    (hnil : R []) (happ : ∀ {a b}, R a → P b → R (a ++ b))
    (hcall : ∀ adapter link result, registry.resolve route.requestedCapabilityId = some adapter →
      planLink route = .ok link → R [.called adapter (routeRequest route link) result]) :
    (deliverSelectedRouteViaRegistry world route registry context).Appends R := by
  rw [deliverSelectedRouteViaRegistry]
  refine Traced.appends_lift_bind hnil fun _ _ => ?_
  cases ha : registry.resolve route.requestedCapabilityId with
  | some adapter =>
    exact deliverViaAdapter_appends world route adapter context hP hnil happ
      fun link result hl => hcall adapter link result ha hl
  | none =>
    exact Traced.appends_lift_bind hnil fun _ _ => Traced.appends_lift_bind hnil fun _ _ =>
      Traced.appends_lift hnil _

theorem quiet_progressive : Progressive (Quiet (α := α)) := ⟨quiet_closed, quiet_inProgress⟩

/-- The registered adapter is called at most once, with the whole route. -/
theorem deliverSelectedRoute_oneCall :
    (deliverSelectedRouteViaRegistry world route registry context).Appends fun events =>
      WorldEvent.calls events = [] ∨ ∃ adapter link result,
        registry.resolve route.requestedCapabilityId = some adapter ∧
        planLink route = .ok link ∧
        WorldEvent.calls events = [(adapter, routeRequest route link, result)] := by
  refine deliverSelectedRoute_appends world route registry context quiet_progressive (.inl rfl)
    (fun {a b} ha hb => ?_) fun adapter link result hr hl => .inr ⟨adapter, link, result, hr, hl, rfl⟩
  rwa [WorldEvent.calls_append, show WorldEvent.calls b = [] from hb, List.append_nil]

/-! ## Returned traces -/

/-- The statuses of a trace: the admission, the steps put in progress, and the end. -/
def toldStatuses (route : SelectedExecutionRoute) (link : ExecutionPlanId × String)
    (context : CoordinationContext) (stepIds : List String) (final : ExecutionStatus) :
    List ExecutionStatus :=
  routeStatus route link .admittedNotStarted context.coordinatedAtUtc
      "execution admitted for external bounded delivery" ::
    stepIds.map (inProgressStatus route link context.startedAtUtc) ++ [final]

/-- The last status of a whole-route trace, by the answer and the steps put in progress. -/
inductive WholeFinal (route : SelectedExecutionRoute) (link : ExecutionPlanId × String)
    (context : CoordinationContext) :
    List AdapterDeliveryResult → List String → ExecutionStatus → Prop where
  | unregistered : WholeFinal route link context [] []
      (unavailableDependencyStatus route link context.completedAtUtc
        (noAdapterSummary route.requestedCapabilityId))
  | delivered (stepIds : List String) : WholeFinal route link context [.deliveredAllSteps] stepIds
      (completedStatus route link context.startedAtUtc context.completedAtUtc)
  | fallback (stepIds : List String) (stepId fallbackStepId : String) {subtype : DegradedSubtype} :
      isExplicitFallbackSubtype (some subtype) = true →
      WholeFinal route link context
        [.completedWithDeclaredFallback stepId fallbackStepId subtype] stepIds
        (constrainedStatus route link context.startedAtUtc context.completedAtUtc subtype
          "external delivery completed with declared fallback path")
  | failed (stepIds : List String) (stepId summary : String) :
      WholeFinal route link context [.failedAtDeclaredStep stepId summary] stepIds
        (failedStatus route link context.startedAtUtc context.completedAtUtc summary)
  | canceled {stepIds : List String} {stepId : String} : stepId ∈ stepIds →
      WholeFinal route link context [.canceledAtDeclaredStep stepId] stepIds
        (canceledStatus route link context.startedAtUtc context.completedAtUtc stepId)
  | unavailable (summary : String) :
      WholeFinal route link context [.dependencyUnavailable summary] []
        (unavailableDependencyStatus route link context.completedAtUtc summary)

variable {world route adapter registry context}

theorem traceNew_eq_ok {statuses : List ValidatedExecutionStatus} :
    ExecutionTrace.new statuses = .ok trace ↔ trace.statuses = statuses := by
  rw [ExecutionTrace.new]
  constructor
  · intro h
    split at h
    · cases h
    · cases h
      rfl
  · rintro rfl
    rw [dif_neg trace.nonempty]

/-- A declared step is among the steps through it. -/
theorem mem_declaredStepsThroughRoute {stepId message : String} {stepIds : List String}
    (h : declaredStepsThroughRoute route stepId message = .ok stepIds) : stepId ∈ stepIds := by
  rw [declaredStepsThroughRoute] at h
  cases hi : route.declaredStepIds.idxOf? stepId with
  | none => simp [hi] at h
  | some i =>
    simp only [hi, Except.ok.injEq] at h
    obtain ⟨hlt, he, -⟩ := List.idxOf?_eq_some_iff.mp hi
    rw [← h, List.mem_take_iff_getElem]
    exact ⟨i, by omega, he⟩

/-- The end of a branch that puts steps in progress. -/
theorem pushThenEnd_ok {stepIds : List String} {startedAtUtc : TimestampUtc}
    {final : FaLocalResult ValidatedExecutionStatus} {admitted : ValidatedExecutionStatus}
    (hl : planLink route = .ok link)
    (h : (pushInProgress route stepIds startedAtUtc >>= fun inProgress =>
      Traced.lift final >>= fun last =>
        Traced.lift (ExecutionTrace.new (admitted :: inProgress ++ [last]))) log =
        (.ok trace, out)) :
    ∃ last, final = .ok last ∧ out = log ++ stepIds.map .inProgress ∧
      trace.statuses.map (·.status) = admitted.status ::
        stepIds.map (inProgressStatus route link startedAtUtc) ++ [last.status] := by
  obtain ⟨statuses, mid, hp, h⟩ := Traced.bind_eq_ok h
  obtain ⟨rfl, hs⟩ := pushInProgress_ok hl hp
  obtain ⟨last, hlast, h⟩ := Traced.lift_bind_eq_ok.mp h
  simp only [Traced.lift_apply, Prod.mk.injEq, traceNew_eq_ok] at h
  obtain ⟨ht, rfl⟩ := h
  exact ⟨last, hlast, rfl, by simp [ht, hs]⟩

/-- The answers of a log, in order. -/
def answers (events : List (WorldEvent α)) : List AdapterDeliveryResult :=
  (WorldEvent.calls events).map (·.2.2)

@[simp] theorem progress_map_inProgress (stepIds : List String) :
    WorldEvent.progress (stepIds.map .inProgress : List (WorldEvent α)) = stepIds := by
  induction stepIds with
  | nil => rfl
  | cons stepId stepIds ih => simp [ih]

@[simp] theorem calls_map_inProgress (stepIds : List String) :
    WorldEvent.calls (stepIds.map .inProgress : List (WorldEvent α)) = [] :=
  quiet_inProgress stepIds

/-- The call, and then the steps that it put in progress. -/
theorem called_events {request : AdapterDeliveryRequest} {result : AdapterDeliveryResult}
    {stepIds : List String} {final : ExecutionStatus}
    (ht : trace.statuses.map (·.status) = toldStatuses route link context stepIds final)
    (hf : WholeFinal route link context [result] stepIds final) :
    ∃ events final', log ++ [.called adapter request result] ++ stepIds.map .inProgress =
        log ++ events ∧
      trace.statuses.map (·.status) =
        toldStatuses route link context (WorldEvent.progress events) final' ∧
      WholeFinal route link context (answers events) (WorldEvent.progress events) final' :=
  ⟨.called adapter request result :: stepIds.map .inProgress, final, by simp, by simpa using ht,
    by simpa [answers] using hf⟩

theorem buildAdmitted_eq_ok {updatedAtUtc : TimestampUtc} {admitted : ValidatedExecutionStatus}
    (hl : planLink route = .ok link)
    (h : buildAdmittedNotStartedStatusFromRoute route updatedAtUtc = .ok admitted) :
    admitted.status = routeStatus route link .admittedNotStarted updatedAtUtc
      "execution admitted for external bounded delivery" := by
  simp only [buildAdmittedNotStartedStatusFromRoute, hl, bind, Except.bind] at h
  exact emitStatus_eq_ok.mp h

theorem buildUnavailable_eq_ok {updatedAtUtc : TimestampUtc} {summary : String}
    {last : ValidatedExecutionStatus} (hl : planLink route = .ok link)
    (h : buildUnavailableDependencyStatusFromRoute route updatedAtUtc summary = .ok last) :
    last.status = unavailableDependencyStatus route link updatedAtUtc summary := by
  simp only [buildUnavailableDependencyStatusFromRoute, hl, bind, Except.bind] at h
  exact emitStatus_eq_ok.mp h

/-- A trace that an adapter's answer led to. -/
theorem deliverViaAdapter_returned (hl : planLink route = .ok link)
    (h : deliverViaAdapter world route adapter context log = (.ok trace, out)) :
    ∃ events final, out = log ++ events ∧
      trace.statuses.map (·.status) =
        toldStatuses route link context (WorldEvent.progress events) final ∧
      WholeFinal route link context (answers events) (WorldEvent.progress events) final := by
  rw [deliverViaAdapter] at h
  obtain ⟨-, -, h⟩ := Traced.lift_bind_eq_ok.mp h
  obtain ⟨request, hreq, h⟩ := Traced.lift_bind_eq_ok.mp h
  obtain ⟨admitted, ha, h⟩ := Traced.lift_bind_eq_ok.mp h
  have hadmitted := buildAdmitted_eq_ok hl ha
  rw [deliverRoute, Traced.bind_of_ok (Traced.perform_apply _ _)] at h
  -- one case for each answer
  cases hres : world.deliverRoute log adapter request with
  | deliveredAllSteps =>
    simp only [hres] at h
    obtain ⟨last, hlast, rfl, ht⟩ := pushThenEnd_ok hl h
    simp only [buildCompletedStatusFromRoute, hl, bind, Except.bind] at hlast
    rw [hadmitted, emitStatus_eq_ok.mp hlast] at ht
    exact called_events ht (.delivered _)
  | completedWithDeclaredFallback stepId fallbackStepId subtype =>
    simp only [hres] at h
    obtain ⟨_, hv, h⟩ := Traced.lift_bind_eq_ok.mp h
    obtain ⟨stepIds, -, h⟩ := Traced.lift_bind_eq_ok.mp h
    obtain ⟨last, hlast, rfl, ht⟩ := pushThenEnd_ok hl h
    simp only [buildCompletedWithConstraintsStatusFromRoute, hl, bind, Except.bind] at hlast
    rw [hadmitted, emitStatus_eq_ok.mp hlast] at ht
    simp only [validateFallbackResult, seq_eq_ok, require_eq_ok] at hv
    exact called_events ht (.fallback _ _ _ hv.1)
  | failedAtDeclaredStep stepId summary =>
    simp only [hres] at h
    obtain ⟨-, -, h⟩ := Traced.lift_bind_eq_ok.mp h
    obtain ⟨stepIds, -, h⟩ := Traced.lift_bind_eq_ok.mp h
    obtain ⟨last, hlast, rfl, ht⟩ := pushThenEnd_ok hl h
    simp only [buildFailedStatusFromRoute, hl, bind, Except.bind] at hlast
    rw [hadmitted, emitStatus_eq_ok.mp hlast] at ht
    exact called_events ht (.failed _ _ _)
  | canceledAtDeclaredStep stepId =>
    simp only [hres] at h
    obtain ⟨stepIds, hs, h⟩ := Traced.lift_bind_eq_ok.mp h
    obtain ⟨last, hlast, rfl, ht⟩ := pushThenEnd_ok hl h
    simp only [buildCanceledStatusFromRoute, hl, bind, Except.bind] at hlast
    rw [hadmitted, emitStatus_eq_ok.mp hlast] at ht
    exact called_events ht (.canceled (mem_declaredStepsThroughRoute hs))
  | dependencyUnavailable summary =>
    simp only [hres] at h
    obtain ⟨-, -, h⟩ := Traced.lift_bind_eq_ok.mp h
    obtain ⟨last, hlast, h⟩ := Traced.lift_bind_eq_ok.mp h
    simp only [Traced.lift_apply, Prod.mk.injEq, traceNew_eq_ok] at h
    obtain ⟨ht, rfl⟩ := h
    refine ⟨[.called adapter request (.dependencyUnavailable summary)], _, rfl, ?_,
      .unavailable summary⟩
    simp [ht, hadmitted, buildUnavailable_eq_ok hl hlast, toldStatuses]
  | unsupported summary =>
    simp only [hres] at h
    obtain ⟨-, -, h⟩ := Traced.lift_bind_eq_ok.mp h
    simp at h

/-- A trace that whole-route delivery returned. -/
theorem deliverSelectedRoute_returned (hl : planLink route = .ok link)
    (h : deliverSelectedRouteViaRegistry world route registry context log = (.ok trace, out)) :
    ∃ events final, out = log ++ events ∧
      trace.statuses.map (·.status) =
        toldStatuses route link context (WorldEvent.progress events) final ∧
      WholeFinal route link context (answers events) (WorldEvent.progress events) final := by
  rw [deliverSelectedRouteViaRegistry] at h
  obtain ⟨-, -, h⟩ := Traced.lift_bind_eq_ok.mp h
  cases ha : registry.resolve route.requestedCapabilityId with
  | some adapter =>
    simp only [ha] at h
    exact deliverViaAdapter_returned hl h
  | none =>
    simp only [ha] at h
    obtain ⟨admitted, hadmitted, h⟩ := Traced.lift_bind_eq_ok.mp h
    obtain ⟨last, hlast, h⟩ := Traced.lift_bind_eq_ok.mp h
    simp only [Traced.lift_apply, Prod.mk.injEq, traceNew_eq_ok] at h
    obtain ⟨ht, rfl⟩ := h
    refine ⟨[], _, by simp, ?_, .unregistered⟩
    simp [ht, buildAdmitted_eq_ok hl hadmitted, buildUnavailable_eq_ok hl hlast, toldStatuses]

end

end FaLocal.ExecutionService
