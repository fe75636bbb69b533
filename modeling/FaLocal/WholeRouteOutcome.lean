import FaLocal.DeliveredWork
import FaLocal.SummaryBound
import FaLocal.WholeRoute

/-!
# Outcomes of whole-route delivery

What the single answer of the adapter leads to: the steps shown in progress and
the last status, or an error. An answer that fits the plan is never an error.
-/
namespace FaLocal.ExecutionService

open ExecutionPlanValidator (Accepted)
open ExecutionStatus (TextsFit FieldsFit validateState validateTimes requireAdmittedPosture
  requirePosture requirePlanLink requireSome requireNone)

section
variable (plan : ExecutionPlan) (route : SelectedExecutionRoute)
  (link : ExecutionPlanId × String) (context : CoordinationContext)

/-- The steps shown in progress and the last status, by the answer that was
given. Without a registered adapter there is no answer. -/
inductive Told : Option AdapterDeliveryResult → List String → ExecutionStatus → Prop where
  | unregistered : Told none [] (unavailableDependencyStatus route link context.completedAtUtc
      (noAdapterSummary route.requestedCapabilityId))
  | delivered : Told (some .deliveredAllSteps) (plan.steps.map (·.stepId))
      (completedStatus route link context.startedAtUtc context.completedAtUtc)
  | fallback {pre post : List ExecutionPlanStep} {fallbackStep : ExecutionPlanStep}
      {stepId : String} {subtype : DegradedSubtype} :
      plan.steps = pre ++ fallbackStep :: post →
      ⟨stepId, fallbackStep.stepId⟩ ∈ plan.fallbackReferences →
      isExplicitFallbackSubtype (some subtype) = true →
      Told (some (.completedWithDeclaredFallback stepId fallbackStep.stepId subtype))
        ((pre ++ [fallbackStep]).map (·.stepId))
        (constrainedStatus route link context.startedAtUtc context.completedAtUtc subtype
          "external delivery completed with declared fallback path")
  | failed {pre post : List ExecutionPlanStep} {step : ExecutionPlanStep} {summary : String} :
      plan.steps = pre ++ step :: post → isBoundedText summary = true →
      Told (some (.failedAtDeclaredStep step.stepId summary)) ((pre ++ [step]).map (·.stepId))
        (failedStatus route link context.startedAtUtc context.completedAtUtc summary)
  | canceled {pre post : List ExecutionPlanStep} {step : ExecutionPlanStep} :
      plan.steps = pre ++ step :: post →
      Told (some (.canceledAtDeclaredStep step.stepId)) ((pre ++ [step]).map (·.stepId))
        (canceledStatus route link context.startedAtUtc context.completedAtUtc step.stepId)
  | unavailable {summary : String} : isBoundedText summary = true →
      Told (some (.dependencyUnavailable summary)) []
        (unavailableDependencyStatus route link context.completedAtUtc summary)

end

/-- The answers that a plan cannot account for. -/
def Rejected (plan : ExecutionPlan) : AdapterDeliveryResult → Prop
  | .deliveredAllSteps => False
  | .completedWithDeclaredFallback stepId fallbackStepId degradedSubtype =>
    isExplicitFallbackSubtype (some degradedSubtype) = false ∨
      stepId ∉ plan.steps.map (·.stepId) ∨ fallbackStepId ∉ plan.steps.map (·.stepId) ∨
      ⟨stepId, fallbackStepId⟩ ∉ plan.fallbackReferences
  | .failedAtDeclaredStep stepId failureSummary =>
    stepId ∉ plan.steps.map (·.stepId) ∨ isBoundedText failureSummary = false
  | .canceledAtDeclaredStep stepId => stepId ∉ plan.steps.map (·.stepId)
  | .dependencyUnavailable summary => isBoundedText summary = false
  | .unsupported _ => True

/-! ## The last status -/

theorem display_size {k : IdKind} (i : UuidId k) : i.display.utf8ByteSize = 36 := by
  have hascii : ∀ c ∈ '-' :: hexDigits, c.utf8Size = 1 := forall_mem_of_all (by decide)
  rw [UuidId.display, utf8ByteSize_ofList]
  refine (ApprovalPostureResolver.byteSize_of_ascii fun c hc => hascii c ?_).trans (hyphenated_length i.uuid)
  exact List.mem_cons.mpr (mem_hyphenated hc)

theorem noAdapterSummary_fits (capabilityId : CapabilityId) :
    isBoundedText (noAdapterSummary capabilityId) = true := by
  have hsize : "no delivery adapter registered for capability ".utf8ByteSize = 46 :=
    utf8ByteSize_of_chars (by decide)
  have hid := display_size capabilityId
  exact (isBoundedText_append hsize (by omega)).mpr (by omega)

section
variable {plan : ExecutionPlan} {route : SelectedExecutionRoute}
  {link : ExecutionPlanId × String} {context : CoordinationContext}
  {answer : Option AdapterDeliveryResult} {stepIds : List String} {final : ExecutionStatus}

theorem Told.fields (h : Told plan route link context answer stepIds final)
    (hst : Stampable route link context.startedAtUtc context.completedAtUtc) :
    FieldsFit final := by
  have ho := hst.ordered
  have hposture := hst.posture
  cases h with
  | @fallback _ _ _ _ subtype _ _ hsub =>
    refine ⟨rfl, hst.hash, ?_, ?_⟩
    · simp [validateTimes, constrainedStatus, routeStatus, seq_eq_ok, ho]
    · cases subtype <;> simp only [isExplicitFallbackSubtype, reduceCtorEq] at hsub <;>
        simpa [validateState, requireAdmittedPosture, requirePosture, requirePlanLink, requireNone,
          requireSome, constrainedStatus, routeStatus, seq_eq_ok] using hposture
  | _ =>
    refine ⟨rfl, hst.hash, ?_, ?_⟩
    · simp [validateTimes, completedStatus, failedStatus, canceledStatus,
        unavailableDependencyStatus, routeStatus, seq_eq_ok, ho]
    · simpa [validateState, requireAdmittedPosture, requirePosture, requirePlanLink, requireNone,
        requireSome, completedStatus, failedStatus, canceledStatus, unavailableDependencyStatus,
        routeStatus, ExecutionStatus.validateDegraded, seq_eq_ok] using hposture

theorem Told.texts (h : Told plan route link context answer stepIds final)
    (hs : SchemaShaped plan) : TextsFit final := by
  cases h with
  | unregistered => exact ⟨rfl, rfl, rfl, noAdapterSummary_fits _⟩
  | delivered =>
    have hsize : allStepsSummary.utf8ByteSize = 55 := utf8ByteSize_of_chars (by decide)
    have hfit : isBoundedText allStepsSummary = true := isBoundedText_iff.mpr (by omega)
    exact ⟨rfl, hfit, rfl, hfit⟩
  | fallback =>
    have hsize : "external delivery completed with declared fallback path".utf8ByteSize = 55 :=
      utf8ByteSize_of_chars (by decide)
    have hfit : isBoundedText "external delivery completed with declared fallback path" = true :=
      isBoundedText_iff.mpr (by omega)
    exact ⟨rfl, hfit, rfl, hfit⟩
  | failed _ hfit => exact ⟨rfl, rfl, hfit, hfit⟩
  | @canceled pre post step he =>
    have hsize : "external delivery canceled during declared step ".utf8ByteSize = 48 :=
      utf8ByteSize_of_chars (by decide)
    have hid := isValidStepId_size (hs.stepIds step (by simp [he]))
    exact ⟨rfl, rfl, rfl, (isBoundedText_append hsize (by omega)).mpr (by omega)⟩
  | unavailable hfit => exact ⟨rfl, rfl, rfl, hfit⟩

/-- Only declared steps are shown in progress. -/
theorem Told.declared (h : Told plan route link context answer stepIds final) {stepId : String}
    (hmem : stepId ∈ stepIds) : stepId ∈ plan.steps.map (·.stepId) := by
  have hsplit : ∀ {pre post : List ExecutionPlanStep} {step : ExecutionPlanStep},
      plan.steps = pre ++ step :: post → stepId ∈ (pre ++ [step]).map (·.stepId) →
      stepId ∈ plan.steps.map (·.stepId) := by
    intro pre post step he hmem
    rw [he, List.append_cons, List.map_append]
    exact List.mem_append_left _ hmem
  cases h with
  | unregistered => cases hmem
  | delivered => exact hmem
  | fallback he => exact hsplit he hmem
  | failed he => exact hsplit he hmem
  | canceled he => exact hsplit he hmem
  | unavailable => cases hmem

theorem toldStatuses_inj {stepIds' : List String} {final' : ExecutionStatus}
    (h : toldStatuses route link context stepIds final =
      toldStatuses route link context stepIds' final') : stepIds = stepIds' ∧ final = final' := by
  obtain ⟨hsteps, hfinal⟩ := List.append_inj' (List.cons.inj h).2 rfl
  refine ⟨List.map_injective_iff.mpr (fun s t hst => ?_) hsteps, List.singleton_inj.mp hfinal⟩
  exact Option.some.inj (congrArg ExecutionStatus.currentStep hst)

end

/-! ## Answers and plans -/

section
variable {digest : PlanDigest} {capabilities : CapabilityRegistry}
  {context : CoordinationContext} {d : RouteDecision} {v : ValidatedExecutionPlan}
  {route : SelectedExecutionRoute} {link : ExecutionPlanId × String}

theorem mem_steps_iff {plan : ExecutionPlan} {stepId : String} :
    stepId ∈ plan.steps.map (·.stepId) ↔
      ∃ pre step post, plan.steps = pre ++ step :: post ∧ step.stepId = stepId := by
  constructor
  · intro h
    obtain ⟨step, hs, he⟩ := List.mem_map.mp h
    obtain ⟨pre, post, hsplit⟩ := List.append_of_mem hs
    exact ⟨pre, step, post, hsplit, he⟩
  · rintro ⟨pre, step, post, hsplit, rfl⟩
    exact List.mem_map_of_mem (by simp [hsplit])

/-- Every answer calls for a trace, or is rejected. -/
theorem told_or_rejected (hacc : Accepted digest v.plan capabilities)
    (result : AdapterDeliveryResult) :
    (∃ stepIds final, Told v.plan route link context (some result) stepIds final) ∨
      Rejected v.plan result := by
  cases result with
  | deliveredAllSteps => exact .inl ⟨_, _, .delivered⟩
  | completedWithDeclaredFallback stepId fallbackStepId degradedSubtype =>
    by_cases hsub : isExplicitFallbackSubtype (some degradedSubtype) = true
    · by_cases href : ⟨stepId, fallbackStepId⟩ ∈ v.plan.fallbackReferences
      · obtain ⟨pre, fallbackStep, post, he, rfl⟩ :=
          mem_steps_iff.mp (fallbacksDeclared_of_accepted hacc _ href)
        exact .inl ⟨_, _, .fallback he href hsub⟩
      · exact .inr (.inr (.inr (.inr href)))
    · exact .inr (.inl (by simpa using hsub))
  | failedAtDeclaredStep stepId failureSummary =>
    by_cases hmem : stepId ∈ v.plan.steps.map (·.stepId)
    · by_cases hfit : isBoundedText failureSummary = true
      · obtain ⟨pre, step, post, he, rfl⟩ := mem_steps_iff.mp hmem
        exact .inl ⟨_, _, .failed he hfit⟩
      · exact .inr (.inr (by simpa using hfit))
    · exact .inr (.inl hmem)
  | canceledAtDeclaredStep stepId =>
    by_cases hmem : stepId ∈ v.plan.steps.map (·.stepId)
    · obtain ⟨pre, step, post, he, rfl⟩ := mem_steps_iff.mp hmem
      exact .inl ⟨_, _, .canceled he⟩
    · exact .inr hmem
  | dependencyUnavailable summary =>
    by_cases hfit : isBoundedText summary = true
    · exact .inl ⟨_, _, .unavailable hfit⟩
    · exact .inr (by simpa [Rejected] using hfit)
  | unsupported summary => exact .inr trivial

theorem idxOf?_split {β : Type} [BEq β] [LawfulBEq β] {pre post : List β} {b : β}
    (h : b ∉ pre) : (pre ++ b :: post).idxOf? b = some pre.length := by
  induction pre with
  | nil => simp [List.idxOf?_cons]
  | cons c pre ih =>
    have hne : (c == b) = false := by
      rw [beq_eq_false_iff_ne]
      rintro rfl
      exact h List.mem_cons_self
    have htail := ih fun hmem => h (List.mem_cons_of_mem _ hmem)
    simp [List.idxOf?_cons, hne, htail]

theorem declaredStepsThrough_split (hnd : (v.plan.steps.map (·.stepId)).Nodup)
    {pre post : List ExecutionPlanStep} {step : ExecutionPlanStep}
    (he : v.plan.steps = pre ++ step :: post) (message : String) :
    declaredStepsThroughRoute (selectedRoute d v) step.stepId message =
      .ok ((pre ++ [step]).map (·.stepId)) := by
  have hids : (selectedRoute d v).declaredStepIds =
      pre.map (·.stepId) ++ step.stepId :: post.map (·.stepId) := by
    simp [selectedRoute, RoutingService.routablePlanSelection, he]
  have hlist : pre.map (·.stepId) ++ step.stepId :: post.map (·.stepId) =
      (pre ++ [step]).map (·.stepId) ++ post.map (·.stepId) := by
    simp
  have hnotin : step.stepId ∉ pre.map (·.stepId) := by
    rw [he, List.map_append, List.map_cons, List.nodup_append] at hnd
    exact fun hmem => hnd.2.2 _ hmem _ List.mem_cons_self rfl
  rw [declaredStepsThroughRoute, hids, idxOf?_split hnotin, hlist]
  exact congrArg Except.ok (List.take_left' (by simp))

theorem declaredStepsThrough_missing {stepId : String}
    (h : stepId ∉ v.plan.steps.map (·.stepId)) (message : String) :
    declaredStepsThroughRoute (selectedRoute d v) stepId message =
      .error (contractInvalid message) := by
  have hroute : (selectedRoute d v).declaredStepIds = v.plan.steps.map (·.stepId) := rfl
  rw [declaredStepsThroughRoute, hroute, List.idxOf?_eq_none_iff.mpr h]

/-! ## Deliveries -/

theorem buildInProgress_list_returns (hl : planLink route = .ok link)
    (hst : Stampable route link context.startedAtUtc context.completedAtUtc)
    {stepIds : List String} (hids : ∀ stepId ∈ stepIds, isValidStepId stepId = true) :
    ∃ statuses, buildInProgressStatusesFromRoute route stepIds context.startedAtUtc =
      .ok statuses := by
  simp only [buildInProgressStatusesFromRoute, hl, bind, Except.bind]
  refine mapM_emitStatus_of_valid fun stepId hmem => ?_
  exact ExecutionStatus.validate_eq_ok.mpr
    ⟨inProgress_texts.mpr (hids stepId hmem), hst.inProgressFields stepId⟩

theorem traceNew_of_ne {statuses : List ValidatedExecutionStatus} (h : statuses ≠ []) :
    ExecutionTrace.new statuses = .ok ⟨statuses, h⟩ :=
  dif_neg h

theorem pushThenEnd_returns {α : Type} {log : List (WorldEvent α)} {stepIds : List String}
    {final : ExecutionStatus} {admitted : ValidatedExecutionStatus}
    {built : FaLocalResult ValidatedExecutionStatus} (hl : planLink route = .ok link)
    (hst : Stampable route link context.startedAtUtc context.completedAtUtc)
    (hids : ∀ stepId ∈ stepIds, isValidStepId stepId = true) (hbuilt : built = emitStatus final)
    (hfinal : final.validate = .ok ()) :
    ∃ trace, (pushInProgress route stepIds context.startedAtUtc >>= fun inProgress =>
        Traced.lift built >>= fun last =>
          Traced.lift (ExecutionTrace.new (admitted :: inProgress ++ [last]))) log =
        (.ok trace, log ++ stepIds.map .inProgress) ∧
      trace.statuses.map (·.status) = admitted.status ::
        stepIds.map (inProgressStatus route link context.startedAtUtc) ++ [final] := by
  obtain ⟨statuses, hb⟩ := buildInProgress_list_returns hl hst hids
  have hpush : pushInProgress route stepIds context.startedAtUtc log =
      (.ok statuses, log ++ stepIds.map .inProgress) := by
    rw [pushInProgress_apply, hb]
  have hne : admitted :: statuses ++ [⟨final, hfinal⟩] ≠ [] := List.cons_ne_nil _ _
  refine ⟨⟨_, hne⟩, ?_, ?_⟩
  · rw [Traced.bind_of_ok hpush, hbuilt, emitStatus_of_valid hfinal, Traced.lift_ok_bind,
      Traced.lift_apply, traceNew_of_ne hne]
  · simp [buildInProgressStatuses_ok hl hb]

end

section
variable {α : Type} {world : DeliveryWorld α} {registry : AdapterRegistry α} {adapter : α}
  {context : CoordinationContext} {log : List (WorldEvent α)} {digest : PlanDigest}
  {capabilities : CapabilityRegistry} {d : RouteDecision} {v : ValidatedExecutionPlan}

/-- Everything in front of the call succeeds. -/
theorem Setting.calls (h : Setting digest capabilities context d v) :
    validateSelectedRouteForDelivery (selectedRoute d v) = .ok () ∧
    adapterRequestFor (selectedRoute d v) = .ok (routeRequest (selectedRoute d v)
      (v.plan.executionPlanId, v.stablePlanHash)) ∧
    ∃ admitted, buildAdmittedNotStartedStatusFromRoute (selectedRoute d v)
        context.coordinatedAtUtc = .ok admitted ∧
      admitted.status = routeStatus (selectedRoute d v) (v.plan.executionPlanId, v.stablePlanHash)
        .admittedNotStarted context.coordinatedAtUtc
        "execution admitted for external bounded delivery" := by
  have hvalid : validateSelectedRouteForDelivery (selectedRoute d v) = .ok () :=
    validateSelectedRoute_selected h.matching h.admitted h.accepted.nonempty
  obtain ⟨admitted, ha⟩ := buildAdmitted_returns h.stampable rfl context.coordinatedAtUtc
  exact ⟨hvalid, adapterRequestFor_eq_ok.mpr ⟨hvalid, _, rfl, rfl⟩, admitted, ha,
    buildAdmitted_eq_ok rfl ha⟩

/-- A trace that is told is delivered. -/
theorem Told.delivers (h : Setting digest capabilities context d v) {stepIds : List String}
    {final : ExecutionStatus} {result : AdapterDeliveryResult}
    (ht : Told v.plan (selectedRoute d v) (v.plan.executionPlanId, v.stablePlanHash) context
      (some result) stepIds final)
    (hans : world.deliverRoute log adapter (routeRequest (selectedRoute d v)
      (v.plan.executionPlanId, v.stablePlanHash)) = result) :
    ∃ trace, deliverViaAdapter world (selectedRoute d v) adapter context log =
        (.ok trace, log ++ [.called adapter (routeRequest (selectedRoute d v)
          (v.plan.executionPlanId, v.stablePlanHash)) result] ++ stepIds.map .inProgress) ∧
      trace.statuses.map (·.status) = toldStatuses (selectedRoute d v)
        (v.plan.executionPlanId, v.stablePlanHash) context stepIds final := by
  obtain ⟨hvalid, hreq, admitted, ha, hadmitted⟩ := h.calls
  have hfinal : final.validate = .ok () :=
    ExecutionStatus.validate_eq_ok.mpr ⟨ht.texts h.shaped, ht.fields h.stampable⟩
  have hlink : planLink (selectedRoute d v) = .ok (v.plan.executionPlanId, v.stablePlanHash) := rfl
  have hids : ∀ stepId ∈ stepIds, isValidStepId stepId = true := fun stepId hmem => by
    obtain ⟨step, hs, rfl⟩ := List.mem_map.mp (ht.declared hmem)
    exact h.shaped.stepIds step hs
  rw [deliverViaAdapter, hvalid, Traced.lift_ok_bind, hreq, Traced.lift_ok_bind, ha,
    Traced.lift_ok_bind, deliverRoute, Traced.bind_of_ok (Traced.perform_apply _ _)]
  rw [toldStatuses, ← hadmitted]
  cases ht with
  | delivered =>
    simp only [hans]
    exact pushThenEnd_returns hlink h.stampable hids rfl hfinal
  | @fallback pre post fallbackStep stepId subtype he href hsub =>
    obtain ⟨i, j, hi, -, -⟩ := h.accepted.later _ href
    have hprimary : stepId ∈ v.plan.steps.map (·.stepId) := by
      obtain ⟨hlt, hat, -⟩ := List.idxOf?_eq_some_iff.mp hi
      simp only at hat
      exact hat ▸ List.getElem_mem hlt
    have hfallback : validateFallbackResult (selectedRoute d v) stepId fallbackStep.stepId subtype =
        .ok () := by
      simp only [validateFallbackResult, seq_eq_ok, require_eq_ok]
      refine ⟨hsub, List.contains_iff_mem.mpr hprimary, List.any_eq_true.mpr ⟨_, href, ?_⟩⟩
      simp
    simp only [hans]
    rw [hfallback, Traced.lift_ok_bind, declaredStepsThrough_split h.accepted.distinct he,
      Traced.lift_ok_bind]
    exact pushThenEnd_returns hlink h.stampable hids rfl hfinal
  | failed he hfit =>
    simp only [hans]
    rw [validateRequiredSummary, hfit, require_true, Traced.lift_ok_bind,
      declaredStepsThrough_split h.accepted.distinct he, Traced.lift_ok_bind]
    exact pushThenEnd_returns hlink h.stampable hids rfl hfinal
  | canceled he =>
    simp only [hans]
    rw [declaredStepsThrough_split h.accepted.distinct he, Traced.lift_ok_bind]
    exact pushThenEnd_returns hlink h.stampable hids rfl hfinal
  | @unavailable summary hfit =>
    have hbuilt : buildUnavailableDependencyStatusFromRoute (selectedRoute d v)
        context.completedAtUtc summary = .ok ⟨_, hfinal⟩ := emitStatus_of_valid hfinal
    have hne : [admitted, ⟨_, hfinal⟩] ≠ [] := List.cons_ne_nil _ _
    simp only [hans]
    rw [validateRequiredSummary, hfit, require_true, Traced.lift_ok_bind, hbuilt,
      Traced.lift_ok_bind, traceNew_of_ne hne]
    exact ⟨⟨_, hne⟩, by simp, rfl⟩

theorem lift_declaredStepsThrough {stepId message : String}
    (h : stepId ∉ v.plan.steps.map (·.stepId)) {β : Type}
    (f : List String → Coordinated α β) (log : List (WorldEvent α)) :
    (Traced.lift (declaredStepsThroughRoute (selectedRoute d v) stepId message) >>= f) log =
      (.error (contractInvalid message), log) := by
  rw [declaredStepsThrough_missing h, Traced.lift_error_bind, Traced.lift_apply]

/-- A rejected answer ends the delivery behind the call. -/
theorem Rejected.refuses (h : Setting digest capabilities context d v)
    {result : AdapterDeliveryResult} (hr : Rejected v.plan result)
    (hans : world.deliverRoute log adapter (routeRequest (selectedRoute d v)
      (v.plan.executionPlanId, v.stablePlanHash)) = result) :
    ∃ e, deliverViaAdapter world (selectedRoute d v) adapter context log =
      (.error e, log ++ [.called adapter (routeRequest (selectedRoute d v)
        (v.plan.executionPlanId, v.stablePlanHash)) result]) := by
  obtain ⟨hvalid, hreq, admitted, ha, -⟩ := h.calls
  rw [deliverViaAdapter, hvalid, Traced.lift_ok_bind, hreq, Traced.lift_ok_bind, ha,
    Traced.lift_ok_bind, deliverRoute, Traced.bind_of_ok (Traced.perform_apply _ _)]
  cases result with
  | deliveredAllSteps => exact hr.elim
  | completedWithDeclaredFallback stepId fallbackStepId degradedSubtype =>
    simp only [hans]
    cases hv : validateFallbackResult (selectedRoute d v) stepId fallbackStepId degradedSubtype with
    | error e => exact ⟨e, rfl⟩
    | ok u =>
      cases u
      simp only [validateFallbackResult, seq_eq_ok, require_eq_ok] at hv
      obtain ⟨hsub, hprimary, href⟩ := hv
      have hmem : ⟨stepId, fallbackStepId⟩ ∈ v.plan.fallbackReferences := by
        obtain ⟨reference, hmem, hsame⟩ := List.any_eq_true.mp href
        simp only [Bool.and_eq_true, beq_iff_eq] at hsame
        obtain ⟨rfl, rfl⟩ := hsame
        exact hmem
      rcases hr with hr | hr | hr | hr
      · simp [hsub] at hr
      · exact absurd (List.contains_iff_mem.mp hprimary) hr
      · exact ⟨_, lift_declaredStepsThrough hr _ _⟩
      · exact absurd hmem hr
  | failedAtDeclaredStep stepId failureSummary =>
    simp only [hans]
    cases hs : validateRequiredSummary failureSummary "adapter delivery failure_summary" with
    | error e => exact ⟨e, rfl⟩
    | ok u =>
      have hfit : isBoundedText failureSummary = true := require_eq_ok.mp hs
      have hmissing := hr.resolve_right (by simp [hfit])
      exact ⟨_, lift_declaredStepsThrough hmissing _ _⟩
  | canceledAtDeclaredStep stepId =>
    simp only [hans]
    exact ⟨_, lift_declaredStepsThrough hr _ _⟩
  | dependencyUnavailable summary =>
    simp only [hans]
    cases hs : validateRequiredSummary summary "adapter delivery dependency summary" with
    | error e => exact ⟨e, rfl⟩
    | ok u =>
      have hfit : isBoundedText summary = true := require_eq_ok.mp hs
      simp [Rejected, hfit] at hr
  | unsupported summary =>
    simp only [hans]
    cases hs : validateRequiredSummary summary "adapter delivery unsupported summary" with
    | error e => exact ⟨e, rfl⟩
    | ok u => exact ⟨_, rfl⟩

/-- The answer of the adapter of the requested capability, if one is registered. -/
def wholeAnswer (world : DeliveryWorld α) (registry : AdapterRegistry α)
    (log : List (WorldEvent α)) (route : SelectedExecutionRoute)
    (link : ExecutionPlanId × String) : Option AdapterDeliveryResult :=
  (registry.resolve route.requestedCapabilityId).map fun adapter =>
    world.deliverRoute log adapter (routeRequest route link)

/-- A delivery as its answer has it: one call of the registered adapter, the
trace that is told, and an error exactly on a rejected answer. -/
structure WholeOutcome (world : DeliveryWorld α) (registry : AdapterRegistry α)
    (context : CoordinationContext) (log : List (WorldEvent α)) (plan : ExecutionPlan)
    (route : SelectedExecutionRoute) (link : ExecutionPlanId × String)
    (result : FaLocalResult ExecutionTrace) (events : List (WorldEvent α)) : Prop where
  called : WorldEvent.calls events =
    (registry.resolve route.requestedCapabilityId).toList.map fun adapter =>
      (adapter, routeRequest route link, world.deliverRoute log adapter (routeRequest route link))
  told : ∀ stepIds final,
    Told plan route link context (wholeAnswer world registry log route link) stepIds final ↔
      ∃ trace, result = .ok trace ∧
        trace.statuses.map (·.status) = toldStatuses route link context stepIds final
  refused : (∃ e, result = .error e) ↔
    ∃ answer, wholeAnswer world registry log route link = some answer ∧ Rejected plan answer

variable (world registry log) in
/-- The call of the registered adapter. -/
def wholeCalls (route : SelectedExecutionRoute) (link : ExecutionPlanId × String) :
    List (WorldEvent α) :=
  (registry.resolve route.requestedCapabilityId).toList.map fun adapter =>
    .called adapter (routeRequest route link) (world.deliverRoute log adapter
      (routeRequest route link))

theorem Setting.told (h : Setting digest capabilities context d v) {stepIds : List String}
    {final : ExecutionStatus}
    (ht : Told v.plan (selectedRoute d v) (v.plan.executionPlanId, v.stablePlanHash) context
      (wholeAnswer world registry log (selectedRoute d v)
        (v.plan.executionPlanId, v.stablePlanHash)) stepIds final) :
    ∃ trace, deliverSelectedRouteViaRegistry world (selectedRoute d v) registry context log =
        (.ok trace, log ++ (wholeCalls world registry log (selectedRoute d v)
          (v.plan.executionPlanId, v.stablePlanHash) ++ stepIds.map .inProgress)) ∧
      trace.statuses.map (·.status) = toldStatuses (selectedRoute d v)
        (v.plan.executionPlanId, v.stablePlanHash) context stepIds final := by
  obtain ⟨hvalid, -, admitted, ha, hadmitted⟩ := h.calls
  rw [deliverSelectedRouteViaRegistry, hvalid, Traced.lift_ok_bind]
  cases hreg : registry.resolve (selectedRoute d v).requestedCapabilityId with
  | some adapter =>
    rw [wholeAnswer, hreg, Option.map_some] at ht
    obtain ⟨trace, hdel, htrace⟩ := ht.delivers h rfl
    exact ⟨trace, by simpa [wholeCalls, hreg] using hdel, htrace⟩
  | none =>
    rw [wholeAnswer, hreg, Option.map_none] at ht
    have hfinal : final.validate = .ok () :=
      ExecutionStatus.validate_eq_ok.mpr ⟨ht.texts h.shaped, ht.fields h.stampable⟩
    cases ht
    have hbuilt : buildUnavailableDependencyStatusFromRoute (selectedRoute d v)
        context.completedAtUtc (noAdapterSummary (selectedRoute d v).requestedCapabilityId) =
        .ok ⟨_, hfinal⟩ := emitStatus_of_valid hfinal
    have hne : [admitted, ⟨_, hfinal⟩] ≠ [] := List.cons_ne_nil _ _
    simp only [ha, hbuilt, Traced.lift_ok_bind, traceNew_of_ne hne, Traced.lift_apply]
    refine ⟨⟨_, hne⟩, by simp [wholeCalls, hreg], ?_⟩
    rw [toldStatuses, ← hadmitted]
    rfl

theorem Setting.rejected (h : Setting digest capabilities context d v)
    {answer : AdapterDeliveryResult}
    (hans : wholeAnswer world registry log (selectedRoute d v)
      (v.plan.executionPlanId, v.stablePlanHash) = some answer) (hr : Rejected v.plan answer) :
    ∃ e, deliverSelectedRouteViaRegistry world (selectedRoute d v) registry context log =
      (.error e, log ++ wholeCalls world registry log (selectedRoute d v)
        (v.plan.executionPlanId, v.stablePlanHash)) := by
  obtain ⟨adapter, hreg, hanswer⟩ := Option.map_eq_some_iff.mp hans
  obtain ⟨e, hdel⟩ := hr.refuses h hanswer
  refine ⟨e, ?_⟩
  rw [deliverSelectedRouteViaRegistry, h.calls.1, Traced.lift_ok_bind]
  simp only [hreg]
  simpa [wholeCalls, hreg, hanswer] using hdel

theorem calls_wholeCalls (route : SelectedExecutionRoute) (link : ExecutionPlanId × String)
    (stepIds : List String) :
    WorldEvent.calls (wholeCalls world registry log route link ++ stepIds.map .inProgress) =
      (registry.resolve route.requestedCapabilityId).toList.map fun adapter =>
        (adapter, routeRequest route link,
          world.deliverRoute log adapter (routeRequest route link)) := by
  rw [WorldEvent.calls_append, calls_map_inProgress, List.append_nil, wholeCalls]
  cases registry.resolve route.requestedCapabilityId <;> rfl

variable (world registry log) in
theorem Setting.outcome (h : Setting digest capabilities context d v) :
    ∃ result events, deliverSelectedRouteViaRegistry world (selectedRoute d v) registry context
        log = (result, log ++ events) ∧
      WholeOutcome world registry context log v.plan (selectedRoute d v)
        (v.plan.executionPlanId, v.stablePlanHash) result events := by
  have hcases : (∃ stepIds final, Told v.plan (selectedRoute d v)
        (v.plan.executionPlanId, v.stablePlanHash) context (wholeAnswer world registry log
          (selectedRoute d v) (v.plan.executionPlanId, v.stablePlanHash)) stepIds final) ∨
      ∃ answer, wholeAnswer world registry log (selectedRoute d v)
        (v.plan.executionPlanId, v.stablePlanHash) = some answer ∧ Rejected v.plan answer := by
    cases hans : wholeAnswer world registry log (selectedRoute d v)
      (v.plan.executionPlanId, v.stablePlanHash) with
    | none => exact .inl ⟨_, _, .unregistered⟩
    | some answer =>
      exact (told_or_rejected h.accepted answer).imp_right fun hr => ⟨answer, rfl, hr⟩
  rcases hcases with ⟨stepIds, final, ht⟩ | ⟨answer, hans, hr⟩
  · obtain ⟨trace, hdel, htrace⟩ := h.told ht
    refine ⟨_, _, hdel, calls_wholeCalls _ _ _, fun stepIds' final' => ⟨fun ht' => ?_, ?_⟩,
      ⟨?_, ?_⟩⟩
    · obtain ⟨trace', hdel', htrace'⟩ := h.told ht'
      rw [hdel, Prod.mk.injEq, Except.ok.injEq] at hdel'
      exact ⟨trace, rfl, hdel'.1 ▸ htrace'⟩
    · rintro ⟨trace', he, htrace'⟩
      cases he
      obtain ⟨rfl, rfl⟩ := toldStatuses_inj (htrace.symm.trans htrace')
      exact ht
    · rintro ⟨e, he⟩
      cases he
    · rintro ⟨answer, hans, hr⟩
      obtain ⟨e, hdel'⟩ := h.rejected hans hr
      rw [hdel] at hdel'
      cases hdel'
  · obtain ⟨e, hdel⟩ := h.rejected hans hr
    refine ⟨_, _, hdel, ?_, fun stepIds' final' => ⟨fun ht' => ?_, ?_⟩,
      iff_of_true ⟨e, rfl⟩ ⟨answer, hans, hr⟩⟩
    · have hcalls : WorldEvent.calls (wholeCalls world registry log (selectedRoute d v)
          (v.plan.executionPlanId, v.stablePlanHash) ++ [].map .inProgress) = _ :=
        calls_wholeCalls (selectedRoute d v) _ []
      simpa using hcalls
    · obtain ⟨trace', hdel', -⟩ := h.told ht'
      rw [hdel] at hdel'
      cases hdel'
    · rintro ⟨trace', he, -⟩
      cases he

end

section
variable {α : Type} (world : DeliveryWorld α) (registry : AdapterRegistry α)
  (context : CoordinationContext) (log : List (WorldEvent α)) (d : RouteDecision)
  {digest : PlanDigest} {utcNow : TimestampUtc} {plan : ExecutionPlan}
  {capabilities : CapabilityRegistry} {v : ValidatedExecutionPlan} {input : RoutingInput}
  {route : SelectedExecutionRoute}

/-- A route of an admitted decision is delivered as the single answer has it; a
route that awaits approval is refused before any call. -/
theorem deliver_whole_route
    (hv : ExecutionPlanValidator.validate digest utcNow plan capabilities = .ok v)
    (hs : SchemaShaped plan) (hi : RoutingInput.new d (some v) = .ok input)
    (hr : RoutingService.selectRoute input = .ok route)
    (ho : context.startedAtUtc ≤ context.completedAtUtc) :
    (d.resolvedApprovalPosture.admitted = true → ∃ result events,
      deliverSelectedRouteViaRegistry world route registry context log = (result, log ++ events) ∧
        WholeOutcome world registry context log plan route
          (plan.executionPlanId, v.stablePlanHash) result events) ∧
      (d.resolvedApprovalPosture.admitted = false → ∃ e,
        deliverSelectedRouteViaRegistry world route registry context log = (.error e, log)) := by
  obtain ⟨hacc, rfl⟩ := ExecutionPlanValidator.validate_eq_ok.mp hv
  constructor
  · intro hp
    obtain ⟨hm, rfl⟩ := RoutingService.selectRoute_admitted hi hr hp
    have hset : Setting digest capabilities context d
        ⟨plan, ExecutionPlanValidator.computeStablePlanHash digest plan⟩ :=
      ⟨hacc, rfl, hs, hm, hp, ho⟩
    exact hset.outcome world registry log
  · intro hp
    have hposture := RoutingService.selectRoute_posture hr
    rw [RoutingInput.new_input hi] at hposture
    cases hvalid : validateSelectedRouteForDelivery route with
    | error e =>
      rw [deliverSelectedRouteViaRegistry, hvalid]
      exact ⟨e, rfl⟩
    | ok u =>
      have hadmitted := validateSelectedRoute_admitted hvalid
      rw [hposture, hp] at hadmitted
      cases hadmitted

end

end FaLocal.ExecutionService

/-! The two-step plan, once along an admitted route and once along a route that
awaits the operator's approval. -/

namespace FaLocal.Fixture

def approvalDecision : RouteDecision :=
  { decision with
    resolvedApprovalPosture := .explicitOperatorApproval
    executionAllowed := false
    explicitApprovalRequired := true }

def approvalRoute : SelectedExecutionRoute :=
  RoutingService.routablePlanSelection approvalDecision validatedTwoStepPlan
    .awaitExplicitApproval false true

end FaLocal.Fixture

namespace FaLocal.ExecutionService

theorem deliver_whole_route_awaits_approval :
    ExecutionPlanValidator.validate Fixture.twoStepDigest (Fixture.at2030 600) Fixture.twoStepPlan
      Fixture.capabilities = .ok Fixture.validatedTwoStepPlan ∧
    SchemaShaped Fixture.twoStepPlan ∧
    RoutingInput.new Fixture.approvalDecision (some Fixture.validatedTwoStepPlan) =
      .ok ⟨Fixture.approvalDecision, some Fixture.validatedTwoStepPlan⟩ ∧
    RoutingService.selectRoute ⟨Fixture.approvalDecision, some Fixture.validatedTwoStepPlan⟩ =
      .ok Fixture.approvalRoute ∧
    Fixture.coordination.startedAtUtc ≤ Fixture.coordination.completedAtUtc ∧
    Fixture.stubRegistry.resolve Fixture.approvalRoute.requestedCapabilityId = some () ∧
    ¬ ((∃ trace, (deliverSelectedRouteViaRegistry (Fixture.stubWorld fun _ => .deliveredAllSteps)
          Fixture.approvalRoute Fixture.stubRegistry Fixture.coordination []).1 = .ok trace) ∨
      (WorldEvent.calls (deliverSelectedRouteViaRegistry
          (Fixture.stubWorld fun _ => .deliveredAllSteps) Fixture.approvalRoute
          Fixture.stubRegistry Fixture.coordination []).2).length = 1) := by
  refine ⟨Fixture.twoStepPlan_validated, Fixture.twoStepPlan_shaped, rfl, rfl,
    by decide, rfl, ?_⟩
  rintro (⟨trace, h⟩ | h)
  · cases h
  · cases h

theorem deliver_whole_route_two_steps : ∃ trace,
    (deliverSelectedRouteViaRegistry (Fixture.stubWorld fun _ => .canceledAtDeclaredStep "step_a")
      (Fixture.route Fixture.validatedTwoStepPlan) Fixture.stubRegistry Fixture.coordination []).1 =
      .ok trace ∧
    trace.statuses.map (fun status => (status.status.state, status.status.currentStep)) =
      [(.admittedNotStarted, none), (.inProgress, some "step_a"), (.canceled, none)] := by
  obtain ⟨result, events, hdel, houtcome⟩ := (deliver_whole_route
    (Fixture.stubWorld fun _ => .canceledAtDeclaredStep "step_a") Fixture.stubRegistry
    Fixture.coordination [] Fixture.decision Fixture.twoStepPlan_validated
    Fixture.twoStepPlan_shaped Fixture.twoStepRoute_input Fixture.twoStepRoute_selected
    (by decide)).1 rfl
  obtain ⟨trace, rfl, ht⟩ := (houtcome.told _ _).mp
    (@Told.canceled _ _ _ _ [] [Fixture.step "step_b" 8] (Fixture.step "step_a" 4) rfl)
  refine ⟨trace, by rw [hdel], ?_⟩
  have hmap := congrArg (List.map fun status : ExecutionStatus =>
    (status.state, status.currentStep)) ht
  rw [List.map_map] at hmap
  exact hmap

end FaLocal.ExecutionService
