import FaLocal.StepLoop

/-!
# Per-step delivery of accepted plans

What a whole delivery does, read off the fallback run behind it: which calls
are made, and where a failing delivery fails.
-/
namespace FaLocal.ExecutionService

open FallbackRun (Layout Run Begun Verdict start)
open ExecutionPlanValidator (Accepted)

section
variable {digest : PlanDigest} {plan : ExecutionPlan} {capabilities : CapabilityRegistry}

theorem fallbacksDeclared_of_accepted (h : Accepted digest plan capabilities) :
    FallbacksDeclared plan := by
  intro r hr
  obtain ⟨i, j, -, hj, -⟩ := h.later r hr
  obtain ⟨hlt, he, -⟩ := List.idxOf?_eq_some_iff.mp hj
  exact he ▸ List.getElem_mem hlt

/-- The steps of an accepted plan are distinct, with every fallback behind its step. -/
theorem layout_of_accepted (h : Accepted digest plan capabilities) :
    Layout (deliveryPolicy plan) (plan.steps.map (·.stepId)) where
  nodup := h.distinct
  later := by
    intro s f pre post hf he
    obtain ⟨r, hr, hrs, rfl⟩ := fallback_eq_some hf
    obtain ⟨pre', rest, hsteps, rfl, hrest⟩ := List.map_eq_append_iff.mp he
    obtain ⟨step, post', rfl, rfl, rfl⟩ := List.map_eq_cons_iff.mp hrest
    exact h.behind hr hsteps hrs

end

section
variable {α : Type} {world : DeliveryWorld α} {route : SelectedExecutionRoute}
  {validatedPlan : ValidatedExecutionPlan} {registry : AdapterRegistry α}
  {context : CoordinationContext} {log mid out : List (WorldEvent α)} {error : Abort}

/-- Every call comes right after its step was put in progress. -/
def Announced (events : List (WorldEvent α)) : Prop :=
  ∀ pre adapter request result post, events = pre ++ .called adapter request result :: post →
    ∃ pre' stepId, pre = pre' ++ [.inProgress stepId] ∧ request.declaredStepIds = [stepId]

theorem announced_nil : Announced ([] : List (WorldEvent α)) := by
  intro pre adapter request result post h
  simp at h

theorem announced_progress (stepId : String) :
    Announced [(.inProgress stepId : WorldEvent α)] := by
  intro pre adapter request result post h
  obtain ⟨-, he, -⟩ := FallbackRun.singleton_eq_split.mp h
  cases he

theorem announced_call (step : ExecutionPlanStep) (adapter : α)
    (result : AdapterDeliveryResult) :
    Announced [.inProgress step.stepId,
      .called adapter (stepRequest route validatedPlan step) result] := by
  intro pre adapter' request result' post h
  rcases FallbackRun.pair_eq_split.mp h with ⟨-, he, -⟩ | ⟨rfl, he, -⟩
  · cases he
  · cases he
    exact ⟨[], step.stepId, rfl, rfl⟩

theorem Announced.append {events events' : List (WorldEvent α)} (h : Announced events)
    (h' : Announced events') : Announced (events ++ events') := by
  intro pre adapter request result post he
  rcases List.append_eq_append_iff.mp he with ⟨l, rfl, he'⟩ | ⟨l, rfl, he'⟩
  · obtain ⟨pre', stepId, rfl, hr⟩ := h' l adapter request result post he'
    exact ⟨events ++ pre', stepId, by simp, hr⟩
  · cases l with
    | nil =>
      obtain ⟨pre', stepId, hnil, -⟩ := h' [] adapter request result post (by simpa using he'.symm)
      simp at hnil
    | cons e l =>
      cases (List.cons.inj he').1
      exact h pre adapter request result l rfl

/-- The answers to the calls of one step. -/
def answersTo (stepId : String) (events : List (WorldEvent α)) : List AdapterDeliveryResult :=
  (WorldEvent.calls events).filterMap fun call =>
    if call.2.1.declaredStepIds = [stepId] then some call.2.2 else none

theorem answersTo_append (stepId : String) (events events' : List (WorldEvent α)) :
    answersTo stepId (events ++ events') = answersTo stepId events ++ answersTo stepId events' := by
  simp [answersTo]

variable (world registry) in
/-- An attempt is the one answer of the adapter registered for the step's
capability, or no call at all where none is registered. -/
def Answered (events : List (WorldEvent α)) (attempt : ExecutionPlanStep × StepDeliveryOutcome) :
    Prop :=
  match registry.resolve attempt.1.capabilityId with
  | none => answersTo attempt.1.stepId events = [] ∧
      attempt.2 = .unavailable (noAdapterSummary attempt.1.capabilityId)
  | some adapter => ∃ result, answersTo attempt.1.stepId events = [result] ∧
      perStepOutcome (world.adapterId adapter) result = .ok attempt.2

variable (world route validatedPlan registry) in
/-- The events of a delivery with these attempts; `refused` holds the step whose
answer was not accepted, if there is one. -/
structure History (attempts : List (ExecutionPlanStep × StepDeliveryOutcome))
    (refused : List String) (events : List (WorldEvent α)) : Prop where
  progress : WorldEvent.progress events = (attempts.map named).map Prod.fst ++ refused
  calls : ((WorldEvent.calls events).map fun call => call.2.1.declaredStepIds).Sublist
    (((attempts.map named).map Prod.fst ++ refused).map ([·]))
  addressed : ∀ call ∈ WorldEvent.calls events, ∃ step ∈ validatedPlan.plan.steps,
    registry.resolve step.capabilityId = some call.1 ∧
      call.2.1 = stepRequest route validatedPlan step
  announced : Announced events
  declared : ∀ q ∈ attempts, q.1 ∈ validatedPlan.plan.steps
  answered : ∀ q ∈ attempts, Answered world registry events q

/-- Steps that were not begun have no calls. -/
theorem answersTo_eq_nil {ids : List String} {events : List (WorldEvent α)} {stepId : String}
    (h : ((WorldEvent.calls events).map fun call => call.2.1.declaredStepIds).Sublist
      (ids.map ([·]))) (hn : stepId ∉ ids) : answersTo stepId events = [] := by
  rw [answersTo, List.filterMap_eq_nil_iff]
  intro call hc
  rw [if_neg]
  intro he
  have hm : call.2.1.declaredStepIds ∈ ids.map ([·]) :=
    h.subset (List.mem_map_of_mem (f := fun call => call.2.1.declaredStepIds) hc)
  rw [he] at hm
  simp [hn] at hm

/-- A dispatched attempt is a history of its own. -/
theorem Dispatched.history {step : ExecutionPlanStep} (hs : step ∈ validatedPlan.plan.steps)
    {outcome : StepDeliveryOutcome}
    (h : Dispatched world route validatedPlan registry log step outcome out) :
    ∃ events, out = log ++ events ∧
      History world route validatedPlan registry [(step, outcome)] [] events := by
  simp only [Dispatched] at h
  split at h
  · rename_i ha
    obtain ⟨rfl, rfl⟩ := h
    refine ⟨_, rfl, rfl, by simp, by simp, announced_progress step.stepId, by simpa using hs, ?_⟩
    simp [Answered, ha, answersTo]
  · rename_i adapter ha
    obtain ⟨result, -, ho, rfl⟩ := h
    refine ⟨_, rfl, rfl, by simp [stepRequest, named], ?_, announced_call step adapter result,
      by simpa using hs, ?_⟩
    · intro call hc
      simp only [WorldEvent.calls_inProgress, WorldEvent.calls_called, WorldEvent.calls_nil,
        List.mem_singleton] at hc
      exact ⟨step, hs, hc ▸ ha, hc ▸ rfl⟩
    · simpa [Answered, ha, answersTo, stepRequest] using ho

theorem History.append {a b : List (ExecutionPlanStep × StepDeliveryOutcome)}
    {refused : List String} {events events' : List (WorldEvent α)}
    (h : History world route validatedPlan registry a [] events)
    (h' : History world route validatedPlan registry b refused events')
    (hn : ((a.map named).map Prod.fst ++ ((b.map named).map Prod.fst ++ refused)).Nodup) :
    History world route validatedPlan registry (a ++ b) refused (events ++ events') := by
  obtain ⟨-, -, hd⟩ := List.nodup_append.mp hn
  have hmem : ∀ {q : ExecutionPlanStep × StepDeliveryOutcome}
      {l : List (ExecutionPlanStep × StepDeliveryOutcome)}, q ∈ l →
      q.1.stepId ∈ (l.map named).map Prod.fst := by
    intro q l hq
    exact List.mem_map_of_mem (f := Prod.fst) (List.mem_map_of_mem (f := named) hq)
  refine ⟨by simp [h.progress, h'.progress], ?_, ?_, h.announced.append h'.announced, ?_, ?_⟩
  · have hc := h.calls.append h'.calls
    simpa [List.map_append] using hc
  · intro call hc
    rw [WorldEvent.calls_append, List.mem_append] at hc
    exact hc.elim (h.addressed call) (h'.addressed call)
  · intro q hq
    exact (List.mem_append.mp hq).elim (h.declared q) (h'.declared q)
  · intro q hq
    have hq' : answersTo q.1.stepId (events ++ events') =
        answersTo q.1.stepId (if q ∈ a then events else events') := by
      rw [answersTo_append]
      split
      · rename_i ha
        rw [answersTo_eq_nil h'.calls fun hb => hd _ (hmem ha) _ hb rfl, List.append_nil]
      · rename_i ha
        have hb : q.1.stepId ∈ (b.map named).map Prod.fst ++ refused :=
          List.mem_append_left _ (hmem ((List.mem_append.mp hq).resolve_left ha))
        have hna : q.1.stepId ∉ (a.map named).map Prod.fst ++ [] := fun hna =>
          hd _ (by simpa using hna) _ hb rfl
        rw [answersTo_eq_nil h.calls hna, List.nil_append]
    have hold : Answered world registry (if q ∈ a then events else events') q := by
      split
      · rename_i ha
        exact h.answered q ha
      · rename_i ha
        exact h'.answered q ((List.mem_append.mp hq).resolve_left ha)
    simpa only [Answered, hq'] using hold

/-- The log of dispatched attempts on distinct steps. -/
theorem Delivered.history {a : List (ExecutionPlanStep × StepDeliveryOutcome)}
    (h : Delivered world route registry validatedPlan log a out)
    (hn : ((a.map named).map Prod.fst).Nodup) :
    ∃ events, out = log ++ events ∧ History world route validatedPlan registry a [] events := by
  induction h with
  | nil log =>
    exact ⟨[], by simp, rfl, by simp, by simp, announced_nil, by simp, by simp⟩
  | @cons log mid out step outcome rest hs hd _ ih =>
    obtain ⟨e₁, rfl, h₁⟩ := hd.history hs
    obtain ⟨e₂, rfl, h₂⟩ := ih (List.nodup_cons.mp hn).2
    exact ⟨e₁ ++ e₂, by simp, h₁.append h₂ (by simpa [named] using hn)⟩

/-- What a broken-off attempt adds to the log. -/
theorem Stuck.history {l : List String}
    (h : Stuck world route registry context validatedPlan log error l out) :
    ∃ events, out = log ++ events ∧ History world route validatedPlan registry [] l events := by
  cases h with
  | unannounced hs hb =>
    exact ⟨[], by simp, rfl, by simp, by simp, announced_nil, by simp, by simp⟩
  | @refused step out hs hr =>
    obtain ⟨adapter, result, ha, -, -, rfl⟩ := hr
    refine ⟨_, rfl, rfl, by simp [stepRequest], ?_, announced_call step adapter result, by simp,
      by simp⟩
    intro call hc
    simp only [WorldEvent.calls_inProgress, WorldEvent.calls_called, WorldEvent.calls_nil,
      List.mem_singleton] at hc
    exact ⟨step, hs, hc ▸ ha, hc ▸ rfl⟩

/-- What a delivery has passed before it enters the loop. -/
structure Entered (route : SelectedExecutionRoute) (validatedPlan : ValidatedExecutionPlan)
    (context : CoordinationContext) (admitted : ValidatedExecutionStatus) : Prop where
  valid : validateSelectedRouteForDelivery route = .ok ()
  planId : route.executionPlanId = some validatedPlan.plan.executionPlanId
  planHash : route.stablePlanHash = some validatedPlan.stablePlanHash
  first : admitted.status = routeStatus route
    (validatedPlan.plan.executionPlanId, validatedPlan.stablePlanHash) .admittedNotStarted
    context.coordinatedAtUtc "execution admitted for external bounded delivery"

theorem Entered.linked {admitted : ValidatedExecutionStatus}
    (h : Entered route validatedPlan context admitted) :
    planLink route = .ok (validatedPlan.plan.executionPlanId, validatedPlan.stablePlanHash) := by
  simp [planLink, h.planId, h.planHash]

theorem enterStepLoop_eq_ok {admitted : ValidatedExecutionStatus} :
    enterStepLoop route validatedPlan context = .ok admitted ↔
      Entered route validatedPlan context admitted := by
  simp only [enterStepLoop, seq_eq_ok, require_eq_ok, Bool.and_eq_true, beq_iff_eq]
  constructor
  · rintro ⟨hv, ⟨hp, hh⟩, ha⟩
    simp only [buildAdmittedNotStartedStatusFromRoute, planLink, ← hp, ← hh, bind,
      Except.bind] at ha
    exact ⟨hv, hp.symm, hh.symm, emitStatus_eq_ok.mp ha⟩
  · intro h
    refine ⟨h.valid, ⟨h.planId.symm, h.planHash.symm⟩, ?_⟩
    simp only [buildAdmittedNotStartedStatusFromRoute, h.linked, bind, Except.bind]
    exact emitStatus_eq_ok.mpr h.first

theorem concludeStepLoop_eq_ok {st : LoopState} {trace : ExecutionTrace} :
    concludeStepLoop route context st = .ok trace ↔
      ∃ final, buildPlanOutcomeStatusFromRoute route st.outcomes context.startedAtUtc
        context.completedAtUtc = .ok final ∧ trace.statuses = st.statuses ++ [final] := by
  cases hf : buildPlanOutcomeStatusFromRoute route st.outcomes context.startedAtUtc
      context.completedAtUtc with
  | error e => simp [concludeStepLoop, hf, bind, Except.bind]
  | ok final =>
    have hne : st.statuses ++ [final] ≠ [] := by simp
    simp only [concludeStepLoop, hf, bind, Except.bind, ExecutionTrace.new, dif_neg hne,
      Except.ok.injEq, exists_eq_left']
    constructor
    · rintro rfl
      rfl
    · intro h
      cases trace
      simp_all

/-- A delivery that returns is a run of the declared fallback policy. -/
theorem deliver_ok (hd : FallbacksDeclared validatedPlan.plan) {trace : ExecutionTrace}
    (h : deliverPlanPerStepViaRegistry world route validatedPlan registry context log =
      (.ok trace, out)) :
    ∃ admitted st a v final, Entered route validatedPlan context admitted ∧
      Run (deliveryPolicy validatedPlan.plan) start (validatedPlan.plan.steps.map (·.stepId))
        (a.map named) v st.config ∧
      Delivered world route registry validatedPlan log a out ∧
      LoopDone (.start admitted) st (validatedPlan.plan.executionPlanId,
        validatedPlan.stablePlanHash) route context.startedAtUtc a v ∧
      buildPlanOutcomeStatusFromRoute route st.outcomes context.startedAtUtc
        context.completedAtUtc = .ok final ∧
      trace.statuses = st.statuses ++ [final] := by
  obtain ⟨admitted, mid, he, h⟩ := Traced.bind_eq_ok h
  obtain ⟨st, mid', hl, hc⟩ := Traced.bind_eq_ok h
  simp only [Traced.lift_apply, Prod.mk.injEq] at he hc
  obtain ⟨he, rfl⟩ := he
  obtain ⟨hc, rfl⟩ := hc
  have hen := enterStepLoop_eq_ok.mp he
  obtain ⟨a, v, hr, hdel, hdone⟩ := loop_ok hd hen.linked (fun _ hs => hs) hl
  obtain ⟨final, hf, ht⟩ := concludeStepLoop_eq_ok.mp hc
  exact ⟨admitted, st, a, v, final, hen, hr, hdel, hdone, hf, ht⟩

/-- A delivery that throws was refused at the entry, broken off in the loop, or
could not build its final status. -/
theorem deliver_error (hd : FallbacksDeclared validatedPlan.plan)
    (h : deliverPlanPerStepViaRegistry world route validatedPlan registry context log =
      (.error error, out)) :
    (enterStepLoop route validatedPlan context = .error error ∧ out = log) ∨
    (∃ admitted a l mid, Entered route validatedPlan context admitted ∧
      Begun (deliveryPolicy validatedPlan.plan) start (validatedPlan.plan.steps.map (·.stepId))
        (a.map named) l ∧
      Delivered world route registry validatedPlan log a mid ∧
      Stuck world route registry context validatedPlan mid error l out) ∨
    ∃ admitted st a v, Entered route validatedPlan context admitted ∧
      Run (deliveryPolicy validatedPlan.plan) start (validatedPlan.plan.steps.map (·.stepId))
        (a.map named) v st.config ∧
      Delivered world route registry validatedPlan log a out ∧
      LoopDone (.start admitted) st (validatedPlan.plan.executionPlanId,
        validatedPlan.stablePlanHash) route context.startedAtUtc a v ∧
      buildPlanOutcomeStatusFromRoute route st.outcomes context.startedAtUtc
        context.completedAtUtc = .error error := by
  rcases Traced.bind_eq_error h with he | ⟨admitted, mid, he, h⟩
  · simp only [Traced.lift_apply, Prod.mk.injEq] at he
    exact .inl ⟨he.1, he.2.symm⟩
  · simp only [Traced.lift_apply, Prod.mk.injEq] at he
    obtain ⟨he, rfl⟩ := he
    have hen := enterStepLoop_eq_ok.mp he
    rcases Traced.bind_eq_error h with hl | ⟨st, mid', hl, hc⟩
    · obtain ⟨a, l, mid, hb, hdel, hst⟩ := loop_error hd hen.linked (fun _ hs => hs) hl
      exact .inr (.inl ⟨admitted, a, l, mid, hen, hb, hdel, hst⟩)
    · obtain ⟨a, v, hr, hdel, hdone⟩ := loop_ok hd hen.linked (fun _ hs => hs) hl
      simp only [Traced.lift_apply, Prod.mk.injEq] at hc
      obtain ⟨hc, rfl⟩ := hc
      refine .inr (.inr ⟨admitted, st, a, v, hen, hr, hdel, hdone, ?_⟩)
      cases hf : buildPlanOutcomeStatusFromRoute route st.outcomes context.startedAtUtc
          context.completedAtUtc with
      | error e => simpa [concludeStepLoop, hf, bind, Except.bind] using hc
      | ok final => simp [concludeStepLoop, hf, bind, Except.bind, ExecutionTrace.new] at hc

/-- A delivery, whatever its end, is a fallback run that may be broken off; its
events are the history of that run. -/
theorem deliver_history (world : DeliveryWorld α) (route : SelectedExecutionRoute)
    (registry : AdapterRegistry α) (context : CoordinationContext) (log : List (WorldEvent α))
    (hd : FallbacksDeclared validatedPlan.plan)
    (hl : Layout (deliveryPolicy validatedPlan.plan)
      (validatedPlan.plan.steps.map (·.stepId))) :
    ∃ events a l, (deliverPlanPerStepViaRegistry world route validatedPlan registry context
        log).2 = log ++ events ∧
      Begun (deliveryPolicy validatedPlan.plan) start (validatedPlan.plan.steps.map (·.stepId))
        (a.map named) l ∧
      ((a.map named).map Prod.fst ++ l).Nodup ∧
      History world route validatedPlan registry a l events := by
  cases hr : deliverPlanPerStepViaRegistry world route validatedPlan registry context log with
  | mk result out =>
  cases result with
  | ok trace =>
    obtain ⟨admitted, st, a, v, final, -, hrun, hdel, -⟩ := deliver_ok hd hr
    have hn := hrun.begun.nodup hl
    obtain ⟨events, he, hh⟩ := hdel.history (by simpa using hn)
    exact ⟨events, a, [], he, hrun.begun, hn, hh⟩
  | error e =>
    rcases deliver_error hd hr with ⟨-, rfl⟩ | ⟨_, a, l, mid, -, hb, hdel, hst⟩ |
      ⟨_, st, a, v, -, hrun, hdel, -⟩
    · exact ⟨[], [], [], by simp, .nil _ _, by simp,
        ⟨rfl, by simp, by simp, announced_nil, by simp, by simp⟩⟩
    · have hn := hb.nodup hl
      obtain ⟨e₁, rfl, h₁⟩ := hdel.history (List.nodup_append.mp hn).1
      obtain ⟨e₂, rfl, h₂⟩ := hst.history
      exact ⟨e₁ ++ e₂, a, l, by simp, hb, hn, by simpa using h₁.append h₂ (by simpa using hn)⟩
    · have hn := hrun.begun.nodup hl
      obtain ⟨events, he, hh⟩ := hdel.history (by simpa using hn)
      exact ⟨events, a, [], he, hrun.begun, hn, hh⟩

end

end FaLocal.ExecutionService
