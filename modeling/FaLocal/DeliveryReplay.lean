import FaLocal.DeliveryRun
import FaLocal.SummaryFit

/-!
# Planned runs are carried out

The converse of the step loop's refinement: a fallback run whose attempts are
dispatched one after the other is what the loop does, provided that every step
can be put in progress.
-/
namespace FaLocal.ExecutionService

open FallbackRun (Layout Run Turn Verdict start available)

section
variable {α : Type} {world : DeliveryWorld α} {route : SelectedExecutionRoute}
  {validatedPlan : ValidatedExecutionPlan} {registry : AdapterRegistry α}
  {context : CoordinationContext} {link : ExecutionPlanId × String}

variable (route validatedPlan context link) in
/-- The loop can announce every declared step, and steps are told apart by
their identifiers. -/
structure Announceable : Prop where
  linked : planLink route = .ok link
  announced : ∀ step ∈ validatedPlan.plan.steps, ∃ statuses,
    buildInProgressStatusesFromRoute route [step.stepId] context.startedAtUtc = .ok statuses
  distinct : (validatedPlan.plan.steps.map (·.stepId)).Nodup
  declared : FallbacksDeclared validatedPlan.plan

theorem Announceable.same (h : Announceable route validatedPlan context link)
    {s t : ExecutionPlanStep} (hs : s ∈ validatedPlan.plan.steps)
    (ht : t ∈ validatedPlan.plan.steps) (he : s.stepId = t.stepId) : s = t :=
  List.inj_on_of_nodup_map h.distinct hs ht he

theorem attemptStep_returns (h : Announceable route validatedPlan context link)
    {step : ExecutionPlanStep} (hs : step ∈ validatedPlan.plan.steps) {log out : List (WorldEvent α)}
    {outcome : StepDeliveryOutcome}
    (hd : Dispatched world route validatedPlan registry log step outcome out) :
    ∃ inProgress, attemptStep world route validatedPlan registry context step log =
        (.ok (inProgress, outcome), out) ∧
      inProgress.map (·.status) =
        [inProgressStatus route link context.startedAtUtc step.stepId] := by
  obtain ⟨inProgress, hb⟩ := h.announced step hs
  obtain ⟨link', hl', hst⟩ := buildInProgress_eq_ok.mp hb
  cases h.linked.symm.trans hl'
  exact ⟨inProgress, attemptStep_ok.mpr ⟨hb, hd⟩, hst⟩

theorem named_eq_singleton {a : List (ExecutionPlanStep × StepDeliveryOutcome)} {stepId : String}
    {outcome : StepDeliveryOutcome} (h : a.map named = [(stepId, outcome)]) :
    ∃ step, a = [(step, outcome)] ∧ step.stepId = stepId := by
  obtain ⟨⟨step, o⟩, rfl, he⟩ := List.map_eq_singleton_iff.mp h
  cases he
  exact ⟨step, rfl, rfl⟩

theorem named_eq_pair {a : List (ExecutionPlanStep × StepDeliveryOutcome)} {s t : String}
    {o o' : StepDeliveryOutcome} (h : a.map named = [(s, o), (t, o')]) :
    ∃ step step', a = [(step, o), (step', o')] ∧ step.stepId = s ∧ step'.stepId = t := by
  obtain ⟨⟨step, o₁⟩, rest, rfl, he, hr⟩ := List.map_eq_cons_iff.mp h
  obtain ⟨step', rfl, rfl⟩ := named_eq_singleton hr
  cases he
  exact ⟨step, step', rfl, rfl, rfl⟩

/-- The fallback step that a completed lookup yields. -/
theorem fallbackFor_of_available (h : Announceable route validatedPlan context link)
    {st : LoopState} {step f : ExecutionPlanStep} {outcome : StepDeliveryOutcome}
    (ha : Attempt outcome) (hf : f ∈ validatedPlan.plan.steps)
    (hno : (deliveryPolicy validatedPlan.plan).completes outcome = false)
    (hav : available (deliveryPolicy validatedPlan.plan) st.config step.stepId = some f.stepId) :
    fallbackFor validatedPlan st step outcome = some f := by
  cases hfall : fallbackFor validatedPlan st step outcome with
  | none =>
    rcases (fallbackFor_none_iff h.declared ha).mp hfall with hc | hn
    · simp [hno] at hc
    · simp [hav] at hn
  | some g =>
    obtain ⟨hg, -, hav'⟩ := fallbackFor_some ha h.declared hfall
    have he : f.stepId = g.stepId := Option.some.inj (hav.symm.trans hav')
    rw [h.same hf hg he]

theorem stepTurn_dispatched {st : LoopState} {step : ExecutionPlanStep}
    (hn : st.config.held step.stepId = none) (hstop : st.config.stopped = false) :
    stepTurn world route validatedPlan registry context st step =
      dispatchTurn world route validatedPlan registry context st step := by
  have hn' : st.fallbackResults step.stepId = none := hn
  have hstop' : ¬ st.stopDispatching = true := Bool.eq_false_iff.mp hstop
  simp only [stepTurn, hn', if_neg hstop']

theorem Delivered.split {log out : List (WorldEvent α)}
    {a b : List (ExecutionPlanStep × StepDeliveryOutcome)}
    (h : Delivered world route registry validatedPlan log (a ++ b) out) :
    ∃ mid, Delivered world route registry validatedPlan log a mid ∧
      Delivered world route registry validatedPlan mid b out := by
  induction a generalizing log with
  | nil => exact ⟨log, .nil log, h⟩
  | cons q a ih =>
    cases h with
    | cons hs hd hr =>
      obtain ⟨mid, h₁, h₂⟩ := ih hr
      exact ⟨mid, .cons hs hd h₁, h₂⟩

/-- A turn of the run is a turn of the loop. -/
theorem stepTurn_of_turn (h : Announceable route validatedPlan context link) {st : LoopState}
    {step : ExecutionPlanStep} (hs : step ∈ validatedPlan.plan.steps)
    {a : List (ExecutionPlanStep × StepDeliveryOutcome)} {w : Verdict String StepDeliveryOutcome}
    {d : FallbackRun.Config String StepDeliveryOutcome} {log out : List (WorldEvent α)}
    (ht : Turn (deliveryPolicy validatedPlan.plan) st.config step.stepId (a.map named) w d)
    (hdel : Delivered world route registry validatedPlan log a out) :
    ∃ st', stepTurn world route validatedPlan registry context st step log = (.ok st', out) ∧
      st'.config = d ∧ TurnTaken st st' step.stepId link route context.startedAtUtc a w := by
  generalize hb : a.map named = b at ht
  cases ht with
  | reuse o ho =>
    cases List.map_eq_nil_iff.mp hb
    cases hdel
    have ho' : st.fallbackResults step.stepId = some o := ho
    simp only [stepTurn, ho']
    exact ⟨_, rfl, rfl, ⟨by simp, rfl⟩⟩
  | skip hn hstop =>
    cases List.map_eq_nil_iff.mp hb
    cases hdel
    have hn' : st.fallbackResults step.stepId = none := hn
    have hstop' : st.stopDispatching = true := hstop
    simp only [stepTurn, hn', if_pos hstop']
    exact ⟨_, rfl, rfl, ⟨by simp, rfl⟩⟩
  | own o hn hstop hav =>
    obtain ⟨step', rfl, he⟩ := named_eq_singleton hb
    cases hdel with
    | cons hs' hdis hrest =>
    cases hrest
    cases h.same hs' hs he
    obtain ⟨inProgress, hat, hst⟩ := attemptStep_returns h hs hdis
    have hfall := (fallbackFor_none_iff h.declared hdis.attempt).mpr hav
    rw [stepTurn_dispatched hn hstop, dispatchTurn, Traced.bind_of_ok hat]
    simp only [hfall]
    refine ⟨_, rfl, ?_, ⟨by simp [hst], rfl⟩⟩
    rw [← stops_eq hdis.attempt]
    rfl
  | retry o o' f hn hstop hno hav =>
    obtain ⟨step', fallbackStep, rfl, he, rfl⟩ := named_eq_pair hb
    cases hdel with
    | cons hs' hdis hrest =>
    cases hrest with
    | cons hf hdis' hrest =>
    cases hrest
    cases h.same hs' hs he
    obtain ⟨inProgress, hat, hst⟩ := attemptStep_returns h hs hdis
    obtain ⟨inProgress', hat', hst'⟩ := attemptStep_returns h hf hdis'
    have hfall := fallbackFor_of_available h hdis.attempt hf hno hav
    rw [stepTurn_dispatched hn hstop, dispatchTurn, Traced.bind_of_ok hat]
    simp only [hfall]
    rw [Traced.bind_of_ok hat']
    refine ⟨_, rfl, ?_, ⟨by simp [hst, hst'], ?_⟩⟩
    · rw [← retry_stops hdis.attempt hno]
      rfl
    · by_cases hc : o' = .completed <;> simp [hc, reported]

/-- The run of a list of steps is what the loop over them does. -/
theorem loop_of_run (h : Announceable route validatedPlan context link)
    {steps : List ExecutionPlanStep} (hs : ∀ s ∈ steps, s ∈ validatedPlan.plan.steps)
    {st : LoopState} {a : List (ExecutionPlanStep × StepDeliveryOutcome)}
    {v : List (String × Verdict String StepDeliveryOutcome)}
    {d : FallbackRun.Config String StepDeliveryOutcome} {log out : List (WorldEvent α)}
    (hr : Run (deliveryPolicy validatedPlan.plan) st.config (steps.map (·.stepId)) (a.map named)
      v d)
    (hdel : Delivered world route registry validatedPlan log a out) :
    ∃ st', steps.foldlM (stepTurn world route validatedPlan registry context) st log =
        (.ok st', out) ∧
      st'.config = d ∧ LoopDone st st' link route context.startedAtUtc a v := by
  induction steps generalizing st a v log with
  | nil =>
    generalize hb : a.map named = b at hr
    cases hr
    cases List.map_eq_nil_iff.mp hb
    cases hdel
    exact ⟨st, rfl, rfl, ⟨by simp, by simp⟩⟩
  | cons s steps ih =>
    obtain ⟨hs₁, hs₂⟩ := List.forall_mem_cons.mp hs
    generalize hb : a.map named = b at hr
    cases hr with
    | cons ht hr =>
    obtain ⟨a₁, a₂, rfl, rfl, rfl⟩ := List.map_eq_append_iff.mp hb
    obtain ⟨mid, hdel₁, hdel₂⟩ := hdel.split
    obtain ⟨st₁, h₁, rfl, ht₁⟩ := stepTurn_of_turn h hs₁ ht hdel₁
    obtain ⟨st₂, h₂, hd, hdone⟩ := ih hs₂ hr hdel₂
    refine ⟨st₂, ?_, hd, ⟨?_, ?_⟩⟩
    · rw [List.foldlM_cons, Traced.bind_of_ok h₁, h₂]
    · rw [hdone.statuses, ht₁.statuses, List.map_append, List.append_assoc]
    · rw [hdone.outcomes, ht₁.outcomes]
      simp

end

end FaLocal.ExecutionService
