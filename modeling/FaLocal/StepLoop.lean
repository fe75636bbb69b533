import FaLocal.ExecutionService
import FaLocal.Library.FallbackLaws

/-!
# The step loop as a fallback run

One turn of the loop is one turn of a fallback run over the step identifiers:
its attempts are logged in order, each put in progress before it is dispatched.
A loop that returns is a run; a loop that throws is a run broken off.
-/
namespace FaLocal.ExecutionService

open FallbackRun (Policy Config Turn Run Begun Verdict available)

/-- The fallback policy that a plan declares: the first reference of a step counts. -/
def deliveryPolicy (plan : ExecutionPlan) : Policy String StepDeliveryOutcome where
  completes := fun outcome => outcome == .completed
  fallback := fun stepId =>
    (plan.fallbackReferences.find? fun reference => reference.stepId == stepId).map
      (·.fallbackStepId)
  stops := plan.cancellationPolicy == .cancelRemainingSteps

def LoopState.config (st : LoopState) : Config String StepDeliveryOutcome :=
  ⟨st.fallbackResults, st.stopDispatching⟩

/-- The outcome that the loop reports for a verdict. -/
def reported : Verdict String StepDeliveryOutcome → StepDeliveryOutcome
  | .own outcome => outcome
  | .via fallbackStepId => .completedViaFallback fallbackStepId
  | .skipped => .skipped

/-- Every fallback reference names a declared step. -/
def FallbacksDeclared (plan : ExecutionPlan) : Prop :=
  ∀ r ∈ plan.fallbackReferences, r.fallbackStepId ∈ plan.steps.map (·.stepId)

@[simp] theorem completes_iff {plan : ExecutionPlan} {outcome : StepDeliveryOutcome} :
    (deliveryPolicy plan).completes outcome = true ↔ outcome = .completed := by
  simp [deliveryPolicy]

theorem stops_iff {plan : ExecutionPlan} :
    (deliveryPolicy plan).stops = true ↔ plan.cancellationPolicy = .cancelRemainingSteps := by
  simp [deliveryPolicy]

/-- A dispatched step completes, fails, is canceled or is unavailable. -/
def Attempt (outcome : StepDeliveryOutcome) : Prop :=
  outcome = .completed ∨ outcome.uncompleted = true

theorem Attempt.uncompleted_eq {outcome : StepDeliveryOutcome} (h : Attempt outcome) :
    outcome.uncompleted = !(outcome == .completed) := by
  rcases h with rfl | h
  · rfl
  · cases outcome <;> simp_all [StepDeliveryOutcome.uncompleted]

theorem perStepOutcome_attempt {adapterId : String} {result : AdapterDeliveryResult}
    {outcome : StepDeliveryOutcome} (h : perStepOutcome adapterId result = .ok outcome) :
    Attempt outcome := by
  cases result with
  | deliveredAllSteps =>
    cases h
    exact .inl rfl
  | completedWithDeclaredFallback stepId fallbackStepId degradedSubtype => cases h
  | failedAtDeclaredStep stepId failureSummary =>
    simp only [perStepOutcome, seq_eq_ok, pure, Except.pure, Except.ok.injEq] at h
    exact .inr (h.2 ▸ rfl)
  | canceledAtDeclaredStep stepId =>
    cases h
    exact .inr rfl
  | dependencyUnavailable summary =>
    simp only [perStepOutcome, seq_eq_ok, pure, Except.pure, Except.ok.injEq] at h
    exact .inr (h.2 ▸ rfl)
  | unsupported summary => cases h

section
variable {α : Type} (world : DeliveryWorld α) (route : SelectedExecutionRoute)
  (validatedPlan : ValidatedExecutionPlan) (registry : AdapterRegistry α)
  (context : CoordinationContext)

/-! ## One attempt -/

/-- The log of an attempt that was dispatched: the step is put in progress, and
the adapter registered for its capability, if there is one, is called once. -/
def Dispatched (log : List (WorldEvent α)) (step : ExecutionPlanStep)
    (outcome : StepDeliveryOutcome) (out : List (WorldEvent α)) : Prop :=
  match registry.resolve step.capabilityId with
  | none => outcome = .unavailable (noAdapterSummary step.capabilityId) ∧
      out = log ++ [.inProgress step.stepId]
  | some adapter => ∃ result,
      result = world.deliverRoute (log ++ [.inProgress step.stepId]) adapter
        (stepRequest route validatedPlan step) ∧
      perStepOutcome (world.adapterId adapter) result = .ok outcome ∧
      out = log ++ [.inProgress step.stepId,
        .called adapter (stepRequest route validatedPlan step) result]

/-- The log of an attempt whose answer the coordinator could not accept. -/
def Refused (log : List (WorldEvent α)) (step : ExecutionPlanStep) (error : Abort)
    (out : List (WorldEvent α)) : Prop :=
  ∃ adapter result, registry.resolve step.capabilityId = some adapter ∧
    result = world.deliverRoute (log ++ [.inProgress step.stepId]) adapter
      (stepRequest route validatedPlan step) ∧
    perStepOutcome (world.adapterId adapter) result = .error error ∧
    out = log ++ [.inProgress step.stepId,
      .called adapter (stepRequest route validatedPlan step) result]

variable {world route validatedPlan registry context}
  {log out : List (WorldEvent α)} {step : ExecutionPlanStep} {outcome : StepDeliveryOutcome}
  {inProgress : List ValidatedExecutionStatus} {error : Abort}

theorem Dispatched.attempt
    (h : Dispatched world route validatedPlan registry log step outcome out) :
    Attempt outcome := by
  simp only [Dispatched] at h
  split at h
  · exact .inr (h.1 ▸ rfl)
  · obtain ⟨result, -, ho, -⟩ := h
    exact perStepOutcome_attempt ho

theorem buildInProgress_eq_ok {startedAtUtc : TimestampUtc} {stepId : String} :
    buildInProgressStatusesFromRoute route [stepId] startedAtUtc = .ok inProgress ↔
      ∃ link, planLink route = .ok link ∧
        inProgress.map (·.status) = [inProgressStatus route link startedAtUtc stepId] := by
  cases hl : planLink route with
  | error e => simp [buildInProgressStatusesFromRoute, hl, bind, Except.bind]
  | ok link =>
    simp only [buildInProgressStatusesFromRoute, hl, bind, Except.bind, List.mapM_cons,
      List.mapM_nil, Except.ok.injEq, exists_eq_left', pure, Except.pure]
    cases he : emitStatus (inProgressStatus route link startedAtUtc stepId) with
    | error e =>
      simp only [reduceCtorEq, false_iff]
      intro h
      obtain ⟨s, rfl, hs⟩ := List.map_eq_singleton_iff.mp h
      rw [emitStatus_eq_ok.mpr hs] at he
      cases he
    | ok s =>
      have hs := emitStatus_eq_ok.mp he
      simp only [Except.ok.injEq]
      constructor
      · rintro rfl
        simp [hs]
      · intro h
        obtain ⟨s', rfl, hs'⟩ := List.map_eq_singleton_iff.mp h
        rw [emitStatus_eq_ok.mpr hs'] at he
        cases he
        rfl

theorem pushInProgress_apply (stepIds : List String) (startedAtUtc : TimestampUtc)
    (log : List (WorldEvent α)) :
    pushInProgress (α := α) route stepIds startedAtUtc log =
      match buildInProgressStatusesFromRoute route stepIds startedAtUtc with
      | .ok statuses => (.ok statuses, log ++ stepIds.map .inProgress)
      | .error e => (.error e, log) := by
  rw [pushInProgress, Traced.bind_apply, Traced.lift_apply]
  cases buildInProgressStatusesFromRoute route stepIds startedAtUtc <;> rfl

theorem dispatchOneStep_apply (log : List (WorldEvent α)) :
    dispatchOneStep world route validatedPlan registry step log =
      match registry.resolve step.capabilityId with
      | none => (.ok (.unavailable (noAdapterSummary step.capabilityId)), log)
      | some adapter =>
        (perStepOutcome (world.adapterId adapter)
          (world.deliverRoute log adapter (stepRequest route validatedPlan step)),
          log ++ [.called adapter (stepRequest route validatedPlan step)
            (world.deliverRoute log adapter (stepRequest route validatedPlan step))]) := by
  rw [dispatchOneStep]
  cases registry.resolve step.capabilityId <;> rfl

/-- What an attempt does when it returns. -/
theorem attemptStep_ok :
    attemptStep world route validatedPlan registry context step log =
        (.ok (inProgress, outcome), out) ↔
      buildInProgressStatusesFromRoute route [step.stepId] context.startedAtUtc = .ok inProgress ∧
      Dispatched world route validatedPlan registry log step outcome out := by
  rw [attemptStep, Traced.bind_apply, pushInProgress_apply]
  cases hb : buildInProgressStatusesFromRoute route [step.stepId] context.startedAtUtc with
  | error e => simp
  | ok statuses =>
    simp only [List.map_cons, List.map_nil, Traced.bind_apply, dispatchOneStep_apply, Dispatched]
    cases hr : registry.resolve step.capabilityId with
    | none =>
      simp only [Traced.pure_apply, Prod.mk.injEq, Except.ok.injEq]
      exact ⟨fun h => ⟨h.1.1, h.1.2.symm, h.2.symm⟩, fun h => ⟨⟨h.1, h.2.1.symm⟩, h.2.2.symm⟩⟩
    | some adapter =>
      simp only [List.append_assoc, List.cons_append, List.nil_append, exists_eq_left]
      cases perStepOutcome (world.adapterId adapter) (world.deliverRoute
        (log ++ [.inProgress step.stepId]) adapter (stepRequest route validatedPlan step)) with
      | error e => simp
      | ok o =>
        simp only [Traced.pure_apply, Prod.mk.injEq, Except.ok.injEq]
        exact ⟨fun h => ⟨h.1.1, h.1.2, h.2.symm⟩, fun h => ⟨⟨h.1, h.2.1⟩, h.2.2.symm⟩⟩

/-- What an attempt does when it throws. -/
theorem attemptStep_error :
    attemptStep world route validatedPlan registry context step log = (.error error, out) ↔
      (buildInProgressStatusesFromRoute route [step.stepId] context.startedAtUtc = .error error ∧
        out = log) ∨
      (∃ statuses, buildInProgressStatusesFromRoute route [step.stepId] context.startedAtUtc =
        .ok statuses) ∧ Refused world route validatedPlan registry log step error out := by
  rw [attemptStep, Traced.bind_apply, pushInProgress_apply]
  cases hb : buildInProgressStatusesFromRoute route [step.stepId] context.startedAtUtc with
  | error e => simp [eq_comm]
  | ok statuses =>
    simp only [List.map_cons, List.map_nil, Traced.bind_apply, dispatchOneStep_apply, Refused]
    cases hr : registry.resolve step.capabilityId with
    | none => simp
    | some adapter =>
      cases ho : perStepOutcome (world.adapterId adapter) (world.deliverRoute
        (log ++ [.inProgress step.stepId]) adapter (stepRequest route validatedPlan step)) with
      | error e => simp [ho, eq_comm]
      | ok o => simp [ho]

end

/-! ## One turn -/

section
variable {validatedPlan : ValidatedExecutionPlan}

theorem fallback_eq_some {plan : ExecutionPlan} {stepId f : String}
    (h : (deliveryPolicy plan).fallback stepId = some f) :
    ∃ r ∈ plan.fallbackReferences, r.stepId = stepId ∧ r.fallbackStepId = f := by
  obtain ⟨r, hr, rfl⟩ := Option.map_eq_some_iff.mp h
  exact ⟨r, List.mem_of_find?_eq_some hr, by simpa using List.find?_some hr, rfl⟩

theorem declaredFallbackStep_mem {stepId : String} {consumed : String → Option StepDeliveryOutcome}
    {f : ExecutionPlanStep} (h : declaredFallbackStep validatedPlan stepId consumed = some f) :
    f ∈ validatedPlan.plan.steps := by
  simp only [declaredFallbackStep] at h
  split at h
  · cases h
  · split at h
    · cases h
    · exact List.mem_of_find?_eq_some h

/-- The step that the source looks up is the available fallback of the policy. -/
theorem declaredFallbackStep_map (hd : FallbacksDeclared validatedPlan.plan)
    (c : Config String StepDeliveryOutcome) (stepId : String) :
    (declaredFallbackStep validatedPlan stepId c.held).map (·.stepId) =
      available (deliveryPolicy validatedPlan.plan) c stepId := by
  cases hr : validatedPlan.plan.fallbackReferences.find? fun reference =>
      reference.stepId == stepId with
  | none => simp [declaredFallbackStep, available, deliveryPolicy, hr]
  | some r =>
    simp only [declaredFallbackStep, available, deliveryPolicy, hr, Option.map_some,
      Option.filter_some, Option.isNone_iff_eq_none]
    cases hc : c.held r.fallbackStepId with
    | some o => simp
    | none =>
      simp only [Option.isSome_none, Bool.false_eq_true, if_false, if_true]
      obtain ⟨f, hf, he⟩ := List.mem_map.mp (hd r (List.mem_of_find?_eq_some hr))
      cases hfind : validatedPlan.plan.steps.find? fun step =>
          step.stepId == r.fallbackStepId with
      | none =>
        have := List.find?_eq_none.mp hfind f hf
        simp [he] at this
      | some g => simpa using List.find?_some hfind

/-- An attempt as the library sees it. -/
def named (attempt : ExecutionPlanStep × StepDeliveryOutcome) : String × StepDeliveryOutcome :=
  (attempt.1.stepId, attempt.2)

variable {α : Type} (world : DeliveryWorld α) (route : SelectedExecutionRoute)
  (registry : AdapterRegistry α) (context : CoordinationContext)

/-- The log of a list of dispatched attempts. -/
inductive Delivered (validatedPlan : ValidatedExecutionPlan) : List (WorldEvent α) →
    List (ExecutionPlanStep × StepDeliveryOutcome) → List (WorldEvent α) → Prop where
  | nil (log : List (WorldEvent α)) : Delivered validatedPlan log [] log
  | cons {log mid out : List (WorldEvent α)} {step : ExecutionPlanStep}
      {outcome : StepDeliveryOutcome} {rest : List (ExecutionPlanStep × StepDeliveryOutcome)} :
      step ∈ validatedPlan.plan.steps →
      Dispatched world route validatedPlan registry log step outcome mid →
      Delivered validatedPlan mid rest out →
      Delivered validatedPlan log ((step, outcome) :: rest) out

variable {world route registry context}

theorem Delivered.append {log mid out : List (WorldEvent α)}
    {a b : List (ExecutionPlanStep × StepDeliveryOutcome)}
    (h : Delivered world route registry validatedPlan log a mid)
    (h' : Delivered world route registry validatedPlan mid b out) :
    Delivered world route registry validatedPlan log (a ++ b) out := by
  induction h with
  | nil log => exact h'
  | cons hs hd _ ih => exact .cons hs hd (ih h')

theorem Delivered.single {log out : List (WorldEvent α)} {step : ExecutionPlanStep}
    {outcome : StepDeliveryOutcome} (hs : step ∈ validatedPlan.plan.steps)
    (hd : Dispatched world route validatedPlan registry log step outcome out) :
    Delivered world route registry validatedPlan log [(step, outcome)] out :=
  .cons hs hd (.nil out)

/-- What one returning turn adds to the loop state. -/
structure TurnTaken (st st' : LoopState) (stepId : String) (link : ExecutionPlanId × String)
    (route : SelectedExecutionRoute) (startedAtUtc : TimestampUtc)
    (a : List (ExecutionPlanStep × StepDeliveryOutcome))
    (w : Verdict String StepDeliveryOutcome) : Prop where
  statuses : st'.statuses.map (·.status) = st.statuses.map (·.status) ++
    a.map fun attempt => inProgressStatus route link startedAtUtc attempt.1.stepId
  outcomes : st'.outcomes = st.outcomes ++ [(stepId, reported w)]

variable {st st' : LoopState} {step : ExecutionPlanStep} {log out : List (WorldEvent α)}
  {link : ExecutionPlanId × String}

theorem fallbackFor_none_iff (hd : FallbacksDeclared validatedPlan.plan)
    {outcome : StepDeliveryOutcome} (ha : Attempt outcome) :
    fallbackFor validatedPlan st step outcome = none ↔
      (deliveryPolicy validatedPlan.plan).completes outcome = true ∨
        available (deliveryPolicy validatedPlan.plan) st.config step.stepId = none := by
  rw [fallbackFor, ha.uncompleted_eq, ← declaredFallbackStep_map hd]
  simp only [deliveryPolicy, LoopState.config, Option.map_eq_none_iff]
  cases outcome == .completed <;> simp

theorem fallbackFor_some {outcome : StepDeliveryOutcome} (ha : Attempt outcome)
    (hd : FallbacksDeclared validatedPlan.plan) {f : ExecutionPlanStep}
    (h : fallbackFor validatedPlan st step outcome = some f) :
    f ∈ validatedPlan.plan.steps ∧
      (deliveryPolicy validatedPlan.plan).completes outcome = false ∧
      available (deliveryPolicy validatedPlan.plan) st.config step.stepId = some f.stepId := by
  rw [fallbackFor, ha.uncompleted_eq] at h
  split at h
  · rename_i hc
    refine ⟨declaredFallbackStep_mem h, by simpa [deliveryPolicy] using hc, ?_⟩
    rw [← declaredFallbackStep_map hd, LoopState.config, h]
    rfl
  · cases h

/-- The stop flag of the source is that of the policy. -/
theorem stops_eq {outcome : StepDeliveryOutcome} (ha : Attempt outcome) :
    (outcome.uncompleted && validatedPlan.plan.cancellationPolicy == .cancelRemainingSteps) =
      (!(deliveryPolicy validatedPlan.plan).completes outcome &&
        (deliveryPolicy validatedPlan.plan).stops) := by
  rw [ha.uncompleted_eq]
  rfl

theorem retry_stops {outcome outcome' : StepDeliveryOutcome} {f : String} (ha : Attempt outcome)
    (hno : (deliveryPolicy validatedPlan.plan).completes outcome = false) :
    ((if outcome' = .completed then .completedViaFallback f else outcome).uncompleted &&
        validatedPlan.plan.cancellationPolicy == .cancelRemainingSteps) =
      (!(deliveryPolicy validatedPlan.plan).completes outcome' &&
        (deliveryPolicy validatedPlan.plan).stops) := by
  by_cases hc : outcome' = .completed
  · simp [hc, StepDeliveryOutcome.uncompleted]
  · have hc' : (deliveryPolicy validatedPlan.plan).completes outcome' = false := by
      rw [← Bool.not_eq_true, completes_iff]
      exact hc
    rw [if_neg hc, stops_eq ha, hno, hc']

/-- A dispatched turn that returns is a turn of the fallback run. -/
theorem dispatchTurn_ok (hd : FallbacksDeclared validatedPlan.plan)
    (hs : step ∈ validatedPlan.plan.steps) (hl : planLink route = .ok link)
    (hnone : st.config.held step.stepId = none) (hstop : st.config.stopped = false)
    (h : dispatchTurn world route validatedPlan registry context st step log = (.ok st', out)) :
    ∃ a w, Turn (deliveryPolicy validatedPlan.plan) st.config step.stepId (a.map named) w
        st'.config ∧
      Delivered world route registry validatedPlan log a out ∧
      TurnTaken st st' step.stepId link route context.startedAtUtc a w := by
  obtain ⟨⟨inProgress, outcome⟩, mid, h₁, h⟩ := Traced.bind_eq_ok h
  obtain ⟨hb, hdis⟩ := attemptStep_ok.mp h₁
  obtain ⟨link', hl', hst⟩ := buildInProgress_eq_ok.mp hb
  cases hl.symm.trans hl'
  have ha := hdis.attempt
  cases hf : fallbackFor validatedPlan st step outcome with
  | none =>
    simp only [hf] at h
    cases h
    have ht := Turn.own outcome hnone hstop ((fallbackFor_none_iff hd ha).mp hf)
    rw [← stops_eq ha] at ht
    exact ⟨[(step, outcome)], .own outcome, ht, .single hs hdis, ⟨by simp [hst], rfl⟩⟩
  | some f =>
    simp only [hf] at h
    obtain ⟨⟨inProgress', outcome'⟩, mid', h₂, h⟩ := Traced.bind_eq_ok h
    obtain ⟨hb', hdis'⟩ := attemptStep_ok.mp h₂
    obtain ⟨link', hl', hst'⟩ := buildInProgress_eq_ok.mp hb'
    cases hl.symm.trans hl'
    obtain ⟨hfm, hno, hav⟩ := fallbackFor_some ha hd hf
    cases h
    have ht := Turn.retry outcome outcome' f.stepId hnone hstop hno hav
    rw [← retry_stops ha hno] at ht
    refine ⟨[(step, outcome), (f, outcome')], _, ht, .cons hs hdis (.single hfm hdis'),
      ⟨by simp [hst, hst'], ?_⟩⟩
    by_cases hc : outcome' = .completed <;> simp [hc, reported]

/-- A returning turn is a turn of the fallback run. -/
theorem stepTurn_ok (hd : FallbacksDeclared validatedPlan.plan)
    (hs : step ∈ validatedPlan.plan.steps) (hl : planLink route = .ok link)
    (h : stepTurn world route validatedPlan registry context st step log = (.ok st', out)) :
    ∃ a w, Turn (deliveryPolicy validatedPlan.plan) st.config step.stepId (a.map named) w
        st'.config ∧
      Delivered world route registry validatedPlan log a out ∧
      TurnTaken st st' step.stepId link route context.startedAtUtc a w := by
  cases hnone : st.fallbackResults step.stepId with
  | some outcome =>
    simp only [stepTurn, hnone] at h
    cases h
    exact ⟨[], .own outcome, .reuse outcome hnone, .nil _, ⟨by simp, rfl⟩⟩
  | none =>
    by_cases hstop : st.stopDispatching = true
    · simp only [stepTurn, hnone, if_pos hstop] at h
      cases h
      exact ⟨[], .skipped, .skip hnone hstop, .nil _, ⟨by simp, rfl⟩⟩
    · simp only [stepTurn, hnone, if_neg hstop] at h
      exact dispatchTurn_ok hd hs hl hnone (Bool.eq_false_iff.mpr hstop) h

variable {error : Abort}

variable (world route registry context) in
/-- Why the loop throws: a step could not be put in progress, or an answer was
not accepted. The list holds the step whose call was still made. -/
inductive Stuck (validatedPlan : ValidatedExecutionPlan) (log : List (WorldEvent α))
    (error : Abort) : List String → List (WorldEvent α) → Prop where
  | unannounced {step : ExecutionPlanStep} : step ∈ validatedPlan.plan.steps →
      buildInProgressStatusesFromRoute route [step.stepId] context.startedAtUtc = .error error →
      Stuck validatedPlan log error [] log
  | refused {step : ExecutionPlanStep} {out : List (WorldEvent α)} :
      step ∈ validatedPlan.plan.steps →
      Refused world route validatedPlan registry log step error out →
      Stuck validatedPlan log error [step.stepId] out

theorem Stuck.of_attempt (hs : step ∈ validatedPlan.plan.steps)
    (h : attemptStep world route validatedPlan registry context step log = (.error error, out)) :
    ∃ l, Stuck world route registry context validatedPlan log error l out ∧
      (l = [] ∨ l = [step.stepId]) := by
  rcases attemptStep_error.mp h with ⟨hb, rfl⟩ | ⟨-, hr⟩
  · exact ⟨[], .unannounced hs hb, .inl rfl⟩
  · exact ⟨[step.stepId], .refused hs hr, .inr rfl⟩

/-- A throwing turn is a turn of the fallback run that was broken off. -/
theorem stepTurn_error (hd : FallbacksDeclared validatedPlan.plan)
    (hs : step ∈ validatedPlan.plan.steps) (rest : List String)
    (h : stepTurn world route validatedPlan registry context st step log =
      (.error error, out)) :
    ∃ a l mid, Begun (deliveryPolicy validatedPlan.plan) st.config (step.stepId :: rest)
        (a.map named) l ∧
      Delivered world route registry validatedPlan log a mid ∧
      Stuck world route registry context validatedPlan mid error l out := by
  cases hnone : st.fallbackResults step.stepId with
  | some outcome => simp [stepTurn, hnone] at h
  | none =>
    by_cases hstop : st.stopDispatching = true
    · simp [stepTurn, hnone, hstop] at h
    · simp only [stepTurn, hnone, if_neg hstop] at h
      have hstop' : st.config.stopped = false := Bool.eq_false_iff.mpr hstop
      rcases Traced.bind_eq_error h with h₁ | ⟨⟨inProgress, outcome⟩, mid, h₁, h⟩
      · obtain ⟨l, hl, he | he⟩ := Stuck.of_attempt hs h₁
        · exact ⟨[], l, log, he ▸ .nil _ _, .nil log, hl⟩
        · exact ⟨[], l, log, he ▸ .own hnone hstop', .nil log, hl⟩
      · obtain ⟨-, hdis⟩ := attemptStep_ok.mp h₁
        cases hf : fallbackFor validatedPlan st step outcome with
        | none => simp [hf] at h
        | some f =>
          obtain ⟨hfm, hno, hav⟩ := fallbackFor_some hdis.attempt hd hf
          simp only [hf] at h
          rcases Traced.bind_eq_error h with h₂ | ⟨⟨inProgress', outcome'⟩, mid', h₂, h⟩
          · obtain ⟨l, hl, he | he⟩ := Stuck.of_attempt hfm h₂
            · exact ⟨[(step, outcome)], l, mid, he ▸ .returned outcome hnone hstop',
                .single hs hdis, hl⟩
            · exact ⟨[(step, outcome)], l, mid, he ▸ .retry outcome hnone hstop' hav,
                .single hs hdis, hl⟩
          · simp at h

/-! ## The whole loop -/

/-- What a returning loop adds to its state. -/
structure LoopDone (st st' : LoopState) (link : ExecutionPlanId × String)
    (route : SelectedExecutionRoute) (startedAtUtc : TimestampUtc)
    (a : List (ExecutionPlanStep × StepDeliveryOutcome))
    (v : List (String × Verdict String StepDeliveryOutcome)) : Prop where
  statuses : st'.statuses.map (·.status) = st.statuses.map (·.status) ++
    a.map fun attempt => inProgressStatus route link startedAtUtc attempt.1.stepId
  outcomes : st'.outcomes = st.outcomes ++ v.map fun q => (q.1, reported q.2)

/-- A returning loop is a run. -/
theorem loop_ok (hd : FallbacksDeclared validatedPlan.plan) (hl : planLink route = .ok link)
    {steps : List ExecutionPlanStep} (hs : ∀ s ∈ steps, s ∈ validatedPlan.plan.steps)
    (h : steps.foldlM (stepTurn world route validatedPlan registry context) st log =
      (.ok st', out)) :
    ∃ a v, Run (deliveryPolicy validatedPlan.plan) st.config (steps.map (·.stepId))
        (a.map named) v st'.config ∧
      Delivered world route registry validatedPlan log a out ∧
      LoopDone st st' link route context.startedAtUtc a v := by
  induction steps generalizing st log with
  | nil =>
    cases h
    exact ⟨[], [], .nil _, .nil _, ⟨by simp, by simp⟩⟩
  | cons s steps ih =>
    rw [List.foldlM_cons] at h
    obtain ⟨st₁, mid, h₁, h₂⟩ := Traced.bind_eq_ok h
    obtain ⟨hs₁, hs₂⟩ := List.forall_mem_cons.mp hs
    obtain ⟨a, w, ht, hda, hta⟩ := stepTurn_ok hd hs₁ hl h₁
    obtain ⟨b, v, hr, hdb, hdone⟩ := ih hs₂ h₂
    refine ⟨a ++ b, (s.stepId, w) :: v, ?_, hda.append hdb, ⟨?_, ?_⟩⟩
    · rw [List.map_append]
      exact .cons ht hr
    · rw [hdone.statuses, hta.statuses, List.map_append, List.append_assoc]
    · rw [hdone.outcomes, hta.outcomes]
      simp

/-- A throwing loop is a run broken off. -/
theorem loop_error (hd : FallbacksDeclared validatedPlan.plan) (hl : planLink route = .ok link)
    {steps : List ExecutionPlanStep} (hs : ∀ s ∈ steps, s ∈ validatedPlan.plan.steps)
    (h : steps.foldlM (stepTurn world route validatedPlan registry context) st log =
      (.error error, out)) :
    ∃ a l mid, Begun (deliveryPolicy validatedPlan.plan) st.config (steps.map (·.stepId))
        (a.map named) l ∧
      Delivered world route registry validatedPlan log a mid ∧
      Stuck world route registry context validatedPlan mid error l out := by
  induction steps generalizing st log with
  | nil => cases h
  | cons s steps ih =>
    rw [List.foldlM_cons] at h
    obtain ⟨hs₁, hs₂⟩ := List.forall_mem_cons.mp hs
    rcases Traced.bind_eq_error h with h₁ | ⟨st₁, mid, h₁, h₂⟩
    · exact stepTurn_error hd hs₁ _ h₁
    · obtain ⟨a, w, ht, hda, -⟩ := stepTurn_ok hd hs₁ hl h₁
      obtain ⟨b, l, mid', hb, hdb, hst⟩ := ih hs₂ h₂
      refine ⟨a ++ b, l, mid', ?_, hda.append hdb, hst⟩
      rw [List.map_append]
      exact .turn ht hb

end

end FaLocal.ExecutionService
