import FaLocal.DeliveredWork
import FaLocal.Footprint
import FaLocal.PlanPreimage

/-!
# What the stable plan hash determines

Plans with one canonical form have the same steps and the same fallback
references up to their order. The order is not hashed, yet the first reference
of a step is the one that counts.
-/
namespace FaLocal

namespace ExecutionPlanValidator

/-- What plans with one canonical form share. -/
structure SameContent (p q : ExecutionPlan) : Prop where
  steps : p.steps = q.steps
  capabilities : p.referencedCapabilities.Perm q.referencedCapabilities
  fallbacks : p.fallbackReferences.Perm q.fallbackReferences
  cancellation : p.cancellationPolicy = q.cancellationPolicy

theorem sameContent_of_canonical {p q : ExecutionPlan} (h : canonical p = canonical q) :
    SameContent p q := by
  have hsame := canonical_eq_iff.mp h
  exact ⟨hsame.steps, hsame.capabilities, hsame.fallbacks, hsame.cancellation⟩

end ExecutionPlanValidator

namespace ExecutionService

open FallbackRun (Config Policy Turn Verdict)
open ExecutionPlanValidator (SameContent)

/-! ## Routes that differ only in declared lists -/

/-- The routes stamp and address alike. -/
structure Alike (route route' : SelectedExecutionRoute) : Prop where
  routeDecisionId : route.routeDecisionId = route'.routeDecisionId
  correlationId : route.correlationId = route'.correlationId
  requestId : route.requestId = route'.requestId
  posture : route.resolvedApprovalPosture = route'.resolvedApprovalPosture
  executionPlanId : route.executionPlanId = route'.executionPlanId
  stablePlanHash : route.stablePlanHash = route'.stablePlanHash

section
variable {route route' : SelectedExecutionRoute} (h : Alike route route')
include h

theorem Alike.routeStatus_eq : routeStatus route = routeStatus route' := by
  funext link state updatedAtUtc summary
  simp only [routeStatus, h.correlationId, h.requestId, h.posture]

theorem Alike.planLink_eq : planLink route = planLink route' := by
  simp only [planLink, h.executionPlanId, h.stablePlanHash]

theorem Alike.inProgress_eq :
    buildInProgressStatusesFromRoute route = buildInProgressStatusesFromRoute route' := by
  funext stepIds startedAtUtc
  simp only [buildInProgressStatusesFromRoute, inProgressStatus, h.planLink_eq, h.routeStatus_eq]

theorem Alike.planOutcome_eq :
    buildPlanOutcomeStatusFromRoute route = buildPlanOutcomeStatusFromRoute route' := by
  funext outcomes startedAtUtc completedAtUtc
  simp only [buildPlanOutcomeStatusFromRoute, buildPlanCompletedViaFallbackStatusFromRoute,
    buildCompletedStatusFromRoute, buildPartialSuccessStatusFromRoute, buildFailedStatusFromRoute,
    buildCanceledStatusFromRoute, buildUnavailableDependencyStatusFromRoute, constrainedStatus,
    completedStatus, partialSuccessStatus, failedStatus, canceledStatus,
    unavailableDependencyStatus, h.planLink_eq, h.routeStatus_eq]

end

/-! ## Identifiers that have been announced -/

section
variable {α : Type} {world : DeliveryWorld α} {route : SelectedExecutionRoute}
  {v : ValidatedExecutionPlan} {registry : AdapterRegistry α} {context : CoordinationContext}
  {link : ExecutionPlanId × String}

theorem inProgress_valid {stepId : String} {startedAtUtc : TimestampUtc}
    {s : ValidatedExecutionStatus}
    (h : s.status = inProgressStatus route link startedAtUtc stepId) :
    isValidStepId stepId = true := by
  have hv := s.valid
  rw [h, ExecutionStatus.validate_eq_ok, inProgress_texts] at hv
  exact hv.1

theorem announced_valid {stepId : String} {startedAtUtc : TimestampUtc}
    {statuses : List ValidatedExecutionStatus}
    (h : buildInProgressStatusesFromRoute route [stepId] startedAtUtc = .ok statuses) :
    isValidStepId stepId = true := by
  obtain ⟨link, -, hs⟩ := buildInProgress_eq_ok.mp h
  obtain ⟨s, -, hs⟩ := List.map_eq_singleton_iff.mp hs
  exact inProgress_valid hs

/-- A malformed identifier is refused with the same error, whatever it is. -/
theorem announce_malformed (hl : planLink route = .ok link) {stepId : String}
    (h : isValidStepId stepId = false) (startedAtUtc : TimestampUtc) :
    buildInProgressStatusesFromRoute route [stepId] startedAtUtc = .error (contractInvalid
      "execution status current_step must match the bounded step id pattern") := by
  have he : emitStatus (inProgressStatus route link startedAtUtc stepId) = .error (contractInvalid
      "execution status current_step must match the bounded step id pattern") := by
    refine emitStatus_eq_error.mpr ?_
    simp only [ExecutionStatus.validate, ExecutionStatus.validateOptionalPlanLink,
      ExecutionStatus.validateOptionalStep, inProgressStatus, routeStatus, Option.all_some, h,
      require, bind, Except.bind]
    rfl
  simp [buildInProgressStatusesFromRoute, hl, he, bind, Except.bind]

/-- Held identifiers are valid, and so is everything passed before a stop. -/
structure Sound (pre : List String) (c : Config String StepDeliveryOutcome) : Prop where
  held : ∀ stepId outcome, c.held stepId = some outcome → isValidStepId stepId = true
  passed : c.stopped = true ∨ ∀ stepId ∈ pre, isValidStepId stepId = true

theorem Sound.turn {pre : List String} {c c' : Config String StepDeliveryOutcome}
    (h : Sound pre c) {P : Policy String StepDeliveryOutcome} {stepId : String}
    {a : List (String × StepDeliveryOutcome)} {w : Verdict String StepDeliveryOutcome}
    (ht : Turn P c stepId a w c') (hvalid : ∀ q ∈ a, isValidStepId q.1 = true) :
    Sound (pre ++ [stepId]) c' := by
  have hpre : c.stopped = false → isValidStepId stepId = true →
      ∀ t ∈ pre ++ [stepId], isValidStepId t = true := by
    intro hgo hv t ht
    rcases List.mem_append.mp ht with ht | ht
    · exact h.passed.resolve_left (by simp [hgo]) t ht
    · exact List.mem_singleton.mp ht ▸ hv
  cases ht with
  | reuse o ho =>
    refine ⟨fun t o' ho' => ?_, ?_⟩
    · by_cases hts : t = stepId
      · simp [hts] at ho'
      · exact h.held t o' (by simpa [hts] using ho')
    · cases hgo : c.stopped with
      | true => exact .inl rfl
      | false => exact .inr (hpre hgo (h.held _ o ho))
  | skip hn hgo => exact ⟨h.held, .inl hgo⟩
  | own o hn hgo hav => exact ⟨h.held, .inr (hpre hgo (hvalid (stepId, o) (by simp)))⟩
  | retry o o' f hn hgo hno hav =>
    refine ⟨fun t o₁ ho₁ => ?_, .inr (hpre hgo (hvalid (stepId, o) (by simp)))⟩
    by_cases htf : t = f
    · exact htf ▸ hvalid (f, o') (by simp)
    · exact h.held t o₁ (by simpa [htf] using ho₁)

/-- A returning turn keeps the loop state sound. -/
theorem Sound.step {pre : List String} {st st' : LoopState} (h : Sound pre st.config)
    (hd : FallbacksDeclared v.plan) (hl : planLink route = .ok link) {step : ExecutionPlanStep}
    (hs : step ∈ v.plan.steps) {log out : List (WorldEvent α)}
    (hr : stepTurn world route v registry context st step log = (.ok st', out)) :
    Sound (pre ++ [step.stepId]) st'.config := by
  obtain ⟨a, w, ht, -, htaken⟩ := stepTurn_ok hd hs hl hr
  refine h.turn ht fun q hq => ?_
  obtain ⟨p, hp, rfl⟩ := List.mem_map.mp hq
  have hm : inProgressStatus route link context.startedAtUtc p.1.stepId ∈
      st'.statuses.map (·.status) := by
    rw [htaken.statuses]
    exact List.mem_append_right _ (List.mem_map_of_mem hp)
  obtain ⟨s, -, hst⟩ := List.mem_map.mp hm
  exact inProgress_valid hst

end

/-! ## Plans that run alike -/

/-- Validated plans with one content, one identity and one hash. -/
structure Twin (v v' : ValidatedExecutionPlan) : Prop where
  content : SameContent v.plan v'.plan
  executionPlanId : v.plan.executionPlanId = v'.plan.executionPlanId
  stablePlanHash : v.stablePlanHash = v'.stablePlanHash
  declared : FallbacksDeclared v.plan

/-- The plans fall back alike from a step: to the same step, or both to a step
whose identifier cannot be announced. -/
def AgreeAt (p q : ExecutionPlan) (stepId : String) : Prop :=
  (deliveryPolicy p).fallback stepId = (deliveryPolicy q).fallback stepId ∨
  ∃ f f', (deliveryPolicy p).fallback stepId = some f ∧
    (deliveryPolicy q).fallback stepId = some f' ∧
    isValidStepId f = false ∧ isValidStepId f' = false

theorem declaredFallbackStep_eq (v : ValidatedExecutionPlan) (stepId : String)
    (held : String → Option StepDeliveryOutcome) :
    declaredFallbackStep v stepId held = ((deliveryPolicy v.plan).fallback stepId).bind fun f =>
      if (held f).isSome then none else v.plan.steps.find? fun step => step.stepId == f := by
  simp only [declaredFallbackStep, deliveryPolicy]
  cases v.plan.fallbackReferences.find? fun reference => reference.stepId == stepId <;> rfl

section
variable {α : Type} {world : DeliveryWorld α} {route route' : SelectedExecutionRoute}
  {v v' : ValidatedExecutionPlan} {registry : AdapterRegistry α} {context : CoordinationContext}
  {link : ExecutionPlanId × String}

variable (world registry context) in
theorem attemptStep_eq (ha : Alike route route') (ht : Twin v v') :
    attemptStep world route v registry context = attemptStep world route' v' registry context := by
  funext step
  simp only [attemptStep, pushInProgress, dispatchOneStep, stepRequest, ha.inProgress_eq,
    ha.routeDecisionId, ha.correlationId, ha.requestId, ha.posture, ht.executionPlanId,
    ht.stablePlanHash]

variable (world registry context) in
/-- A declared fallback with a malformed identifier cannot be attempted. -/
theorem attempt_malformed (hl : planLink route = .ok link) (hd : FallbacksDeclared v.plan)
    {pre : List String} {st : LoopState} (hs : Sound pre st.config) {step : ExecutionPlanStep}
    {f : String} (hf : (deliveryPolicy v.plan).fallback step.stepId = some f)
    (hv : isValidStepId f = false) {outcome : StepDeliveryOutcome}
    (hu : outcome.uncompleted = true) (log : List (WorldEvent α)) :
    ∃ g, fallbackFor v st step outcome = some g ∧
      attemptStep world route v registry context g log = (.error (contractInvalid
        "execution status current_step must match the bounded step id pattern"), log) := by
  have hfree : st.fallbackResults f = none := by
    cases ho : st.fallbackResults f with
    | none => rfl
    | some o => simp [hs.held f o ho] at hv
  obtain ⟨r, hr, -, rfl⟩ := fallback_eq_some hf
  obtain ⟨g, hg, hgid⟩ := List.mem_map.mp (hd r hr)
  cases hfind : v.plan.steps.find? fun step => step.stepId == r.fallbackStepId with
  | none =>
    have hno := List.find?_eq_none.mp hfind g hg
    simp [hgid] at hno
  | some g' =>
    have hid : g'.stepId = r.fallbackStepId := by simpa using List.find?_some hfind
    refine ⟨g', ?_, ?_⟩
    · rw [fallbackFor, if_pos hu, declaredFallbackStep_eq, hf]
      simp [hfree, hfind]
    · exact attemptStep_error.mpr (.inl ⟨announce_malformed hl (hid ▸ hv) _, rfl⟩)

/-- Where the plans fall back alike, so does a turn. -/
theorem stepTurn_agree (ha : Alike route route') (ht : Twin v v')
    (hd' : FallbacksDeclared v'.plan) (hl : planLink route = .ok link) {pre : List String}
    {st : LoopState} (hs : Sound pre st.config) {step : ExecutionPlanStep}
    (hagree : (∀ id ∈ pre ++ [step.stepId], isValidStepId id = true) →
      AgreeAt v.plan v'.plan step.stepId) (log : List (WorldEvent α)) :
    stepTurn world route v registry context st step log =
      stepTurn world route' v' registry context st step log := by
  cases hn : st.fallbackResults step.stepId with
  | some o => simp only [stepTurn, hn]
  | none =>
  cases hgo : st.stopDispatching with
  | true => simp only [stepTurn, hn, hgo, if_true]
  | false =>
  have hgo' : ¬ st.stopDispatching = true := by simp [hgo]
  have hatt := attemptStep_eq world registry context ha ht
  simp only [stepTurn, hn, if_neg hgo', dispatchTurn, ← hatt, ← ht.content.cancellation,
    Traced.bind_apply]
  cases h : attemptStep world route v registry context step log with
  | mk r mid =>
  cases r with
  | error e => rfl
  | ok p =>
  obtain ⟨inProgress, outcome⟩ := p
  obtain ⟨hb, hdis⟩ := attemptStep_ok.mp h
  have hvalid : ∀ id ∈ pre ++ [step.stepId], isValidStepId id = true := by
    intro id hid
    rcases List.mem_append.mp hid with hid | hid
    · exact hs.passed.resolve_left hgo' id hid
    · exact List.mem_singleton.mp hid ▸ announced_valid hb
  rcases hagree hvalid with he | ⟨f, f', hf, hf', hv, hv'⟩
  · have hfall : fallbackFor v' st step outcome = fallbackFor v st step outcome := by
      rw [fallbackFor, fallbackFor, declaredFallbackStep_eq, declaredFallbackStep_eq, he,
        ht.content.steps]
    simp only [hfall]
  · cases hu : outcome.uncompleted with
    | false => simp [fallbackFor, hu]
    | true =>
      have hl' : planLink route' = .ok link := ha.planLink_eq ▸ hl
      obtain ⟨g, hg, hge⟩ :=
        attempt_malformed world registry context hl ht.declared hs hf hv hu mid
      obtain ⟨g', hg', hge'⟩ :=
        attempt_malformed world registry context hl' hd' hs hf' hv' hu mid
      rw [← hatt] at hge'
      simp only [hg, hg', Traced.bind_apply, hge, hge']

/-- The plans fall back alike from every step that a run can dispatch: up to
that step, all identifiers can be announced. -/
def FallBackAlike (p q : ExecutionPlan) : Prop :=
  ∀ pre step post, p.steps = pre ++ step :: post →
    (∀ t ∈ pre ++ [step], isValidStepId t.stepId = true) → AgreeAt p q step.stepId

theorem Twin.declared' (ht : Twin v v') : FallbacksDeclared v'.plan := by
  intro r hr
  rw [← ht.content.steps]
  exact ht.declared r (ht.content.fallbacks.mem_iff.mpr hr)

variable (world registry context) in
theorem loop_agree (ha : Alike route route') (ht : Twin v v') (hl : planLink route = .ok link)
    (hagree : FallBackAlike v.plan v'.plan) {pre steps : List ExecutionPlanStep}
    (he : v.plan.steps = pre ++ steps) {st : LoopState}
    (hs : Sound (pre.map (·.stepId)) st.config) (log : List (WorldEvent α)) :
    steps.foldlM (stepTurn world route v registry context) st log =
      steps.foldlM (stepTurn world route' v' registry context) st log := by
  induction steps generalizing pre st log with
  | nil => rfl
  | cons step steps ih =>
    have hturn : stepTurn world route v registry context st step log =
        stepTurn world route' v' registry context st step log := by
      refine stepTurn_agree ha ht ht.declared' hl hs (fun hvalid => ?_) log
      refine hagree pre step steps he fun t htm => hvalid t.stepId ?_
      simpa using List.mem_map_of_mem (f := (·.stepId)) htm
    rw [List.foldlM_cons, List.foldlM_cons, Traced.bind_apply, Traced.bind_apply, ← hturn]
    cases hr : stepTurn world route v registry context st step log with
    | mk r mid =>
    cases r with
    | error e => rfl
    | ok st' =>
      have he' : v.plan.steps = (pre ++ [step]) ++ steps := by simp [he]
      have hs' := hs.step ht.declared hl (by simp [he]) hr
      exact ih he' (by simpa using hs') mid

/-- Plans that fall back alike are delivered alike. -/
theorem deliver_agree (ha : Alike route route') (ht : Twin v v')
    (hentry : validateSelectedRouteForDelivery route = validateSelectedRouteForDelivery route')
    (hagree : FallBackAlike v.plan v'.plan) :
    deliverPlanPerStepViaRegistry world route v registry context =
      deliverPlanPerStepViaRegistry world route' v' registry context := by
  have henter : enterStepLoop route v context = enterStepLoop route' v' context := by
    simp only [enterStepLoop, buildAdmittedNotStartedStatusFromRoute, hentry, ha.planLink_eq,
      ha.routeStatus_eq, ha.executionPlanId, ha.stablePlanHash, ht.executionPlanId,
      ht.stablePlanHash]
  funext log
  rw [deliverPlanPerStepViaRegistry, deliverPlanPerStepViaRegistry, ← henter]
  cases h : enterStepLoop route v context with
  | error e => rfl
  | ok admitted =>
    have hl := (enterStepLoop_eq_ok.mp h).linked
    have hstart : Sound [] (LoopState.start admitted).config :=
      ⟨by simp [LoopState.start, LoopState.config], .inr (by simp)⟩
    have hloop := loop_agree world registry context ha ht hl hagree (List.nil_append _).symm
      hstart log
    have hconclude : concludeStepLoop route context = concludeStepLoop route' context := by
      funext st
      simp only [concludeStepLoop, ha.planOutcome_eq]
    rw [Traced.lift_ok_bind, Traced.lift_ok_bind, Traced.bind_apply, Traced.bind_apply, hloop,
      hconclude, ht.content.steps]

end

/-! ## Telling plans apart -/

/-- A decision that admits a plan's capability. -/
def approving (plan : ExecutionPlan) (capabilityId : CapabilityId) : RouteDecision where
  routeDecisionId := ⟨plan.executionPlanId.uuid⟩
  correlationId := plan.correlationId
  requestId := plan.originatingRequestId
  resolvedApprovalPosture := .executeAllowed
  executionAllowed := true
  denialGuards := []
  reviewRequired := false
  explicitApprovalRequired := false
  policyReference := none
  capabilityDecisionSummary := {
    requestedCapabilityId := capabilityId
    capabilityAdmitted := true
    capabilityOwnerService := some serviceId
    requestedSideEffectClass := .none
    capabilityApprovalPosture := some .executeAllowed
    policyRequiredApprovalPosture := some .executeAllowed
    requesterMaxApprovalPosture := some .executeAllowed
    sideEffectMinimumApprovalPosture := .executeAllowed
    reviewClass := some .none }
  operatorVisibleSummary := "request is execute allowed"
  degradedSubtype := none
  decidedAtUtc := 0

/-- One adapter for every capability. -/
def oneAdapter : AdapterRegistry Unit := ⟨fun _ => some ()⟩

/-- It fails at one step and delivers all others. -/
def probeAnswer (stepId : String) (_ : Unit) (request : AdapterDeliveryRequest) :
    AdapterDeliveryResult :=
  if request.declaredStepIds = [stepId] then .failedAtDeclaredStep stepId "failed"
  else .deliveredAllSteps

/-- A world whose adapters answer as a function of the request. -/
def answering {α : Type} (adapterId : α → String)
    (answer : α → AdapterDeliveryRequest → AdapterDeliveryResult) : DeliveryWorld α :=
  ⟨adapterId, fun _ => answer⟩

def probeWorld (stepId : String) : DeliveryWorld Unit :=
  answering (fun _ => "probe") (probeAnswer stepId)

section
variable {route : SelectedExecutionRoute} {v : ValidatedExecutionPlan}
  {context : CoordinationContext} {link : ExecutionPlanId × String}

/-- What a dispatched step leaves in the probe's log. -/
def probed (route : SelectedExecutionRoute) (v : ValidatedExecutionPlan) (probe : String)
    (step : ExecutionPlanStep) : List (WorldEvent Unit) :=
  [.inProgress step.stepId,
    .called () (stepRequest route v step) (probeAnswer probe () (stepRequest route v step))]

theorem probe_attempt (h : Stampable route link context.startedAtUtc context.completedAtUtc)
    (hl : planLink route = .ok link) (probe : String) {step : ExecutionPlanStep}
    (hv : isValidStepId step.stepId = true) (log : List (WorldEvent Unit)) :
    ∃ inProgress, attemptStep (probeWorld probe) route v oneAdapter context step log =
      (.ok (inProgress, if step.stepId = probe then .failed "failed" else .completed),
        log ++ probed route v probe step) := by
  obtain ⟨inProgress, hb⟩ := (buildInProgress_returns_iff h hl).mpr hv
  refine ⟨inProgress, attemptStep_ok.mpr ⟨hb, ?_⟩⟩
  simp only [Dispatched, oneAdapter, AdapterRegistry.resolve]
  refine ⟨_, rfl, ?_, rfl⟩
  have hbounded : isBoundedText "failed" = true := by decide
  by_cases hp : step.stepId = probe
  · simp [probeWorld, answering, probeAnswer, stepRequest, hp, perStepOutcome,
      validateRequiredSummary, hbounded, require, bind, Except.bind, pure, Except.pure]
  · simp [probeWorld, answering, probeAnswer, stepRequest, hp, perStepOutcome]

/-- Before the probed step everything completes. -/
theorem probe_prefix (h : Stampable route link context.startedAtUtc context.completedAtUtc)
    (hl : planLink route = .ok link) {probe : String} {pre : List ExecutionPlanStep}
    (hv : ∀ t ∈ pre, isValidStepId t.stepId = true ∧ t.stepId ≠ probe) {st : LoopState}
    (hn : st.fallbackResults = fun _ => none) (hgo : st.stopDispatching = false)
    (log : List (WorldEvent Unit)) :
    ∃ st', pre.foldlM (stepTurn (probeWorld probe) route v oneAdapter context) st log =
        (.ok st', log ++ pre.flatMap (probed route v probe)) ∧
      st'.fallbackResults = (fun _ => none) ∧ st'.stopDispatching = false := by
  induction pre generalizing st log with
  | nil => exact ⟨st, by simp, hn, hgo⟩
  | cons t pre ih =>
    obtain ⟨⟨hvt, hnt⟩, hv⟩ := List.forall_mem_cons.mp hv
    obtain ⟨inProgress, hat⟩ := probe_attempt (v := v) h hl probe hvt log
    rw [if_neg hnt] at hat
    have hnone : fallbackFor v st t .completed = none := by
      simp [fallbackFor, StepDeliveryOutcome.uncompleted]
    have hturn : ∃ st₁, stepTurn (probeWorld probe) route v oneAdapter context st t log =
        (.ok st₁, log ++ probed route v probe t) ∧ st₁.fallbackResults = (fun _ => none) ∧
        st₁.stopDispatching = false := by
      rw [stepTurn_dispatched (by simp [LoopState.config, hn]) hgo, dispatchTurn,
        Traced.bind_of_ok hat]
      simp only [hnone]
      exact ⟨_, rfl, hn, rfl⟩
    obtain ⟨st₁, h₁, hn₁, hgo₁⟩ := hturn
    obtain ⟨st₂, h₂, hst₂⟩ := ih hv hn₁ hgo₁ (log ++ probed route v probe t)
    refine ⟨st₂, ?_, hst₂⟩
    rw [List.foldlM_cons, Traced.bind_of_ok h₁, h₂]
    simp

/-- The probed step fails and falls back. -/
theorem probe_turn (h : Stampable route link context.startedAtUtc context.completedAtUtc)
    (hl : planLink route = .ok link) (hd : FallbacksDeclared v.plan) {step : ExecutionPlanStep}
    (hv : isValidStepId step.stepId = true) {f : String}
    (hf : (deliveryPolicy v.plan).fallback step.stepId = some f) {st : LoopState}
    (hn : st.fallbackResults = fun _ => none) (hgo : st.stopDispatching = false)
    (log : List (WorldEvent Unit)) :
    if isValidStepId f then ∃ g st', g.stepId = f ∧
      stepTurn (probeWorld step.stepId) route v oneAdapter context st step log = (.ok st',
        log ++ probed route v step.stepId step ++ probed route v step.stepId g)
    else ∃ e, stepTurn (probeWorld step.stepId) route v oneAdapter context st step log =
      (.error e, log ++ probed route v step.stepId step) := by
  obtain ⟨inProgress, hat⟩ := probe_attempt (v := v) h hl step.stepId hv log
  rw [if_pos rfl] at hat
  have hu : (StepDeliveryOutcome.failed "failed").uncompleted = true := rfl
  rw [stepTurn_dispatched (by simp [LoopState.config, hn]) hgo, dispatchTurn,
    Traced.bind_of_ok hat]
  split
  · rename_i hvf
    obtain ⟨r, hr, -, rfl⟩ := fallback_eq_some hf
    obtain ⟨g, hg, hgid⟩ := List.mem_map.mp (hd r hr)
    cases hfind : v.plan.steps.find? fun step => step.stepId == r.fallbackStepId with
    | none =>
      have hno := List.find?_eq_none.mp hfind g hg
      simp [hgid] at hno
    | some g' =>
      have hid : g'.stepId = r.fallbackStepId := by simpa using List.find?_some hfind
      have hfall : fallbackFor v st step (.failed "failed") = some g' := by
        rw [fallbackFor, if_pos hu, declaredFallbackStep_eq, hf]
        simp [hn, hfind]
      obtain ⟨inProgress', hat'⟩ := probe_attempt (v := v) h hl step.stepId (hid ▸ hvf)
        (log ++ probed route v step.stepId step)
      simp only [hfall]
      rw [Traced.bind_of_ok hat']
      exact ⟨g', _, hid, rfl⟩
  · rename_i hvf
    have hs : Sound [] st.config := ⟨by simp [LoopState.config, hn], .inr (by simp)⟩
    obtain ⟨g, hg, hge⟩ := attempt_malformed (probeWorld step.stepId) oneAdapter context hl hd hs
      hf (by simpa using hvf) hu (log ++ probed route v step.stepId step)
    simp only [hg]
    rw [Traced.bind_of_error hge]
    exact ⟨_, rfl⟩

theorem progress_probed (probe : String) (pre : List ExecutionPlanStep) :
    WorldEvent.progress (pre.flatMap (probed route v probe)) = pre.map (·.stepId) := by
  induction pre with
  | nil => rfl
  | cons t pre ih => simp [probed, ih]

/-- The probe shows the fallback of the probed step right after that step. -/
theorem probe_progress (h : Stampable route link context.startedAtUtc context.completedAtUtc)
    (hd : FallbacksDeclared v.plan) (hdistinct : (v.plan.steps.map (·.stepId)).Nodup)
    {admitted : ValidatedExecutionStatus} (hen : enterStepLoop route v context = .ok admitted)
    (hlink : planLink route = .ok link)
    {pre post : List ExecutionPlanStep} {step : ExecutionPlanStep}
    (he : v.plan.steps = pre ++ step :: post)
    (hv : ∀ t ∈ pre ++ [step], isValidStepId t.stepId = true) {f : String}
    (hf : (deliveryPolicy v.plan).fallback step.stepId = some f) :
    ∃ more, WorldEvent.progress (deliverPlanPerStepViaRegistry (probeWorld step.stepId) route v
        oneAdapter context []).2 =
      pre.map (·.stepId) ++ step.stepId :: (if isValidStepId f then f :: more else []) := by
  have hpre : ∀ t ∈ pre, isValidStepId t.stepId = true ∧ t.stepId ≠ step.stepId := by
    intro t ht
    refine ⟨hv t (List.mem_append_left _ ht), ?_⟩
    rw [he, List.map_append] at hdistinct
    exact (List.nodup_append.mp hdistinct).2.2 _ (List.mem_map_of_mem (f := (·.stepId)) ht) _
      (by simp)
  obtain ⟨st, hst, hn, hgo⟩ := probe_prefix (v := v) h hlink hpre
    (rfl : (LoopState.start admitted).fallbackResults = fun _ => none) rfl []
  have hturn := probe_turn h hlink hd (hv step (by simp)) hf hn hgo
    (pre.flatMap (probed route v step.stepId))
  rw [deliverPlanPerStepViaRegistry, hen, Traced.lift_ok_bind, he, List.foldlM_append]
  simp only [List.foldlM_cons, Traced.bind_assoc]
  rw [Traced.bind_of_ok hst, List.nil_append]
  split at hturn
  · rename_i hvf
    obtain ⟨g, st', hg, hstep⟩ := hturn
    rw [Traced.bind_of_ok hstep]
    have hpost : ∀ s ∈ post, s ∈ v.plan.steps := fun s hs => by simp [he, hs]
    have hgrows : (post.foldlM (stepTurn (probeWorld step.stepId) route v oneAdapter context) st'
        >>= fun st => Traced.lift (concludeStepLoop route context st)).Appends fun _ => True :=
      Traced.Closed.any.bind (Traced.Closed.any.foldlM (fun st s hs => stepTurn_appends
        ⟨Traced.Closed.any, fun _ => trivial⟩ (fun _ _ _ _ _ => trivial) st (hpost s hs)) st')
        fun _ => Traced.Closed.any.lift _
    obtain ⟨entries, -, hentries⟩ := hgrows (pre.flatMap (probed route v step.stepId) ++
      probed route v step.stepId step ++ probed route v step.stepId g)
    refine ⟨WorldEvent.progress entries, ?_⟩
    rw [hentries]
    simp [progress_probed, probed, hg, hvf]
  · rename_i hvf
    obtain ⟨e, hstep⟩ := hturn
    rw [Traced.bind_of_error hstep]
    exact ⟨[], by simp [progress_probed, probed, hvf]⟩

end

/-! ## Equal hashes -/

/-- Two routes selected for one decision and twin plans. -/
theorem alike_selected {d : RouteDecision} {v v' : ValidatedExecutionPlan}
    {input input' : RoutingInput} {route route' : SelectedExecutionRoute} (ht : Twin v v')
    (hne : v.plan.steps ≠ []) (hi : RoutingInput.new d (some v) = .ok input)
    (hr : RoutingService.selectRoute input = .ok route)
    (hi' : RoutingInput.new d (some v') = .ok input')
    (hr' : RoutingService.selectRoute input' = .ok route') :
    Alike route route' ∧
      validateSelectedRouteForDelivery route = validateSelectedRouteForDelivery route' := by
  have hne' : v'.plan.steps ≠ [] := ht.content.steps ▸ hne
  cases hp : d.resolvedApprovalPosture.admitted with
  | true =>
    obtain ⟨hm, rfl⟩ := RoutingService.selectRoute_admitted hi hr hp
    obtain ⟨hm', rfl⟩ := RoutingService.selectRoute_admitted hi' hr' hp
    refine ⟨⟨rfl, rfl, rfl, rfl, congrArg some ht.executionPlanId,
      congrArg some ht.stablePlanHash⟩, ?_⟩
    rw [validateSelectedRoute_selected hm hp hne, validateSelectedRoute_selected hm' hp hne']
  | false =>
    rw [RoutingInput.new_input hi] at hr
    rw [RoutingInput.new_input hi'] at hr'
    cases hpos : d.resolvedApprovalPosture <;>
      simp only [hpos, ApprovalPosture.admitted, reduceCtorEq] at hp <;>
      simp only [RoutingService.selectRoute, hpos, Except.ok.injEq] at hr hr' <;>
      subst hr hr' <;>
      exact ⟨⟨rfl, rfl, rfl, rfl, by
        simp [RoutingService.nonExecutableRoute, RoutingService.routablePlanSelection,
          ht.executionPlanId], by
        simp [RoutingService.nonExecutableRoute, RoutingService.routablePlanSelection,
          ht.stablePlanHash]⟩, rfl⟩

theorem fallback_eq_none {plan : ExecutionPlan} {stepId : String} :
    (deliveryPolicy plan).fallback stepId = none ↔
      ∀ r ∈ plan.fallbackReferences, r.stepId ≠ stepId := by
  simp [deliveryPolicy]

section
variable {digest : PlanDigest} {utcNow utcNow' : TimestampUtc} {p q : ExecutionPlan}
  {capabilities capabilities' : CapabilityRegistry} {v v' : ValidatedExecutionPlan}

/-- What the probe shows of an accepted plan. -/
theorem probe_accepted
    (hv : ExecutionPlanValidator.validate digest utcNow p capabilities = .ok v)
    {d : RouteDecision} (hm : Matches d v) (hp : d.resolvedApprovalPosture.admitted = true)
    {pre post : List ExecutionPlanStep} {step : ExecutionPlanStep}
    (he : p.steps = pre ++ step :: post)
    (hids : ∀ t ∈ pre ++ [step], isValidStepId t.stepId = true) {f : String}
    (hf : (deliveryPolicy p).fallback step.stepId = some f) :
    ∃ more, WorldEvent.progress (deliverPlanPerStepViaRegistry (probeWorld step.stepId)
        (selectedRoute d v) v oneAdapter ⟨0, 0, 0⟩ []).2 =
      pre.map (·.stepId) ++ step.stepId :: (if isValidStepId f then f :: more else []) := by
  obtain ⟨hacc, rfl⟩ := ExecutionPlanValidator.validate_eq_ok.mp hv
  have hst : Stampable (selectedRoute d ⟨p, ExecutionPlanValidator.computeStablePlanHash digest p⟩)
      (p.executionPlanId, ExecutionPlanValidator.computeStablePlanHash digest p) 0 0 :=
    ⟨hp, digest.wellFormed _, le_refl _⟩
  obtain ⟨admitted, hen⟩ := selected_enters ⟨0, 0, 0⟩ hst hm hacc.nonempty
  exact probe_progress hst (fallbacksDeclared_of_accepted hacc) hacc.distinct hen rfl he hids hf

/-- Plans with one hash are delivered alike by all adapters that answer as a
function of the request, exactly when they fall back alike. -/
theorem deliver_hash_determines_iff
    (hv : ExecutionPlanValidator.validate digest utcNow p capabilities = .ok v)
    (hv' : ExecutionPlanValidator.validate digest utcNow' q capabilities' = .ok v')
    (hid : p.executionPlanId = q.executionPlanId) (hcorrelation : p.correlationId = q.correlationId)
    (hrequest : p.originatingRequestId = q.originatingRequestId)
    (hhash : p.stablePlanHash = q.stablePlanHash)
    (hcollision : digest.hex (ExecutionPlanValidator.canonical p) =
      digest.hex (ExecutionPlanValidator.canonical q) →
      ExecutionPlanValidator.canonical p = ExecutionPlanValidator.canonical q) :
    (∀ (α : Type) (adapterId : α → String)
        (answer : α → AdapterDeliveryRequest → AdapterDeliveryResult)
        (registry : AdapterRegistry α) (context : CoordinationContext) (log : List (WorldEvent α))
        (d : RouteDecision) (input input' : RoutingInput) (route route' : SelectedExecutionRoute),
        RoutingInput.new d (some v) = .ok input → RoutingService.selectRoute input = .ok route →
        RoutingInput.new d (some v') = .ok input' → RoutingService.selectRoute input' = .ok route' →
        deliverPlanPerStepViaRegistry (answering adapterId answer) route v registry context log =
          deliverPlanPerStepViaRegistry (answering adapterId answer) route' v' registry context
            log) ↔
      FallBackAlike p q := by
  obtain ⟨hacc, rfl⟩ := ExecutionPlanValidator.validate_eq_ok.mp hv
  obtain ⟨hacc', rfl⟩ := ExecutionPlanValidator.validate_eq_ok.mp hv'
  have hcontent := ExecutionPlanValidator.sameContent_of_canonical
    (hcollision (hacc.hashed.symm.trans (hhash.trans hacc'.hashed)))
  have htwin : Twin ⟨p, ExecutionPlanValidator.computeStablePlanHash digest p⟩
      ⟨q, ExecutionPlanValidator.computeStablePlanHash digest q⟩ :=
    ⟨hcontent, hid, hacc.hashed.symm.trans (hhash.trans hacc'.hashed),
      fallbacksDeclared_of_accepted hacc⟩
  constructor
  · intro hprop pre step post he hids
    have hnone : (deliveryPolicy p).fallback step.stepId = none ↔
        (deliveryPolicy q).fallback step.stepId = none := by
      simp only [fallback_eq_none, hcontent.fallbacks.mem_iff]
    cases hf : (deliveryPolicy p).fallback step.stepId with
    | none => exact .inl (hf.trans (hnone.mp hf).symm)
    | some f =>
    cases hf' : (deliveryPolicy q).fallback step.stepId with
    | none => rw [hnone.mpr hf'] at hf; cases hf
    | some f' =>
    have hcap : step.capabilityId ∈ p.referencedCapabilities :=
      (hacc.fits step (by simp [he])).declared
    have hm : Matches (approving p step.capabilityId)
        ⟨p, ExecutionPlanValidator.computeStablePlanHash digest p⟩ :=
      ⟨⟨rfl, rfl, rfl⟩, rfl, rfl, hcap⟩
    have hm' : Matches (approving p step.capabilityId)
        ⟨q, ExecutionPlanValidator.computeStablePlanHash digest q⟩ :=
      ⟨⟨rfl, rfl, rfl⟩, hcorrelation.symm, hrequest.symm, hcontent.capabilities.mem_iff.mp hcap⟩
    have hsame := hprop Unit (fun _ => "probe") (probeAnswer step.stepId) oneAdapter ⟨0, 0, 0⟩ []
      _ _ _ _ _ ((RoutingInput.new_eq_ok rfl).mpr ⟨hm, rfl⟩)
      (RoutingService.selectRoute_of_admitted rfl) ((RoutingInput.new_eq_ok rfl).mpr ⟨hm', rfl⟩)
      (RoutingService.selectRoute_of_admitted rfl)
    obtain ⟨more, hmore⟩ := probe_accepted hv hm rfl he hids hf
    obtain ⟨more', hmore'⟩ := probe_accepted hv' hm' rfl (hcontent.steps ▸ he) hids hf'
    have hlists := hmore.symm.trans ((congrArg (fun r => WorldEvent.progress r.2) hsame).trans hmore')
    have htail := (List.cons.inj (List.append_cancel_left hlists)).2
    cases hvf : isValidStepId f <;> cases hvf' : isValidStepId f' <;>
      simp only [hvf, hvf', if_true, if_false, Bool.false_eq_true, reduceCtorEq] at htail
    · exact .inr ⟨f, f', hf, hf', hvf, hvf'⟩
    · exact .inl (by rw [hf, hf', (List.cons.inj htail).1])
  · intro hagree α adapterId answer registry context log d input input' route route' hi hr hi' hr'
    obtain ⟨ha, hentry⟩ := alike_selected htwin hacc.nonempty hi hr hi' hr'
    rw [deliver_agree ha htwin hentry hagree]

end

end ExecutionService

/-! One step with two fallback references, listed in either order. -/

namespace Fixture

def twoFallbacksHash : String := "b8cbe7e5fa24b39103118806ae0abc20ca1de5d687e501ab500ae20412c64697"

def twoFallbacksDigest : PlanDigest := digestOf twoFallbacksHash (by decide)

def twoFallbacks (references : List FallbackReference) : ExecutionPlan :=
  planOf [step "step_a" 4, step "step_b" 8, step "step_c" 9] references twoFallbacksHash

def firstOrder : ExecutionPlan := twoFallbacks [⟨"step_a", "step_b"⟩, ⟨"step_a", "step_c"⟩]

def secondOrder : ExecutionPlan := twoFallbacks [⟨"step_a", "step_c"⟩, ⟨"step_a", "step_b"⟩]

theorem firstOrder_validated : ExecutionPlanValidator.validate twoFallbacksDigest (at2030 600)
    firstOrder capabilities = .ok ⟨firstOrder, twoFallbacksHash⟩ := by
  decide

theorem secondOrder_validated : ExecutionPlanValidator.validate twoFallbacksDigest (at2030 600)
    secondOrder capabilities = .ok ⟨secondOrder, twoFallbacksHash⟩ := by
  decide

theorem orders_canonical :
    ExecutionPlanValidator.canonical firstOrder = ExecutionPlanValidator.canonical secondOrder := by
  decide

end Fixture

namespace ExecutionService

theorem deliver_order_diverges :
    ExecutionPlanValidator.validate Fixture.twoFallbacksDigest (Fixture.at2030 600)
      Fixture.firstOrder Fixture.capabilities = .ok ⟨Fixture.firstOrder, Fixture.twoFallbacksHash⟩ ∧
    ExecutionPlanValidator.validate Fixture.twoFallbacksDigest (Fixture.at2030 600)
      Fixture.secondOrder Fixture.capabilities =
        .ok ⟨Fixture.secondOrder, Fixture.twoFallbacksHash⟩ ∧
    Fixture.firstOrder.executionPlanId = Fixture.secondOrder.executionPlanId ∧
    Fixture.firstOrder.correlationId = Fixture.secondOrder.correlationId ∧
    Fixture.firstOrder.originatingRequestId = Fixture.secondOrder.originatingRequestId ∧
    Fixture.firstOrder.stablePlanHash = Fixture.secondOrder.stablePlanHash ∧
    ExecutionPlanValidator.canonical Fixture.firstOrder =
      ExecutionPlanValidator.canonical Fixture.secondOrder ∧
    ¬ ∀ route route', RoutingInput.new Fixture.decision
          (some ⟨Fixture.firstOrder, Fixture.twoFallbacksHash⟩) >>= RoutingService.selectRoute =
        .ok route →
      RoutingInput.new Fixture.decision
          (some ⟨Fixture.secondOrder, Fixture.twoFallbacksHash⟩) >>= RoutingService.selectRoute =
        .ok route' →
      deliverPlanPerStepViaRegistry (probeWorld "step_a") route
          ⟨Fixture.firstOrder, Fixture.twoFallbacksHash⟩ oneAdapter Fixture.coordination [] =
        deliverPlanPerStepViaRegistry (probeWorld "step_a") route'
          ⟨Fixture.secondOrder, Fixture.twoFallbacksHash⟩ oneAdapter Fixture.coordination [] := by
  refine ⟨Fixture.firstOrder_validated, Fixture.secondOrder_validated, rfl, rfl, rfl, rfl,
    Fixture.orders_canonical, fun hclaim => ?_⟩
  have hselect : ∀ references, RoutingInput.new Fixture.decision
      (some ⟨Fixture.twoFallbacks references, Fixture.twoFallbacksHash⟩) >>=
        RoutingService.selectRoute =
      .ok (Fixture.route ⟨Fixture.twoFallbacks references, Fixture.twoFallbacksHash⟩) := by
    intro references
    have hm : Matches Fixture.decision
      ⟨Fixture.twoFallbacks references, Fixture.twoFallbacksHash⟩ := Fixture.decision_matches _ _ _
    rw [(RoutingInput.new_eq_ok rfl).mpr ⟨hm, rfl⟩]
    rfl
  have hsame := hclaim _ _ (hselect _) (hselect _)
  have hne : WorldEvent.progress (deliverPlanPerStepViaRegistry (probeWorld "step_a")
      (Fixture.route ⟨Fixture.firstOrder, Fixture.twoFallbacksHash⟩)
      ⟨Fixture.firstOrder, Fixture.twoFallbacksHash⟩ oneAdapter Fixture.coordination []).2 ≠
    WorldEvent.progress (deliverPlanPerStepViaRegistry (probeWorld "step_a")
      (Fixture.route ⟨Fixture.secondOrder, Fixture.twoFallbacksHash⟩)
      ⟨Fixture.secondOrder, Fixture.twoFallbacksHash⟩ oneAdapter Fixture.coordination []).2 := by
    decide
  exact hne (congrArg (fun r => WorldEvent.progress r.2) hsame)

theorem deliver_hash_determines_orders :
    (∀ (α : Type) (adapterId : α → String)
        (answer : α → AdapterDeliveryRequest → AdapterDeliveryResult)
        (registry : AdapterRegistry α) (context : CoordinationContext) (log : List (WorldEvent α))
        (d : RouteDecision) (input input' : RoutingInput) (route route' : SelectedExecutionRoute),
        RoutingInput.new d (some ⟨Fixture.firstOrder, Fixture.twoFallbacksHash⟩) = .ok input →
        RoutingService.selectRoute input = .ok route →
        RoutingInput.new d (some ⟨Fixture.secondOrder, Fixture.twoFallbacksHash⟩) = .ok input' →
        RoutingService.selectRoute input' = .ok route' →
        deliverPlanPerStepViaRegistry (answering adapterId answer) route
            ⟨Fixture.firstOrder, Fixture.twoFallbacksHash⟩ registry context log =
          deliverPlanPerStepViaRegistry (answering adapterId answer) route'
            ⟨Fixture.secondOrder, Fixture.twoFallbacksHash⟩ registry context log) ↔
      FallBackAlike Fixture.firstOrder Fixture.secondOrder :=
  deliver_hash_determines_iff Fixture.firstOrder_validated Fixture.secondOrder_validated rfl rfl
    rfl rfl fun _ => Fixture.orders_canonical

end ExecutionService

end FaLocal
