import FaLocal.DeliveryLaws
import FaLocal.DeliveryReplay

/-!
# Delivered work and errors

When a delivery along a selected route has called an adapter and still returns
an error. A malformed answer is one cause. The other is the coordinator's own
aggregated text, when it does not fit.
-/
namespace FaLocal

/-- The bounds of the execution-plan schema that the coordinator relies on. -/
structure SchemaShaped (plan : ExecutionPlan) : Prop where
  steps : plan.steps.length ≤ 16
  stepIds : ∀ step ∈ plan.steps, isValidStepId step.stepId = true

/-- An answer that a per-step call cannot accept. -/
def AdapterDeliveryResult.Malformed : AdapterDeliveryResult → Prop
  | .unsupported _ => True
  | .completedWithDeclaredFallback _ _ _ => True
  | .failedAtDeclaredStep _ failureSummary => isBoundedText failureSummary = false
  | .dependencyUnavailable summary => isBoundedText summary = false
  | .deliveredAllSteps => False
  | .canceledAtDeclaredStep _ => False

instance : DecidablePred AdapterDeliveryResult.Malformed := fun result =>
  match result with
  | .unsupported _ => isTrue trivial
  | .completedWithDeclaredFallback _ _ _ => isTrue trivial
  | .failedAtDeclaredStep _ failureSummary =>
    inferInstanceAs (Decidable (isBoundedText failureSummary = false))
  | .dependencyUnavailable summary => inferInstanceAs (Decidable (isBoundedText summary = false))
  | .deliveredAllSteps => isFalse id
  | .canceledAtDeclaredStep _ => isFalse id

/-! ## Selected routes -/

section
variable {d : RouteDecision} {v : ValidatedExecutionPlan} {input : RoutingInput}
  {route : SelectedExecutionRoute}

theorem RoutingInput.new_input {validatedPlan : Option ValidatedExecutionPlan}
    (h : RoutingInput.new d validatedPlan = .ok input) : input = ⟨d, validatedPlan⟩ := by
  cases hp : d.resolvedApprovalPosture <;> cases validatedPlan <;>
    simp only [RoutingInput.new, hp, seq_eq_ok, reduceCtorEq, false_and, and_false, pure,
      Except.pure, Except.ok.injEq] at h
  all_goals exact h.2.2.symm

theorem RoutingService.selectRoute_posture (h : selectRoute input = .ok route) :
    route.resolvedApprovalPosture = input.routeDecision.resolvedApprovalPosture := by
  cases hp : input.routeDecision.resolvedApprovalPosture <;> cases hv : input.validatedPlan <;>
    simp only [selectRoute, hp, hv, Except.ok.injEq, reduceCtorEq] at h
  all_goals
    subst h
    exact hp

/-- The selected route of an admitted decision. -/
theorem RoutingService.selectRoute_admitted (hi : RoutingInput.new d (some v) = .ok input)
    (hr : selectRoute input = .ok route) (hp : d.resolvedApprovalPosture.admitted = true) :
    Matches d v ∧
      route = routablePlanSelection d v .externalAdapterBoundedExecution true false := by
  obtain ⟨hm, rfl⟩ := (RoutingInput.new_eq_ok hp).mp hi
  rw [selectRoute_of_admitted hp] at hr
  exact ⟨hm, (Except.ok.inj hr).symm⟩

end

namespace ExecutionService

open FallbackRun (Run Verdict start)
open ExecutionPlanValidator (Accepted accepted_of_validate)

/-! ## Replaying a planned run -/

theorem validateSelectedRoute_admitted {route : SelectedExecutionRoute}
    (h : validateSelectedRouteForDelivery route = .ok ()) :
    route.resolvedApprovalPosture.admitted = true := by
  simp only [validateSelectedRouteForDelivery] at h
  split at h
  · cases h
  · cases h
  · cases h
  · simp only [seq_eq_ok, require_eq_ok] at h
    exact h.2.1

theorem validateSelectedRoute_selected {d : RouteDecision} {v : ValidatedExecutionPlan}
    (hm : Matches d v) (hp : d.resolvedApprovalPosture.admitted = true)
    (hne : v.plan.steps ≠ []) :
    validateSelectedRouteForDelivery (RoutingService.routablePlanSelection d v
      .externalAdapterBoundedExecution true false) = .ok () := by
  have hreq := hm.requested
  have hcap : v.plan.referencedCapabilities ≠ [] := List.ne_nil_of_mem hreq
  simp [validateSelectedRouteForDelivery, RoutingService.routablePlanSelection, seq_eq_ok, hp, hne,
    hcap, hreq]

section
variable {α : Type} {world : DeliveryWorld α} {registry : AdapterRegistry α}
  {context : CoordinationContext} {log : List (WorldEvent α)} {digest : PlanDigest}
  {capabilities : CapabilityRegistry} {d : RouteDecision} {v : ValidatedExecutionPlan}

/-- A delivery of an accepted plan along its selected route. -/
structure Setting (digest : PlanDigest) (capabilities : CapabilityRegistry)
    (context : CoordinationContext) (d : RouteDecision) (v : ValidatedExecutionPlan) : Prop where
  accepted : Accepted digest v.plan capabilities
  hashed : v.stablePlanHash = ExecutionPlanValidator.computeStablePlanHash digest v.plan
  shaped : SchemaShaped v.plan
  matching : Matches d v
  admitted : d.resolvedApprovalPosture.admitted = true
  ordered : context.startedAtUtc ≤ context.completedAtUtc

/-- The route selected for an admitted decision and a plan. -/
def selectedRoute (d : RouteDecision) (v : ValidatedExecutionPlan) : SelectedExecutionRoute :=
  RoutingService.routablePlanSelection d v .externalAdapterBoundedExecution true false

theorem Setting.stampable (h : Setting digest capabilities context d v) :
    Stampable (selectedRoute d v) (v.plan.executionPlanId, v.stablePlanHash)
      context.startedAtUtc context.completedAtUtc where
  admitted := h.admitted
  hash := by
    rw [h.hashed]
    exact digest.wellFormed _
  ordered := h.ordered

theorem Setting.announceable (h : Setting digest capabilities context d v) :
    Announceable (selectedRoute d v) v context (v.plan.executionPlanId, v.stablePlanHash) where
  linked := rfl
  announced := fun step hs =>
    (buildInProgress_returns_iff h.stampable rfl).mpr (h.shaped.stepIds step hs)
  distinct := h.accepted.distinct
  declared := fallbacksDeclared_of_accepted h.accepted

/-- A stampable delivery along a selected route enters the loop. -/
theorem selected_enters (context : CoordinationContext) (hst : Stampable (selectedRoute d v)
      (v.plan.executionPlanId, v.stablePlanHash) context.startedAtUtc context.completedAtUtc)
    (hm : Matches d v) (hne : v.plan.steps ≠ []) :
    ∃ admitted, enterStepLoop (selectedRoute d v) v context = .ok admitted := by
  obtain ⟨admitted, ha⟩ := buildAdmitted_returns hst rfl context.coordinatedAtUtc
  refine ⟨admitted, ?_⟩
  simp only [enterStepLoop, seq_eq_ok, require_eq_ok]
  exact ⟨validateSelectedRoute_selected hm hst.admitted hne,
    by simp [selectedRoute, RoutingService.routablePlanSelection], ha⟩

/-- A planned run is carried out, up to the aggregated status. -/
theorem Setting.replays (h : Setting digest capabilities context d v)
    {a : List (ExecutionPlanStep × StepDeliveryOutcome)}
    {w : List (String × Verdict String StepDeliveryOutcome)}
    {c : FallbackRun.Config String StepDeliveryOutcome} {out : List (WorldEvent α)}
    (hr : Run (deliveryPolicy v.plan) start (v.plan.steps.map (·.stepId)) (a.map named) w c)
    (hdel : Delivered world (selectedRoute d v) registry v log a out) :
    ∃ st, deliverPlanPerStepViaRegistry world (selectedRoute d v) v registry context log =
        (concludeStepLoop (selectedRoute d v) context st, out) ∧
      st.outcomes = reportedOutcomes w := by
  obtain ⟨admitted, ha⟩ := selected_enters context h.stampable h.matching h.accepted.nonempty
  have hr' : Run (deliveryPolicy v.plan) (LoopState.start admitted).config
    (v.plan.steps.map (·.stepId)) (a.map named) w c := hr
  obtain ⟨st, hloop, -, hdone⟩ := loop_of_run h.announceable (fun _ hs => hs) hr' hdel
  refine ⟨st, ?_, hdone.outcomes⟩
  rw [deliverPlanPerStepViaRegistry, ha, Traced.lift_ok_bind, Traced.bind_of_ok hloop,
    Traced.lift_apply]

/-! ## Malformed answers -/

theorem perStepOutcome_error_iff {adapterId : String} {result : AdapterDeliveryResult} :
    (∃ e, perStepOutcome adapterId result = .error e) ↔ result.Malformed := by
  have hsum : ∀ (summary field : String) (outcome : StepDeliveryOutcome),
      (∃ e, (do validateRequiredSummary summary field; return outcome :
        FaLocalResult StepDeliveryOutcome) = .error e) ↔ isBoundedText summary = false := by
    intro summary field outcome
    rw [validateRequiredSummary]
    cases isBoundedText summary <;> simp [require, bind, Except.bind, pure, Except.pure]
  cases result with
  | deliveredAllSteps => simp [perStepOutcome, AdapterDeliveryResult.Malformed]
  | completedWithDeclaredFallback stepId fallbackStepId degradedSubtype =>
    simp [perStepOutcome, AdapterDeliveryResult.Malformed]
  | failedAtDeclaredStep stepId failureSummary => exact hsum _ _ _
  | canceledAtDeclaredStep stepId => simp [perStepOutcome, AdapterDeliveryResult.Malformed]
  | dependencyUnavailable summary => exact hsum _ _ _
  | unsupported summary => simp [perStepOutcome, AdapterDeliveryResult.Malformed]

/-- An accepted failure carries a bounded summary. -/
theorem perStepOutcome_failed {adapterId : String} {result : AdapterDeliveryResult}
    {summary : String} (h : perStepOutcome adapterId result = .ok (.failed summary)) :
    isBoundedText summary = true := by
  cases result with
  | failedAtDeclaredStep stepId failureSummary =>
    simp only [perStepOutcome, seq_eq_ok, validateRequiredSummary, require_eq_ok, pure,
      Except.pure, Except.ok.injEq, StepDeliveryOutcome.failed.injEq] at h
    exact h.2 ▸ h.1
  | dependencyUnavailable text => simp [perStepOutcome, seq_eq_ok, pure, Except.pure] at h
  | _ => simp [perStepOutcome] at h

variable {route : SelectedExecutionRoute} {events : List (WorldEvent α)}
  {a : List (ExecutionPlanStep × StepDeliveryOutcome)}
  {w : List (String × Verdict String StepDeliveryOutcome)}

/-- Every call behind a list of attempts was answered acceptably. -/
theorem History.accepts (h : History world route v registry a [] events)
    {call : α × AdapterDeliveryRequest × AdapterDeliveryResult}
    (hc : call ∈ WorldEvent.calls events) : ¬ call.2.2.Malformed := by
  have hm : call.2.1.declaredStepIds ∈ ((a.map named).map Prod.fst ++ []).map ([·]) :=
    h.calls.subset (List.mem_map_of_mem (f := fun call => call.2.1.declaredStepIds) hc)
  simp only [List.append_nil, List.mem_map, exists_exists_and_eq_and] at hm
  obtain ⟨q, hq, hid⟩ := hm
  have hid' : call.2.1.declaredStepIds = [q.1.stepId] := hid.symm
  have hans : call.2.2 ∈ answersTo q.1.stepId events :=
    List.mem_filterMap.mpr ⟨call, hc, if_pos hid'⟩
  have hanswered := h.answered q hq
  simp only [Answered] at hanswered
  split at hanswered
  · simp [hanswered.1] at hans
  · obtain ⟨result, he, ho⟩ := hanswered
    simp only [he, List.mem_singleton] at hans
    rw [← perStepOutcome_error_iff, hans]
    rintro ⟨e, hbad⟩
    rw [ho] at hbad
    cases hbad

theorem Setting.bounded (h : Setting digest capabilities context d v)
    (hp : Planned world route v registry a w events) : Bounded (reportedOutcomes w) := by
  have hl := layout_of_accepted h.accepted
  refine ⟨?_, ?_, ?_⟩
  · have hlen : (reportedOutcomes w).length = v.plan.steps.length := by
      simpa using congrArg List.length hp.listed
    exact hlen ▸ h.shaped.steps
  · intro q hq
    have hid : q.1 ∈ v.plan.steps.map (·.stepId) :=
      hp.listed ▸ List.mem_map_of_mem (f := Prod.fst) hq
    obtain ⟨step, hs, he⟩ := List.mem_map.mp hid
    exact he ▸ h.shaped.stepIds step hs
  · intro q hq summary he
    obtain ⟨p, hpa, -, ho⟩ := hp.reported_attempt hl (he ▸ rfl : q.2.uncompleted = true) hq
    have hanswered := hp.history.answered p hpa
    rw [Answered, ho, he] at hanswered
    split at hanswered
    · exact absurd hanswered.2 (by simp)
    · obtain ⟨result, -, hout⟩ := hanswered
      exact perStepOutcome_failed hout

/-- The status of a planned run is aggregated exactly when its texts fit. -/
theorem Setting.aggregates_iff (h : Setting digest capabilities context d v)
    (hp : Planned world route v registry a w events) :
    (∃ final, buildPlanOutcomeStatusFromRoute (selectedRoute d v) (reportedOutcomes w)
      context.startedAtUtc context.completedAtUtc = .ok final) ↔
        SummaryFits (reportedOutcomes w) := by
  refine buildPlanOutcome_returns_iff h.stampable rfl (fun hnil => ?_) (h.bounded hp)
  have hlist := hp.listed
  rw [hnil] at hlist
  exact h.accepted.nonempty (List.map_eq_nil_iff.mp hlist.symm)

/-- Where the aggregated texts do not fit, a step was completed by a call. -/
theorem Setting.calls_ne_nil (h : Setting digest capabilities context d v)
    (hp : Planned world route v registry a w events) (hn : ¬ SummaryFits (reportedOutcomes w)) :
    WorldEvent.calls events ≠ [] := by
  have hl := layout_of_accepted h.accepted
  have hex : ∃ q ∈ reportedOutcomes w, q.2.counts = true := by
    by_contra hnone
    refine hn ⟨fun hall ⟨q, hq, hu⟩ => ?_, fun hc => absurd hc hnone⟩
    exact absurd ⟨q, hq, hall q hq⟩ hnone
  obtain ⟨stepId, hm⟩ := hp.completed_of_counts hl hex
  have hid := hp.history.delivered hm
  intro hnil
  simp [answersTo, hnil] at hid

/-- An error goes back to a malformed answer, or to the texts of a run that came to its end. -/
theorem Setting.error_cases (h : Setting digest capabilities context d v) {error : Abort}
    (hdel : deliverPlanPerStepViaRegistry world (selectedRoute d v) v registry context log =
      (.error error, log ++ events)) :
    (∃ call ∈ WorldEvent.calls events, call.2.2.Malformed) ∨
      ∃ attempts verdicts final,
        Run (deliveryPolicy v.plan) start (v.plan.steps.map (·.stepId)) (attempts.map named)
          verdicts final ∧
        Delivered world (selectedRoute d v) registry v log attempts (log ++ events) ∧
        Planned world (selectedRoute d v) v registry attempts verdicts events ∧
        ¬ SummaryFits (reportedOutcomes verdicts) := by
  have hl := layout_of_accepted h.accepted
  rcases deliver_error (fallbacksDeclared_of_accepted h.accepted) hdel with ⟨henter, -⟩ |
    ⟨_, a, l, mid, -, hb, hdelivered, hstuck⟩ | ⟨_, st, a, w, -, hrun, hdelivered, hdone, hfinal⟩
  · obtain ⟨admitted, ha⟩ := selected_enters context h.stampable h.matching h.accepted.nonempty
    rw [henter] at ha
    cases ha
  · obtain ⟨before, rfl, -⟩ := hdelivered.history (List.nodup_append.mp (hb.nodup hl)).1
    generalize he : log ++ events = out at hstuck
    cases hstuck with
    | unannounced hs hbuild =>
      obtain ⟨statuses, hok⟩ := h.announceable.announced _ hs
      rw [hbuild] at hok
      cases hok
    | refused hs hrefused =>
      obtain ⟨adapter, result, -, -, hbad, rfl⟩ := hrefused
      rw [List.append_assoc, List.append_cancel_left_eq] at he
      have hcall : ∃ call ∈ WorldEvent.calls events, call.2.2 = result := by
        rw [he, WorldEvent.calls_append]
        exact ⟨_, List.mem_append_right _ (List.mem_singleton.mpr rfl), rfl⟩
      obtain ⟨call, hmem, rfl⟩ := hcall
      exact .inl ⟨call, hmem, perStepOutcome_error_iff.mp ⟨_, hbad⟩⟩
  · obtain ⟨behind, he, hhist⟩ := hdelivered.history (by simpa using hrun.begun.nodup hl)
    obtain rfl : events = behind := List.append_cancel_left he
    have hplanned : Planned world (selectedRoute d v) v registry a w events :=
      ⟨⟨_, hrun⟩, hhist⟩
    refine .inr ⟨a, w, _, hrun, hdelivered, hplanned, fun hfit => ?_⟩
    obtain ⟨final, hok⟩ := (h.aggregates_iff hplanned).mpr hfit
    have hout : st.outcomes = reportedOutcomes w := hdone.outcomes
    rw [← hout, hfinal] at hok
    cases hok

/-- A run that has called no adapter comes to no error. -/
theorem Setting.error_called (h : Setting digest capabilities context d v) {error : Abort}
    (hdel : deliverPlanPerStepViaRegistry world (selectedRoute d v) v registry context log =
      (.error error, log ++ events)) : WorldEvent.calls events ≠ [] := by
  rcases h.error_cases hdel with ⟨call, hc, -⟩ | ⟨a, w, _, -, -, hplanned, hfit⟩
  · exact List.ne_nil_of_mem hc
  · exact h.calls_ne_nil hplanned hfit

end

/-! ## When delivered work becomes an error -/

section
variable {α : Type} (world : DeliveryWorld α) (registry : AdapterRegistry α)
  (context : CoordinationContext) (log : List (WorldEvent α)) (d : RouteDecision)
  {digest : PlanDigest} {utcNow : TimestampUtc} {plan : ExecutionPlan}
  {capabilities : CapabilityRegistry} {v : ValidatedExecutionPlan} {input : RoutingInput}
  {route : SelectedExecutionRoute}

/-- Every error behind a call goes back to a malformed answer, exactly when the
aggregated texts of the run that the adapters' answers lead to fit; and along an admitted
route there is no error in front of the first call. -/
theorem deliver_error_malformed_iff
    (hv : ExecutionPlanValidator.validate digest utcNow plan capabilities = .ok v)
    (hs : SchemaShaped plan) (hi : RoutingInput.new d (some v) = .ok input)
    (hr : RoutingService.selectRoute input = .ok route)
    (ho : context.startedAtUtc ≤ context.completedAtUtc) :
    ((∀ error events, deliverPlanPerStepViaRegistry world route v registry context log =
        (.error error, log ++ events) → WorldEvent.calls events ≠ [] →
        ∃ call ∈ WorldEvent.calls events, call.2.2.Malformed) ↔
      (d.resolvedApprovalPosture.admitted = true → ∀ attempts verdicts final out,
        Run (deliveryPolicy plan) start (plan.steps.map (·.stepId)) (attempts.map named) verdicts
          final →
        Delivered world route registry v log attempts out →
        SummaryFits (reportedOutcomes verdicts))) ∧
    (d.resolvedApprovalPosture.admitted = true → ∀ events,
      (deliverPlanPerStepViaRegistry world route v registry context log).2 = log ++ events →
      WorldEvent.calls events = [] →
      ∃ trace, (deliverPlanPerStepViaRegistry world route v registry context log).1 =
        .ok trace) := by
  obtain ⟨hacc, rfl⟩ := ExecutionPlanValidator.validate_eq_ok.mp hv
  have hl := layout_of_accepted hacc
  have hposture := RoutingService.selectRoute_posture hr
  rw [RoutingInput.new_input hi] at hposture
  have hset : ∀ hp : d.resolvedApprovalPosture.admitted = true,
      Setting digest capabilities context d
        ⟨plan, ExecutionPlanValidator.computeStablePlanHash digest plan⟩ := fun hp =>
    ⟨hacc, rfl, hs, (RoutingService.selectRoute_admitted hi hr hp).1, hp, ho⟩
  refine ⟨⟨?_, ?_⟩, ?_⟩
  · intro hprop hp a w c out hrun hdel
    obtain ⟨-, rfl⟩ := RoutingService.selectRoute_admitted hi hr hp
    have hset := hset hp
    obtain ⟨events, rfl, hhist⟩ := hdel.history (by simpa using hrun.begun.nodup hl)
    have hplanned : Planned world _ _ registry a w events := ⟨⟨c, hrun⟩, hhist⟩
    by_contra hfit
    obtain ⟨st, hdeliver, hout⟩ := hset.replays hrun hdel
    cases hc : concludeStepLoop (selectedRoute d
        ⟨plan, ExecutionPlanValidator.computeStablePlanHash digest plan⟩) context st with
    | ok trace =>
      obtain ⟨final, hf, -⟩ := concludeStepLoop_eq_ok.mp hc
      exact hfit ((hset.aggregates_iff hplanned).mp ⟨final, hout ▸ hf⟩)
    | error e =>
      rw [hc] at hdeliver
      obtain ⟨call, hcall, hbad⟩ := hprop e events hdeliver (hset.calls_ne_nil hplanned hfit)
      exact hhist.accepts hcall hbad
  · intro hfits error events hdeliver hcalls
    -- a route that is not admitted is refused in front of the loop
    have hp : d.resolvedApprovalPosture.admitted = true := by
      rcases deliver_error (fallbacksDeclared_of_accepted hacc) hdeliver with ⟨-, hlog⟩ |
        ⟨_, _, _, _, hen, -⟩ | ⟨_, _, _, _, hen, -⟩
      · have hnil : events = [] := by simpa using hlog
        exact absurd (hnil ▸ rfl) hcalls
      · exact hposture ▸ validateSelectedRoute_admitted hen.valid
      · exact hposture ▸ validateSelectedRoute_admitted hen.valid
    obtain ⟨-, rfl⟩ := RoutingService.selectRoute_admitted hi hr hp
    rcases (hset hp).error_cases hdeliver with hmalformed | ⟨a, w, c, hrun, hdel, -, hfit⟩
    · exact hmalformed
    · exact absurd (hfits hp a w c _ hrun hdel) hfit
  · intro hp events hevents hcalls
    obtain ⟨-, rfl⟩ := RoutingService.selectRoute_admitted hi hr hp
    cases hdeliver : (deliverPlanPerStepViaRegistry world (selectedRoute d
        ⟨plan, ExecutionPlanValidator.computeStablePlanHash digest plan⟩) _ registry context
        log).1 with
    | ok trace => exact ⟨trace, hdeliver⟩
    | error error =>
      exact absurd hcalls ((hset hp).error_called (Prod.ext hdeliver hevents))

end

end ExecutionService

/-! The two-step plan of the dispatch tests; its second step fails with a
summary of the greatest length allowed. -/

namespace Fixture

def twoStepHash : String := "6dfcc65f9e3c4486a94610b04e762cdcd443ee95984a50dd681622f231735693"

def twoStepDigest : PlanDigest := digestOf twoStepHash (by decide +kernel)

def twoStepPlan : ExecutionPlan := planOf [step "step_a" 4, step "step_b" 8] [] twoStepHash

def validatedTwoStepPlan : ValidatedExecutionPlan := ⟨twoStepPlan, twoStepHash⟩

theorem twoStepPlan_validated : ExecutionPlanValidator.validate twoStepDigest (at2030 600)
    twoStepPlan capabilities = .ok validatedTwoStepPlan := by
  decide +kernel

theorem twoStepPlan_shaped : SchemaShaped twoStepPlan := ⟨by decide, by decide +kernel⟩

theorem decision_matches (steps : List ExecutionPlanStep) (references : List FallbackReference)
    (hash : String) : Matches decision ⟨planOf steps references hash, hash⟩ :=
  ⟨⟨rfl, rfl, rfl⟩, rfl, rfl, by simp [decision, planOf]⟩

theorem twoStepRoute_input : RoutingInput.new decision (some validatedTwoStepPlan) =
    .ok ⟨decision, some validatedTwoStepPlan⟩ :=
  (RoutingInput.new_eq_ok rfl).mpr ⟨decision_matches _ _ _, rfl⟩

theorem twoStepRoute_selected :
    RoutingService.selectRoute ⟨decision, some validatedTwoStepPlan⟩ =
      .ok (route validatedTwoStepPlan) := rfl

def longSummary : String := String.ofList (List.replicate 160 'x')

def longFailure : DeliveryWorld Unit :=
  stubWorld fun declared =>
    if declared = ["step_b"] then .failedAtDeclaredStep "step_b" longSummary
    else .deliveredAllSteps

end Fixture

namespace ExecutionService

open FallbackRun (Run start)

theorem deliver_error_unblamed :
    ExecutionPlanValidator.validate Fixture.twoStepDigest (Fixture.at2030 600) Fixture.twoStepPlan
      Fixture.capabilities = .ok Fixture.validatedTwoStepPlan ∧
    SchemaShaped Fixture.twoStepPlan ∧
    RoutingInput.new Fixture.decision (some Fixture.validatedTwoStepPlan) =
      .ok ⟨Fixture.decision, some Fixture.validatedTwoStepPlan⟩ ∧
    RoutingService.selectRoute ⟨Fixture.decision, some Fixture.validatedTwoStepPlan⟩ =
      .ok (Fixture.route Fixture.validatedTwoStepPlan) ∧
    Fixture.coordination.startedAtUtc ≤ Fixture.coordination.completedAtUtc ∧
    ¬ ∀ error events, deliverPlanPerStepViaRegistry Fixture.longFailure
        (Fixture.route Fixture.validatedTwoStepPlan) Fixture.validatedTwoStepPlan
        Fixture.stubRegistry Fixture.coordination [] = (.error error, [] ++ events) →
      WorldEvent.calls events ≠ [] →
      ∃ call ∈ WorldEvent.calls events, call.2.2.Malformed := by
  refine ⟨Fixture.twoStepPlan_validated, Fixture.twoStepPlan_shaped, Fixture.twoStepRoute_input,
    Fixture.twoStepRoute_selected, by decide, fun hclaim => ?_⟩
  have hrun : (deliverPlanPerStepViaRegistry Fixture.longFailure
      (Fixture.route Fixture.validatedTwoStepPlan) Fixture.validatedTwoStepPlan
      Fixture.stubRegistry Fixture.coordination []).1.isOk = false ∧
    (WorldEvent.calls (deliverPlanPerStepViaRegistry Fixture.longFailure
      (Fixture.route Fixture.validatedTwoStepPlan) Fixture.validatedTwoStepPlan
      Fixture.stubRegistry Fixture.coordination []).2).length = 2 ∧
    ∀ call ∈ WorldEvent.calls (deliverPlanPerStepViaRegistry Fixture.longFailure
      (Fixture.route Fixture.validatedTwoStepPlan) Fixture.validatedTwoStepPlan
      Fixture.stubRegistry Fixture.coordination []).2, ¬ call.2.2.Malformed := by
    decide +kernel
  cases hd : deliverPlanPerStepViaRegistry Fixture.longFailure
      (Fixture.route Fixture.validatedTwoStepPlan) Fixture.validatedTwoStepPlan
      Fixture.stubRegistry Fixture.coordination [] with
  | mk result out =>
  rw [hd] at hrun
  cases result with
  | ok trace => cases hrun.1
  | error e =>
    have hcalls : WorldEvent.calls out ≠ [] := by
      intro hnil
      simpa [hnil] using hrun.2.1
    obtain ⟨call, hc, hbad⟩ := hclaim e out (by simpa using hd) hcalls
    exact hrun.2.2 call hc hbad

theorem deliver_error_malformed_two_steps :
    ((∀ error events, deliverPlanPerStepViaRegistry (Fixture.failingAt ["step_b"])
        (Fixture.route Fixture.validatedTwoStepPlan) Fixture.validatedTwoStepPlan
        Fixture.stubRegistry Fixture.coordination [] = (.error error, [] ++ events) →
      WorldEvent.calls events ≠ [] →
      ∃ call ∈ WorldEvent.calls events, call.2.2.Malformed) ↔
    (Fixture.decision.resolvedApprovalPosture.admitted = true →
      ∀ attempts verdicts final out,
      Run (deliveryPolicy Fixture.twoStepPlan) start
        (Fixture.twoStepPlan.steps.map (·.stepId)) (attempts.map named) verdicts final →
      Delivered (Fixture.failingAt ["step_b"]) (Fixture.route Fixture.validatedTwoStepPlan)
        Fixture.stubRegistry Fixture.validatedTwoStepPlan [] attempts out →
      SummaryFits (reportedOutcomes verdicts))) ∧
    (Fixture.decision.resolvedApprovalPosture.admitted = true → ∀ events,
      (deliverPlanPerStepViaRegistry (Fixture.failingAt ["step_b"])
        (Fixture.route Fixture.validatedTwoStepPlan) Fixture.validatedTwoStepPlan
        Fixture.stubRegistry Fixture.coordination []).2 = [] ++ events →
      WorldEvent.calls events = [] →
      ∃ trace, (deliverPlanPerStepViaRegistry (Fixture.failingAt ["step_b"])
        (Fixture.route Fixture.validatedTwoStepPlan) Fixture.validatedTwoStepPlan
        Fixture.stubRegistry Fixture.coordination []).1 = .ok trace) :=
  deliver_error_malformed_iff _ _ _ _ _ Fixture.twoStepPlan_validated Fixture.twoStepPlan_shaped
    Fixture.twoStepRoute_input Fixture.twoStepRoute_selected
    (by decide : Fixture.coordination.startedAtUtc ≤ Fixture.coordination.completedAtUtc)

end ExecutionService

end FaLocal
