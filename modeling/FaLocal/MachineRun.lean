import FaLocal.NmapPreflight
import FaLocal.Receipts
import FaLocal.RunAnswers
import FaLocal.RunEvidence
import FaLocal.WholeRouteOutcome

/-!
# Runs with the adapters of a machine

What the adapters of a machine answer to a step is never malformed, and none of their
texts holds a word that the recorder forbids. So what can still fail behind a call is
the plan's part: its step identifiers, the fallbacks that it came to use, and for
whole routes the plans that an adapter refuses.
-/
namespace FaLocal

open Words (mentionsAny)
open ForensicService (disallowedWords)
open WorldEvent (Answers calls progress)
open BuiltAdapter (Accepts TakesSteps)
open FallbackRun (Run Verdict)
open LocalFileSystem (filesAfter_append mem_receipts receipts)
open ExecutionService

/-! ## Settled answers -/

theorem unavailableSummaries_fit : ∀ summary ∈ unavailableSummaries,
    isBoundedText summary = true ∧ summary.utf8ByteSize ≤ 88 ∧ mentionsAny summary
      (disallowedWords .degraded (some .unavailableDependencyBlock)) = false := by
  decide

theorem failureSummaries_fit : ∀ summary ∈ failureSummaries,
    isBoundedText summary = true ∧ summary.utf8ByteSize ≤ 88 ∧
      mentionsAny summary (disallowedWords .failed none) = false := by
  decide

section
variable {stepId : String} {result : AdapterDeliveryResult}

theorem Settled.wellFormed (h : Settled stepId result) : ¬ result.Malformed := by
  cases h with
  | delivered => exact id
  | unavailable hm =>
    simp [AdapterDeliveryResult.Malformed, (unavailableSummaries_fit _ hm).1]
  | failed hm => simp [AdapterDeliveryResult.Malformed, (failureSummaries_fit _ hm).1]

theorem Settled.plain (h : Settled stepId result) : PlainAnswer result := by
  cases h with
  | delivered => trivial
  | unavailable hm => exact (unavailableSummaries_fit _ hm).2.2
  | failed hm => exact (failureSummaries_fit _ hm).2.2

/-- The detail that a partial success gives of it is short. -/
theorem Settled.detail_size (h : Settled stepId result) {adapterId detail : String}
    {outcome : StepDeliveryOutcome} (ho : perStepOutcome adapterId result = .ok outcome)
    (hd : outcome.incompleteDetail = some detail) : detail.utf8ByteSize ≤ 88 := by
  cases h with
  | delivered =>
    cases ho
    cases hd
  | unavailable hm =>
    simp only [perStepOutcome, seq_eq_ok, pure, Except.pure, Except.ok.injEq] at ho
    obtain ⟨-, rfl⟩ := ho
    exact Option.some.inj hd ▸ (unavailableSummaries_fit _ hm).2.1
  | failed hm =>
    simp only [perStepOutcome, seq_eq_ok, pure, Except.pure, Except.ok.injEq] at ho
    obtain ⟨-, rfl⟩ := ho
    exact Option.some.inj hd ▸ (failureSummaries_fit _ hm).2.1

end

/-! ## Per-step delivery -/

namespace ExecutionService

/-- The fallbacks that completed a plan fit in its last status. -/
def FallbacksFit (outcomes : List (String × StepDeliveryOutcome)) : Prop :=
  (∀ q ∈ outcomes, q.2.counts = true) → pairsSize outcomes ≤ 99

theorem noAdapterSummary_size (capabilityId : CapabilityId) :
    (noAdapterSummary capabilityId).utf8ByteSize = 82 := by
  have hsize : "no delivery adapter registered for capability ".utf8ByteSize = 46 :=
    utf8ByteSize_of_chars (by decide)
  have hid := display_size capabilityId
  have happ : (noAdapterSummary capabilityId).utf8ByteSize =
      "no delivery adapter registered for capability ".utf8ByteSize +
        capabilityId.display.utf8ByteSize := String.utf8ByteSize_append
  omega

section
variable {α : Type} {world : DeliveryWorld α} {registry : AdapterRegistry α}
  {context : CoordinationContext} {log events : List (WorldEvent α)} {digest : PlanDigest}
  {capabilities : CapabilityRegistry} {d : RouteDecision} {v : ValidatedExecutionPlan}
  {attempts : List (ExecutionPlanStep × StepDeliveryOutcome)}
  {verdicts : List (String × Verdict String StepDeliveryOutcome)}

/-- If no answer is malformed, a delivery comes to the end of its plan, and it returns
exactly when its texts fit. -/
theorem Setting.carried (h : Setting digest capabilities context d v) (world : DeliveryWorld α)
    (registry : AdapterRegistry α) (log : List (WorldEvent α))
    (hanswers : ∀ log, ∀ step ∈ v.plan.steps, ∀ adapter,
      registry.resolve step.capabilityId = some adapter →
      ¬ (world.deliverRoute log adapter (stepRequest (selectedRoute d v) v step)).Malformed) :
    ∃ events attempts verdicts,
      (deliverPlanPerStepViaRegistry world (selectedRoute d v) v registry context log).2 =
        log ++ events ∧
      Planned world (selectedRoute d v) v registry attempts verdicts events ∧
      ((∃ trace, (deliverPlanPerStepViaRegistry world (selectedRoute d v) v registry context
        log).1 = .ok trace) ↔ SummaryFits (reportedOutcomes verdicts)) := by
  have hd := fallbacksDeclared_of_accepted h.accepted
  have hl := layout_of_accepted h.accepted
  cases hdel : deliverPlanPerStepViaRegistry world (selectedRoute d v) v registry context log with
  | mk result out =>
  cases result with
  | ok trace =>
    obtain ⟨events, attempts, verdicts, rfl, hret⟩ :=
      deliver_returned hd hl h.accepted.nonempty hdel
    exact ⟨events, attempts, verdicts, rfl, hret.toPlanned, iff_of_true ⟨trace, rfl⟩
      ((h.aggregates_iff hret.toPlanned).mp ⟨_, hret.aggregated⟩)⟩
  | error e =>
    rcases deliver_error hd hdel with ⟨henter, -⟩ | ⟨_, a, l, mid, -, -, -, hstuck⟩ |
      ⟨_, st, a, w, -, hrun, hdelivered, hdone, hfinal⟩
    · obtain ⟨admitted, ha⟩ := selected_enters context h.stampable h.matching h.accepted.nonempty
      rw [henter] at ha
      cases ha
    · cases hstuck with
      | unannounced hs hbuild =>
        obtain ⟨statuses, hok⟩ := h.announceable.announced _ hs
        rw [hbuild] at hok
        cases hok
      | refused hs hrefused =>
        obtain ⟨adapter, result, hres, rfl, hbad, -⟩ := hrefused
        exact absurd (perStepOutcome_error_iff.mp ⟨_, hbad⟩) (hanswers _ _ hs adapter hres)
    · obtain ⟨events, rfl, hhist⟩ := hdelivered.history (by simpa using hrun.begun.nodup hl)
      have hplanned : Planned world (selectedRoute d v) v registry a w events :=
        ⟨⟨_, hrun⟩, hhist⟩
      refine ⟨events, a, w, rfl, hplanned, iff_of_false (by rintro ⟨trace, ⟨⟩⟩) fun hfit => ?_⟩
      obtain ⟨final, hok⟩ := (h.aggregates_iff hplanned).mpr hfit
      have hout : st.outcomes = reportedOutcomes w := hdone.outcomes
      rw [← hout, hfinal] at hok
      cases hok

/-- With settled answers the first uncompleted step always fits. -/
theorem Setting.fits_iff (h : Setting digest capabilities context d v)
    (hp : Planned world (selectedRoute d v) v registry attempts verdicts events)
    (hsettled : ∀ call ∈ WorldEvent.calls events, ∃ stepId, Settled stepId call.2.2) :
    SummaryFits (reportedOutcomes verdicts) ↔ FallbacksFit (reportedOutcomes verdicts) := by
  have hl := layout_of_accepted h.accepted
  constructor
  · intro hfit hall
    by_cases hused : ∃ q ∈ reportedOutcomes verdicts, q.2.fallbackUsed.isSome = true
    · exact hfit.pairs hall hused
    · have hnone : ∀ q ∈ reportedOutcomes verdicts, q.2.fallbackUsed = none := by
        simpa using hused
      rw [pairsSize, List.filterMap_eq_nil_iff.mpr fun q hq => by rw [hnone q hq]; rfl]
      exact Nat.zero_le _
  · intro hfit
    refine ⟨fun hall _ => hfit hall, fun _ q detail hfind hd => ?_⟩
    have hq := List.mem_of_find?_eq_some hfind
    have hid := isValidStepId_size ((h.bounded hp).stepIds q hq)
    suffices hdetail : detail.utf8ByteSize ≤ 88 by omega
    by_cases hu : q.2.uncompleted = true
    · obtain ⟨attempt, ha, -, he⟩ := hp.reported_attempt hl hu hq
      have hanswered := hp.history.answered attempt ha
      rw [← he] at hd
      rw [Answered] at hanswered
      split at hanswered
      · rw [hanswered.2] at hd
        simp only [StepDeliveryOutcome.incompleteDetail, Option.some.injEq] at hd
        rw [← hd, noAdapterSummary_size]
        decide
      · obtain ⟨result, hresult, ho⟩ := hanswered
        have hmem : result ∈ answersTo attempt.1.stepId events := by simp [hresult]
        obtain ⟨call, hc, rfl⟩ := List.mem_map.mp (answers_of_answersTo hmem)
        obtain ⟨stepId, hs⟩ := hsettled call hc
        exact hs.detail_size ho hd
    · cases ho : q.2 <;>
        simp only [ho, StepDeliveryOutcome.uncompleted, StepDeliveryOutcome.incompleteDetail,
          reduceCtorEq, not_true_eq_false, Option.some.injEq] at hu hd
      subst hd
      decide

/-- A settled failure is plain. -/
theorem plainFailure_of_settled {plan : ExecutionPlan}
    (h : ∀ call ∈ calls events, ∃ stepId, Settled stepId call.2.2) : PlainFailure plan events := by
  intro _ summary hfirst
  obtain ⟨stepId, -, hanswer⟩ := List.exists_of_findSome?_eq_some hfirst
  obtain ⟨result, hresult, hfailure⟩ := List.exists_of_findSome?_eq_some hanswer
  obtain ⟨call, hc, rfl⟩ := List.mem_map.mp (answers_of_answersTo hresult)
  obtain ⟨stepId', hs⟩ := h call hc
  have hplain := hs.plain
  cases hresult' : call.2.2 with
  | failedAtDeclaredStep failedStepId failureSummary =>
    rw [hresult'] at hfailure hplain
    exact Option.some.inj hfailure ▸ hplain
  | _ =>
    rw [hresult'] at hfailure
    cases hfailure

end

end ExecutionService

namespace ExecutionPipelineService

section
variable {env : RunEnvironment} {inputs : ExecutionPipelineInputs}
  {adapterSelection : Option AdapterSelection}
  {additionalAdapters : List CapabilityScopedAdapterSelection} {d : RouteDecision}
  {prepared : Prepared} {plan : ExecutionPlan} {capabilities : CapabilityRegistry}
  {dispatchMode : DispatchMode} {log : List (WorldEvent BuiltAdapter)}

/-! ## Preparations -/

theorem PreparedFrom.setting
    (h : PreparedFrom env inputs adapterSelection additionalAdapters d prepared plan capabilities)
    (hp : d.resolvedApprovalPosture.admitted = true)
    (hs : SchemaShaped prepared.validatedPlan.plan) (context : RouteResolutionContext) :
    Setting env.digest capabilities (coordinationContext context) d prepared.validatedPlan := by
  obtain ⟨hacc, hv⟩ := ExecutionPlanValidator.validate_eq_ok.mp h.validated
  refine ⟨?_, ?_, hs, h.matching, hp, le_rfl⟩
  · rw [hv]
    exact hacc
  · rw [hv]

/-- An adapter of a run refuses no step that it is called for. -/
theorem PreparedFrom.accepts_step
    (h : PreparedFrom env inputs adapterSelection additionalAdapters d prepared plan capabilities)
    (hp : d.resolvedApprovalPosture.admitted = true) {step : ExecutionPlanStep}
    {adapter : BuiltAdapter}
    (hr : prepared.registry.resolve step.capabilityId = some adapter) :
    Accepts adapter (stepRequest prepared.selectedRoute prepared.validatedPlan step) := by
  have hsupported := buildRegistry_supported h.adapters hr
  refine ⟨?_, hsupported.symm, congrArg (fun c => [c]) hsupported.symm, ?_, rfl⟩
  · rw [h.route]
    exact hp
  · obtain ⟨selection, c⟩ := adapter
    cases selection with
    | localFileWrite root => exact List.cons_ne_nil _ _
    | nmapPreflight binary profile => rfl

/-- The plans that an adapter takes as a whole. -/
structure TakesPlan (adapter : BuiltAdapter) (plan : ExecutionPlan) : Prop where
  capabilities : plan.referencedCapabilities = [adapter.supportedCapabilityId]
  steps : TakesSteps adapter.selection (plan.steps.map (·.stepId))
  fallbacks : plan.fallbackReferences = []

/-- Those are the plans whose route it does not refuse. -/
theorem PreparedFrom.accepts_route_iff
    (h : PreparedFrom env inputs adapterSelection additionalAdapters d prepared plan capabilities)
    (hp : d.resolvedApprovalPosture.admitted = true) {adapter : BuiltAdapter}
    (hr : prepared.registry.resolve prepared.selectedRoute.requestedCapabilityId = some adapter) :
    Accepts adapter (routeRequest prepared.selectedRoute prepared.link) ↔
      TakesPlan adapter prepared.validatedPlan.plan := by
  have hsupported := buildRegistry_supported h.adapters hr
  rw [h.route] at hsupported ⊢
  exact ⟨fun ha => ⟨ha.declared, ha.steps, ha.fallbacks⟩,
    fun ht => ⟨hp, hsupported.symm, ht.capabilities, ht.steps, ht.fallbacks⟩⟩

/-! ## What a run without exports leaves -/

/-- Recording without an export adapter appends nothing. -/
theorem recordStatuses_silent (env : RunEnvironment) (d : RouteDecision)
    (context : ForensicRecordContext) (index : Nat) (statuses : List ValidatedExecutionStatus) :
    (recordStatuses env none d context index statuses).Lawful fun _ _ => False := by
  induction statuses generalizing index with
  | nil => exact Traced.lawful_pure _
  | cons status rest ih =>
    refine Traced.Lawful.bind ?_ fun _ => (ih (index + 1)).bind fun _ => Traced.lawful_pure _
    exact (Traced.lawful_lift _).bind fun _ => (Traced.lawful_lift _).bind fun _ =>
      Traced.lawful_pure _

/-- A run without exports leaves what its delivery leaves, and it returns exactly when
its delivery returns plain statuses. -/
theorem Reached.unexported {context : RouteResolutionContext}
    (hr : Reached env inputs adapterSelection additionalAdapters context d prepared)
    (hfrom : PreparedFrom env inputs adapterSelection additionalAdapters d prepared plan
      capabilities) (dispatchMode : DispatchMode) (log : List (WorldEvent BuiltAdapter)) :
    (run env inputs adapterSelection additionalAdapters dispatchMode none context log).2 =
      (deliver env dispatchMode prepared.selectedRoute prepared.validatedPlan prepared.registry
        context log).2 ∧
    ((∃ outcome, (run env inputs adapterSelection additionalAdapters dispatchMode none context
        log).1 = .ok outcome) ↔
      ∃ trace, (deliver env dispatchMode prepared.selectedRoute prepared.validatedPlan
          prepared.registry context log).1 = .ok trace ∧
        ∀ status ∈ trace.statuses, StatusPlain status.status) := by
  rw [hr.run_eq, deliverAndRecord]
  cases hdel : deliver env dispatchMode prepared.selectedRoute prepared.validatedPlan
    prepared.registry context log with
  | mk result out =>
  cases result with
  | error e =>
    rw [Traced.bind_of_error hdel]
    exact ⟨rfl, by simp⟩
  | ok trace =>
    have hobs := Reached.observable hfrom hdel
    have hlog := (recordStatuses_silent env d { recordedAtUtc := context.decidedAtUtc } 0
      trace.statuses).silent out
    rw [Traced.bind_of_ok hdel]
    cases hrec : recordStatuses env none d { recordedAtUtc := context.decidedAtUtc } 0
      trace.statuses out with
    | mk records mid =>
    obtain rfl : mid = out := by simpa [hrec] using hlog
    have hplain : (∃ outcomes, records = .ok outcomes) ↔
        ∀ status ∈ trace.statuses, StatusPlain status.status := by
      constructor
      · rintro ⟨outcomes, rfl⟩ status hs
        exact statusRecordable_iff.mp
          (recordable_of_recordStatuses hr.flags.1 hr.admitted hobs hrec status hs)
      · intro hplain
        obtain ⟨outcomes, hok, -⟩ := recordStatuses_ok hr.flags.1 hr.admitted hobs
          (fun status hs => statusRecordable_iff.mpr (hplain status hs)) env
          { recordedAtUtc := context.decidedAtUtc } mid 0
        rw [hrec] at hok
        exact ⟨outcomes, congrArg Prod.fst hok⟩
    simp only [Except.ok.injEq, exists_eq_left', ← hplain]
    cases records with
    | error e =>
      rw [Traced.bind_of_error hrec]
      exact ⟨rfl, by simp⟩
    | ok outcomes =>
      rw [Traced.bind_of_ok hrec]
      exact ⟨rfl, by simp⟩

end

/-! ## Runs -/

section
variable (machine : LocalMachine) (env : RunEnvironment) (inputs : ExecutionPipelineInputs)
  (adapterSelection : Option AdapterSelection)
  (additionalAdapters : List CapabilityScopedAdapterSelection) (context : RouteResolutionContext)
  (log : List (WorldEvent BuiltAdapter)) {d : RouteDecision} {prepared : Prepared}

/-- A per-step run on a machine comes to the end of its plan, whatever the files
answer: its steps and their fallbacks are the ones that the policy of the plan calls
for, and every call is settled. It returns exactly when the identifiers of the steps
it began are plain and the fallbacks it used fit in the last status. -/
theorem machine_perStep_returns_iff
    (hr : Reached (machine.environment env) inputs adapterSelection additionalAdapters context d
      prepared) (hs : SchemaShaped prepared.validatedPlan.plan) :
    ∃ events attempts verdicts,
      (run (machine.environment env) inputs adapterSelection additionalAdapters .perStep none
        context log).2 = log ++ events ∧
      Planned (machine.environment env).world prepared.selectedRoute prepared.validatedPlan
        prepared.registry attempts verdicts events ∧
      (∀ call ∈ calls events, ∃ stepId, call.2.1.declaredStepIds = [stepId] ∧
        Settled stepId call.2.2) ∧
      ((∃ outcome, (run (machine.environment env) inputs adapterSelection additionalAdapters
          .perStep none context log).1 = .ok outcome) ↔
        (∀ stepId ∈ progress events, PlainStepId stepId) ∧
          FallbacksFit (reportedOutcomes verdicts)) := by
  obtain ⟨plan, capabilities, hfrom⟩ := prepare_eq_inr hr.admitted hr.prepared
  have hset := hfrom.setting hr.admitted hs context
  obtain ⟨hout, hreturns⟩ := hr.unexported hfrom .perStep log
  obtain ⟨events, attempts, verdicts, he, hplanned, hdelivers⟩ := hset.carried
    (machine.environment env).world prepared.registry log fun log step _ adapter hres => by
      have haccepts := hfrom.accepts_step hr.admitted hres
      rw [hfrom.route] at haccepts
      exact (machine.deliverRoute_settled _ haccepts).wellFormed
  rw [← hfrom.route] at he hplanned hdelivers
  obtain ⟨entries, hfollow, hentries⟩ := run_answers (machine.environment env) inputs
    adapterSelection additionalAdapters .perStep none context log
  obtain rfl : entries = events := List.append_cancel_left (hentries.symm.trans (hout.trans he))
  have hsettled : ∀ call ∈ calls entries, ∃ stepId, call.2.1.declaredStepIds = [stepId] ∧
      Settled stepId call.2.2 := by
    intro call hc
    obtain ⟨pre, post, -, hanswer⟩ := WorldEvent.call_answered hfollow hc
    obtain ⟨step, -, hres, hrequest⟩ := hplanned.history.addressed call hc
    have haccepts := hfrom.accepts_step hr.admitted hres
    rw [hanswer, hrequest]
    exact ⟨step.stepId, rfl, machine.deliverRoute_settled _ haccepts⟩
  have hanswers : ∀ call ∈ calls entries, ∃ stepId, Settled stepId call.2.2 := by
    intro call hc
    obtain ⟨stepId, -, hcall⟩ := hsettled call hc
    exact ⟨stepId, hcall⟩
  have hfits : SummaryFits (reportedOutcomes verdicts) ↔ FallbacksFit (reportedOutcomes verdicts) :=
    hset.fits_iff (hfrom.route ▸ hplanned) hanswers
  refine ⟨entries, attempts, verdicts, hentries, hplanned, hsettled, hreturns.trans ?_⟩
  rw [← hfits, ← hdelivers]
  have hplain : ∀ trace, (deliver (machine.environment env) .perStep prepared.selectedRoute
      prepared.validatedPlan prepared.registry context log).1 = .ok trace →
      ((∀ status ∈ trace.statuses, StatusPlain status.status) ↔
        ∀ stepId ∈ progress entries, PlainStepId stepId) := by
    intro trace htrace
    obtain ⟨events, hevents, hiff⟩ := delivered_plain_iff hfrom (Prod.ext htrace he)
    obtain rfl : entries = events := List.append_cancel_left hevents
    exact hiff.trans (and_iff_left (plainFailure_of_settled hanswers))
  constructor
  · rintro ⟨trace, htrace, hstatuses⟩
    exact ⟨(hplain trace htrace).mp hstatuses, trace, htrace⟩
  · rintro ⟨hids, trace, htrace⟩
    exact ⟨trace, htrace, (hplain trace htrace).mpr hids⟩

/-- The adapter of the requested capability, if there is one, takes the plan as a whole. -/
def RouteTaken (prepared : Prepared) : Prop :=
  ∀ adapter, prepared.registry.resolve prepared.selectedRoute.requestedCapabilityId =
    some adapter → TakesPlan adapter prepared.validatedPlan.plan

/-- On a machine a whole route is rejected exactly if its adapter does not take the plan. -/
theorem PreparedFrom.rejected_iff {plan : ExecutionPlan} {capabilities : CapabilityRegistry}
    (h : PreparedFrom (machine.environment env) inputs adapterSelection additionalAdapters d
      prepared plan capabilities) (hp : d.resolvedApprovalPosture.admitted = true)
    (hne : prepared.validatedPlan.plan.steps ≠ []) :
    (∃ answer, wholeAnswer (machine.environment env).world prepared.registry log
      prepared.selectedRoute prepared.link = some answer ∧
        Rejected prepared.validatedPlan.plan answer) ↔ ¬ RouteTaken prepared := by
  cases hres : prepared.registry.resolve prepared.selectedRoute.requestedCapabilityId with
  | none => simp [wholeAnswer, RouteTaken, hres]
  | some adapter =>
    have htaken : RouteTaken prepared ↔
        Accepts adapter (routeRequest prepared.selectedRoute prepared.link) := by
      rw [h.accepts_route_iff hp hres]
      simp [RouteTaken, hres]
    have hanswer : wholeAnswer (machine.environment env).world prepared.registry log
        prepared.selectedRoute prepared.link = some (machine.deliverRoute log adapter
          (routeRequest prepared.selectedRoute prepared.link)) := by
      rw [wholeAnswer, hres]
      rfl
    rw [htaken, hanswer]
    simp only [Option.some.injEq, exists_eq_left']
    by_cases ha : Accepts adapter (routeRequest prepared.selectedRoute prepared.link)
    · refine iff_of_false (fun hrejected => ?_) (not_not_intro ha)
      have hsettled := machine.deliverRoute_settled log ha
      generalize machine.deliverRoute log adapter _ = answer at hrejected hsettled
      cases hsettled with
      | delivered => exact hrejected
      | unavailable hm => simp [Rejected, (unavailableSummaries_fit _ hm).1] at hrejected
      | failed hm =>
        rcases hrejected with hmissing | hunfit
        · -- the first declared step is a step of the plan
          obtain ⟨step, steps, hsteps⟩ := List.exists_cons_of_ne_nil hne
          refine hmissing (List.mem_map.mpr ⟨step, by simp [hsteps], ?_⟩)
          rw [h.route]
          simp [routeRequest, selectedRoute, RoutingService.routablePlanSelection, hsteps]
        · simp [(failureSummaries_fit _ hm).1] at hunfit
    · obtain ⟨summary, hunsupported⟩ := machine.deliverRoute_refused log ha
      rw [hunsupported]
      exact iff_of_true trivial ha

/-- A whole-route run on a machine returns exactly when the adapter takes the plan and
the identifiers of the steps it showed in progress are plain. A plan that is not taken
is turned down without a trace in the files. -/
theorem machine_wholeRoute_returns_iff
    (hr : Reached (machine.environment env) inputs adapterSelection additionalAdapters context d
      prepared) (hs : SchemaShaped prepared.validatedPlan.plan) :
    ∃ events,
      (run (machine.environment env) inputs adapterSelection additionalAdapters .wholeRoute none
        context log).2 = log ++ events ∧
      ((∃ outcome, (run (machine.environment env) inputs adapterSelection additionalAdapters
          .wholeRoute none context log).1 = .ok outcome) ↔
        RouteTaken prepared ∧ ∀ stepId ∈ progress events, PlainStepId stepId) ∧
      (¬ RouteTaken prepared →
        (∃ call, calls events = [call] ∧ ∃ summary, call.2.2 = .unsupported summary) ∧
        machine.filesAfter (log ++ events) = machine.filesAfter log) := by
  obtain ⟨plan, capabilities, hfrom⟩ := prepare_eq_inr hr.admitted hr.prepared
  have hset := hfrom.setting hr.admitted hs context
  obtain ⟨hout, hreturns⟩ := hr.unexported hfrom .wholeRoute log
  obtain ⟨result, events, hdel, hwhole⟩ :=
    hset.outcome (machine.environment env).world prepared.registry log
  rw [← hfrom.route] at hdel hwhole
  have hdelivered : deliver (machine.environment env) .wholeRoute prepared.selectedRoute
      prepared.validatedPlan prepared.registry context log = (result, log ++ events) := hdel
  have hrejected := hfrom.rejected_iff machine env inputs adapterSelection additionalAdapters log
    hr.admitted hset.accepted.nonempty
  have hrefused : (∃ e, result = .error e) ↔ ¬ RouteTaken prepared :=
    hwhole.refused.trans hrejected
  refine ⟨events, by rw [hout, hdelivered], hreturns.trans ?_, fun hnot => ?_⟩
  · rw [hdelivered]
    cases result with
    | error e => exact iff_of_false (by simp) fun h => hrefused.mp ⟨e, rfl⟩ h.1
    | ok trace =>
      have htaken : RouteTaken prepared := by
        by_contra hnot
        obtain ⟨e, ⟨⟩⟩ := hrefused.mpr hnot
      obtain ⟨events', hevents, hplain⟩ := delivered_plain_iff hfrom hdelivered
      obtain rfl : events = events' := List.append_cancel_left hevents
      have hanswers : ∀ answer ∈ answers events, PlainAnswer answer := by
        intro answer ha
        obtain ⟨call, hc, rfl⟩ := List.mem_map.mp ha
        rw [hwhole.called] at hc
        obtain ⟨adapter, hres, rfl⟩ := List.mem_map.mp hc
        have htakes := htaken adapter (Option.mem_toList.mp hres)
        have haccepts := (hfrom.accepts_route_iff hr.admitted (Option.mem_toList.mp hres)).mpr htakes
        exact (machine.deliverRoute_settled _ haccepts).plain
      simp only [Except.ok.injEq, exists_eq_left', hplain]
      exact ⟨fun h => ⟨htaken, h.1⟩, fun h => ⟨h.2, hanswers⟩⟩
  · obtain ⟨adapter, hres, htakes⟩ : ∃ adapter, prepared.registry.resolve
        prepared.selectedRoute.requestedCapabilityId = some adapter ∧
        ¬ TakesPlan adapter prepared.validatedPlan.plan := by
      simpa [RouteTaken] using hnot
    obtain ⟨summary, hunsupported⟩ := machine.deliverRoute_refused log
      (mt (hfrom.accepts_route_iff hr.admitted hres).mp htakes)
    have hcalls := hwhole.called
    rw [hres] at hcalls
    have hanswer : (machine.environment env).world.deliverRoute log adapter
        (routeRequest prepared.selectedRoute prepared.link) = .unsupported summary := hunsupported
    have hnone : receipts events = [] := by
      refine List.eq_nil_iff_forall_not_mem.mpr fun receipt hm => ?_
      obtain ⟨call, hc, -, hd⟩ := mem_receipts.mp hm
      rw [hcalls] at hc
      obtain rfl := List.mem_singleton.mp hc
      exact absurd (hanswer.symm.trans (congrArg Prod.snd hd)) (by simp)
    refine ⟨⟨_, hcalls, summary, hanswer⟩, ?_⟩
    rw [filesAfter_append, hnone]
    rfl

end

end ExecutionPipelineService

/-! The two-step run on a machine with one empty root. -/

namespace Fixture

open ExecutionPipelineService

def exportsMachine : LocalMachine := { emptyRoot with isFile := fun _ _ => true }

/-- Its delivery is reached, and no adapter takes the plan as a whole. -/
theorem machineRun_reached : ∃ prepared,
    Reached (exportsMachine.environment (twoStepRun capabilities)) plannedInputs (some fileWrite)
      secondAdapter context admittedDecision prepared ∧
    SchemaShaped prepared.validatedPlan.plan ∧ ¬ RouteTaken prepared := by
  obtain ⟨prepared, trace, out, hr, -, -⟩ := delivered_of_answers
    (exportsMachine.environment (twoStepRun capabilities)) admittedDecision
    [.deliveredAllSteps, .deliveredAllSteps] twoStepRun_decided rfl (by simp) (by decide)
  obtain ⟨plan, _, hfrom⟩ := prepare_eq_inr hr.admitted hr.prepared
  have hplan : prepared.validatedPlan.plan = twoStepPlan := by
    obtain ⟨value, -, hload⟩ := hfrom.supplied
    cases hload
    exact (ExecutionPlanValidator.accepted_of_validate hfrom.validated).1
  refine ⟨prepared, hr, hplan ▸ twoStepPlan_shaped, fun htaken => ?_⟩
  have hresolve : prepared.registry.resolve prepared.selectedRoute.requestedCapabilityId =
      some ⟨fileWrite, id .capability 4⟩ := by
    rw [hfrom.route, ← Except.ok.inj hfrom.adapters]
    rfl
  have hcapabilities := (htaken _ hresolve).capabilities
  rw [hplan] at hcapabilities
  exact absurd hcapabilities (by decide)

end Fixture

namespace ExecutionPipelineService

open Fixture (exportsMachine twoStepRun plannedInputs fileWrite secondAdapter)

theorem machine_perStep_two_steps : ∃ prepared : Prepared, ∃ events attempts verdicts,
    (run (exportsMachine.environment (twoStepRun Fixture.capabilities)) plannedInputs
      (some fileWrite) secondAdapter .perStep none Fixture.context []).2 = [] ++ events ∧
    Planned (exportsMachine.environment (twoStepRun Fixture.capabilities)).world
      prepared.selectedRoute prepared.validatedPlan prepared.registry attempts verdicts events ∧
    (∀ call ∈ calls events, ∃ stepId, call.2.1.declaredStepIds = [stepId] ∧
      Settled stepId call.2.2) ∧
    ((∃ outcome, (run (exportsMachine.environment (twoStepRun Fixture.capabilities)) plannedInputs
        (some fileWrite) secondAdapter .perStep none Fixture.context []).1 = .ok outcome) ↔
      (∀ stepId ∈ progress events, PlainStepId stepId) ∧
        FallbacksFit (reportedOutcomes verdicts)) := by
  obtain ⟨prepared, hr, hs, -⟩ := Fixture.machineRun_reached
  exact ⟨prepared, machine_perStep_returns_iff exportsMachine (twoStepRun Fixture.capabilities)
    plannedInputs (some fileWrite) secondAdapter Fixture.context [] hr hs⟩

/-- As a whole route the plan of the run is turned down. -/
theorem machine_wholeRoute_two_steps : ∃ events,
    (run (exportsMachine.environment (twoStepRun Fixture.capabilities)) plannedInputs
      (some fileWrite) secondAdapter .wholeRoute none Fixture.context []).2 = [] ++ events ∧
    (¬ ∃ outcome, (run (exportsMachine.environment (twoStepRun Fixture.capabilities))
      plannedInputs (some fileWrite) secondAdapter .wholeRoute none Fixture.context []).1 =
        .ok outcome) ∧
    exportsMachine.filesAfter ([] ++ events) = exportsMachine.filesAfter [] := by
  obtain ⟨prepared, hr, hs, hnot⟩ := Fixture.machineRun_reached
  obtain ⟨events, he, hreturns, hrefused⟩ := machine_wholeRoute_returns_iff exportsMachine
    (twoStepRun Fixture.capabilities) plannedInputs (some fileWrite) secondAdapter Fixture.context
    [] hr hs
  exact ⟨events, he, fun h => hnot (hreturns.mp h).1, (hrefused hnot).2⟩

end ExecutionPipelineService

end FaLocal
