import FaLocal.RunRecords
import FaLocal.StatusEvidence

/-!
# Evidence of delivered work

When a run that delivered records every status of its trace: exactly when the
identifiers of the steps it put in progress, and the adapter's text that ends up
in its last status, use none of the recorder's words.
-/
namespace FaLocal

open Words (mentionsAny)
open ForensicService (disallowedWords)
open WorldEvent (calls progress)

namespace ExecutionService

/-- A status whose summary uses none of the words that its state forbids. -/
def StatusPlain (status : ExecutionStatus) : Prop :=
  mentionsAny status.truthfulUserVisibleSummary
    (disallowedWords status.state status.degradedSubtype) = false

/-! ## The last status of a trace -/

section
variable {route : SelectedExecutionRoute} {link : ExecutionPlanId × String}
  {context : CoordinationContext} {final : ExecutionStatus}

/-- The texts of an adapter that end up in the last status of a whole-route trace. -/
def PlainAnswer : AdapterDeliveryResult → Prop
  | .failedAtDeclaredStep _ failureSummary =>
    mentionsAny failureSummary (disallowedWords .failed none) = false
  | .dependencyUnavailable summary =>
    mentionsAny summary (disallowedWords .degraded (some .unavailableDependencyBlock)) = false
  | _ => True

theorem toldStatuses_plain_iff {stepIds : List String} :
    (∀ status ∈ toldStatuses route link context stepIds final, StatusPlain status) ↔
      (∀ stepId ∈ stepIds, PlainStepId stepId) ∧ StatusPlain final := by
  have hadmitted : StatusPlain (routeStatus route link .admittedNotStarted
      context.coordinatedAtUtc "execution admitted for external bounded delivery") :=
    fixedSummaries_plain ("execution admitted for external bounded delivery", .admittedNotStarted,
      none) List.mem_cons_self
  have hstep : ∀ stepId, StatusPlain (inProgressStatus route link context.startedAtUtc stepId) ↔
      PlainStepId stepId := fun stepId => inProgress_plain_iff
  simp only [toldStatuses, List.cons_append, List.forall_mem_cons, List.forall_mem_append,
    List.forall_mem_map, hadmitted, hstep, true_and, List.not_mem_nil, IsEmpty.forall_iff,
    implies_true, and_true]

/-- The last status of a whole-route trace is plain exactly when the adapter's answer is. -/
theorem WholeFinal.plain_iff {answers : List AdapterDeliveryResult} {stepIds : List String}
    (h : WholeFinal route link context answers stepIds final)
    (hs : ∀ stepId ∈ stepIds, PlainStepId stepId) :
    StatusPlain final ↔ ∀ answer ∈ answers, PlainAnswer answer := by
  have hfixed := fixedSummaries_plain
  simp only [fixedSummaries, List.forall_mem_cons] at hfixed
  cases h with
  | unregistered =>
    exact iff_of_true (noAdapterSummary_plain route.requestedCapabilityId) (by simp)
  | delivered => exact iff_of_true hfixed.2.1 (by simp [PlainAnswer])
  | fallback stepIds stepId fallbackStepId hsub =>
    simp only [List.mem_singleton, forall_eq, PlainAnswer, iff_true]
    rcases ForensicService.isExplicitFallbackSubtype_iff.mp hsub with he | he <;> cases he
    · exact hfixed.2.2.2.1
    · exact hfixed.2.2.1
  | failed stepIds stepId summary => simp [PlainAnswer, StatusPlain, failedStatus, routeStatus]
  | canceled hm => exact iff_of_true (canceled_plain (hs _ hm)) (by simp [PlainAnswer])
  | unavailable summary =>
    simp [PlainAnswer, StatusPlain, unavailableDependencyStatus, routeStatus]

end

section
variable {α : Type} {world : DeliveryWorld α} {route : SelectedExecutionRoute}
  {validatedPlan : ValidatedExecutionPlan} {registry : AdapterRegistry α}
  {context : CoordinationContext} {trace : ExecutionTrace}
  {attempts : List (ExecutionPlanStep × StepDeliveryOutcome)}
  {v : List (String × FallbackRun.Verdict String StepDeliveryOutcome)}
  {events : List (WorldEvent α)}

/-- The failure that an answer reports. -/
def failureSummaryOf : AdapterDeliveryResult → Option String
  | .failedAtDeclaredStep _ failureSummary => some failureSummary
  | _ => none

/-- The first failure in the declared order of the steps. -/
def firstFailure (plan : ExecutionPlan) (events : List (WorldEvent α)) : Option String :=
  (plan.steps.map (·.stepId)).findSome? fun stepId =>
    (answersTo stepId events).findSome? failureSummaryOf

theorem findSome?_congr {β γ : Type} {f g : β → Option γ} {l : List β} (h : ∀ b ∈ l, f b = g b) :
    l.findSome? f = l.findSome? g := by
  induction l with
  | nil => rfl
  | cons b l ih =>
    obtain ⟨hb, hl⟩ := List.forall_mem_cons.mp h
    rw [List.findSome?_cons, List.findSome?_cons, hb, ih hl]

/-- An attempt failed exactly when its answer reports the failure. -/
theorem Answered.failure {attempt : ExecutionPlanStep × StepDeliveryOutcome}
    (h : Answered world registry events attempt) :
    attempt.2.failureText =
      (answersTo attempt.1.stepId events).findSome? failureSummaryOf := by
  simp only [Answered] at h
  split at h
  · simp [h.1, h.2, StepDeliveryOutcome.failureText]
  · obtain ⟨result, ha, ho⟩ := h
    rw [ha]
    cases result <;>
      simp [perStepOutcome, seq_eq_ok, pure, Except.pure, failureSummaryOf] at ho ⊢ <;>
      simp [← ho, StepDeliveryOutcome.failureText]

/-- Answers to a step are answers. -/
theorem answers_of_answersTo {stepId : String} {result : AdapterDeliveryResult}
    (h : result ∈ answersTo stepId events) : result ∈ answers events := by
  obtain ⟨call, hc, he⟩ := List.mem_filterMap.mp h
  split at he
  · rw [← Option.some.inj he]
    exact List.mem_map_of_mem (f := fun call => call.2.2) hc
  · cases he

/-- A step that was not attempted has no answers. -/
theorem Planned.unattempted (h : Planned world route validatedPlan registry attempts v events)
    {stepId : String} (hn : ∀ o, (stepId, o) ∉ attempts.map named) :
    answersTo stepId events = [] := by
  refine answersTo_eq_nil h.history.calls fun hm => ?_
  rw [List.append_nil] at hm
  obtain ⟨⟨s, o⟩, hq, rfl⟩ := List.mem_map.mp hm
  exact hn o hq

/-- The attempt that an answer belongs to, where it completes its step. -/
theorem Planned.delivered_attempt
    (h : Planned world route validatedPlan registry attempts v events)
    (hm : .deliveredAllSteps ∈ answers events) :
    ∃ attempt ∈ attempts, attempt.2 = .completed := by
  obtain ⟨call, hc, he⟩ := List.mem_map.mp hm
  obtain ⟨step, -, -, hreq⟩ := h.history.addressed call hc
  have hin : AdapterDeliveryResult.deliveredAllSteps ∈ answersTo step.stepId events :=
    List.mem_filterMap.mpr ⟨call, hc, by simp [hreq, stepRequest, he]⟩
  by_cases hatt : ∃ o, (step.stepId, o) ∈ attempts.map named
  · obtain ⟨o, ho⟩ := hatt
    obtain ⟨attempt, ha, hne⟩ := List.mem_map.mp ho
    have hid : attempt.1.stepId = step.stepId := congrArg Prod.fst hne
    have hans := h.history.answered attempt ha
    simp only [Answered, hid] at hans
    split at hans
    · simp [hans.1] at hin
    · obtain ⟨result, hr, hok⟩ := hans
      rw [hr, List.mem_singleton] at hin
      subst hin
      exact ⟨attempt, ha, (Except.ok.inj hok).symm⟩
  · rw [h.unattempted fun o ho => hatt ⟨o, ho⟩] at hin
    cases hin

section
variable (h : Planned world route validatedPlan registry attempts v events)
  (hl : FallbackRun.Layout (deliveryPolicy validatedPlan.plan)
    (validatedPlan.plan.steps.map (·.stepId)))
include h hl

/-- Where nothing completed, the reported failures are those of the answers. -/
theorem Planned.failures (hnone : ∀ q ∈ reportedOutcomes v, q.2.counts = false) :
    (reportedOutcomes v).findSome? (fun q => q.2.failureText) =
      firstFailure validatedPlan.plan events := by
  obtain ⟨d, hled⟩ := h.ledger hl
  rw [firstFailure, ← h.listed, List.findSome?_map]
  refine findSome?_congr fun q hq => ?_
  obtain ⟨stepId, outcome⟩ := q
  rcases mem_reportedOutcomes.mp hq with hv | ⟨f, hv, rfl⟩ | ⟨hv, rfl⟩
  · obtain ⟨attempt, ha, he⟩ := List.mem_map.mp (h.own_attempt hl hv).1
    cases he
    exact (h.history.answered attempt ha).failure
  · simpa [StepDeliveryOutcome.counts] using hnone _ hq
  · simp [StepDeliveryOutcome.failureText, h.unattempted (hled.skipped _ hv)]

/-- Something was delivered exactly when an outcome counts. -/
theorem Planned.delivered_iff :
    .deliveredAllSteps ∈ answers events ↔ ∃ q ∈ reportedOutcomes v, q.2.counts = true := by
  constructor
  · intro hm
    by_contra hno
    have hnone : ∀ q ∈ reportedOutcomes v, q.2.counts = false := by simpa using hno
    obtain ⟨attempt, ha, hc⟩ := h.delivered_attempt hm
    simpa [hc, StepDeliveryOutcome.counts] using hnone _ (h.attempt_reported hl hnone ha)
  · intro hc
    obtain ⟨stepId, hm⟩ := h.completed_of_counts hl hc
    have hto : .deliveredAllSteps ∈ answersTo stepId events := by
      rw [h.history.delivered hm]
      exact List.mem_cons_self
    exact answers_of_answersTo hto

/-- The status of a delivery that completed something is plain where its steps are. -/
theorem Planned.counted_plain {final : ExecutionStatus} {link : ExecutionPlanId × String}
    {startedAtUtc completedAtUtc : TimestampUtc}
    (hr : FinalRecord route link (reportedOutcomes v) startedAtUtc completedAtUtc final)
    (hs : ∀ stepId ∈ progress events, PlainStepId stepId)
    (hcount : ∃ q ∈ reportedOutcomes v, q.2.counts = true) : StatusPlain final := by
  obtain ⟨d, hled⟩ := h.ledger hl
  have hid : ∀ {stepId o}, (stepId, o) ∈ attempts.map named → PlainStepId stepId := by
    intro stepId o hm
    refine hs stepId ?_
    rw [h.history.progress, List.append_nil]
    exact List.mem_map_of_mem (f := Prod.fst) hm
  have hfixed := fixedSummaries_plain
  simp only [fixedSummaries, List.forall_mem_cons] at hfixed
  obtain ⟨p, hp, hpc⟩ := hcount
  cases hr with
  | viaFallback hall hany =>
    refine usedFallbackSummary_plain fun q hq f hf => ?_
    obtain ⟨stepId, outcome⟩ := q
    have he : outcome = .completedViaFallback f := by
      cases outcome <;> simp_all [StepDeliveryOutcome.fallbackUsed]
    subst he
    obtain ⟨-, ⟨o, ho, -⟩, o', ho', -⟩ := hled.via stepId f (h.reported_via hl hq)
    exact ⟨hid ho, hid ho'⟩
  | completed hall hno => exact hfixed.2.1
  | partialSuccess hpos he hpre hd => exact completedOf_plain _ _
  | failed hnone => simp [hnone p hp] at hpc
  | canceled hnone => simp [hnone p hp] at hpc
  | unavailable hnone => simp [hnone p hp] at hpc

/-- So is that of a delivery that completed nothing, unless a failure is reported. -/
theorem Planned.unfailed_plain {final : ExecutionStatus} {link : ExecutionPlanId × String}
    {startedAtUtc completedAtUtc : TimestampUtc}
    (hr : FinalRecord route link (reportedOutcomes v) startedAtUtc completedAtUtc final)
    (hs : ∀ stepId ∈ progress events, PlainStepId stepId)
    (hnone : ∀ q ∈ reportedOutcomes v, q.2.counts = false)
    (hfail : ∀ q ∈ reportedOutcomes v, q.2.failureText = none)
    (hne : reportedOutcomes v ≠ []) : StatusPlain final := by
  obtain ⟨p, hp⟩ := List.exists_mem_of_ne_nil _ hne
  have hfixed := fixedSummaries_plain
  simp only [fixedSummaries, List.forall_mem_cons] at hfixed
  cases hr with
  | viaFallback hall hany => simpa [hnone p hp] using hall p hp
  | completed hall hno => simpa [hnone p hp] using hall p hp
  | partialSuccess hpos he hpre hd =>
    obtain ⟨q, hq, hc⟩ := hpos
    simp [hnone q hq] at hc
  | failed hn hm => simpa [StepDeliveryOutcome.failureText] using hfail _ hm
  | canceled hn hf hm =>
    refine canceled_plain (hs _ ?_)
    rcases mem_reportedOutcomes.mp hm with hv | ⟨f, -, he⟩ | ⟨-, he⟩
    · rw [h.history.progress, List.append_nil]
      exact List.mem_map_of_mem (f := Prod.fst) (h.own_attempt hl hv).1
    · cases he
    · cases he
  | unavailable hn ho hf hc => exact hfixed.2.2.2.2.1

end

theorem findSome?_attempted (outcomes : List (String × StepDeliveryOutcome)) :
    (outcomes.filter fun outcome => outcome.2 != .skipped).findSome? (fun q => q.2.failureText) =
      outcomes.findSome? fun q => q.2.failureText := by
  induction outcomes with
  | nil => rfl
  | cons q outcomes ih =>
    by_cases hs : q.2 = .skipped
    · rw [List.filter_cons_of_neg (by simp [hs]), ih,
        List.findSome?_cons_of_isNone (by simp [hs, StepDeliveryOutcome.failureText])]
    · rw [List.filter_cons_of_pos (by simp [hs]), List.findSome?_cons, List.findSome?_cons, ih]

/-- The failure of a plan is the first that its outcomes report. -/
theorem buildPlanOutcome_failed {outcomes : List (String × StepDeliveryOutcome)}
    {link : ExecutionPlanId × String} {summary : String} (startedAtUtc completedAtUtc : TimestampUtc)
    (hlink : planLink route = .ok link) (hnone : ∀ q ∈ outcomes, q.2.counts = false)
    (hfirst : outcomes.findSome? (fun q => q.2.failureText) = some summary) :
    buildPlanOutcomeStatusFromRoute route outcomes startedAtUtc completedAtUtc =
      emitStatus (failedStatus route link startedAtUtc completedAtUtc summary) := by
  have hne : outcomes ≠ [] := by
    rintro rfl
    cases hfirst
  have hzero : (outcomes.filter fun outcome => outcome.2.counts).length = 0 := by
    simpa using hnone
  have hlen : 0 ≠ outcomes.length := by simpa [eq_comm] using hne
  simp only [buildPlanOutcomeStatusFromRoute, hzero, hlen, if_false, Nat.lt_irrefl,
    findSome?_attempted, hfirst, buildFailedStatusFromRoute, hlink, bind, Except.bind]

/-- The failure that a delivery ends with: its first one, where nothing was delivered. -/
def PlainFailure (plan : ExecutionPlan) (events : List (WorldEvent α)) : Prop :=
  .deliveredAllSteps ∉ answers events → ∀ summary, firstFailure plan events = some summary →
    mentionsAny summary (disallowedWords .failed none) = false

/-- The last status of a per-step trace is plain exactly when the failure is. -/
theorem Returned.plain_iff
    (h : Returned world route validatedPlan registry context trace attempts v events)
    (hl : FallbackRun.Layout (deliveryPolicy validatedPlan.plan)
      (validatedPlan.plan.steps.map (·.stepId)))
    (hlink : planLink route =
      .ok (validatedPlan.plan.executionPlanId, validatedPlan.stablePlanHash))
    (hs : ∀ stepId ∈ progress events, PlainStepId stepId)
    (hne : validatedPlan.plan.steps ≠ []) :
    StatusPlain trace.finalStatus.status ↔ PlainFailure validatedPlan.plan events := by
  rw [PlainFailure, h.delivered_iff hl]
  by_cases hcount : ∃ q ∈ reportedOutcomes v, q.2.counts = true
  · exact iff_of_true (h.counted_plain hl h.final hs hcount) fun hn => absurd hcount hn
  have hnone : ∀ q ∈ reportedOutcomes v, q.2.counts = false := by simpa using hcount
  simp only [hcount, not_false_iff, true_imp_iff, ← h.failures hl hnone]
  cases hfirst : (reportedOutcomes v).findSome? fun q => q.2.failureText with
  | none =>
    obtain ⟨q, hq⟩ := h.reported_nonempty hl hne
    exact iff_of_true (h.unfailed_plain hl h.final hs hnone
      (List.findSome?_eq_none_iff.mp hfirst) (List.ne_nil_of_mem hq)) (by rintro _ ⟨⟩)
  | some summary =>
    have hb := buildPlanOutcome_failed context.startedAtUtc context.completedAtUtc hlink hnone
      hfirst
    rw [emitStatus_eq_ok.mp (hb.symm.trans h.aggregated)]
    simp [StatusPlain, failedStatus, routeStatus]

end

end ExecutionService

namespace ExecutionPipelineService

open ExecutionService ForensicService

/-! ## Records of a delivered run -/

/-- Delivered work whose evidence uses none of the recorder's words. -/
def EvidenceFits (dispatchMode : DispatchMode) (plan : ExecutionPlan)
    (events : List (WorldEvent BuiltAdapter)) : Prop :=
  (∀ stepId ∈ progress events, PlainStepId stepId) ∧
    match dispatchMode with
    | .wholeRoute => ∀ answer ∈ answers events, PlainAnswer answer
    | .perStep => PlainFailure plan events

section
variable {env : RunEnvironment} {inputs : ExecutionPipelineInputs}
  {adapterSelection : Option AdapterSelection}
  {additionalAdapters : List CapabilityScopedAdapterSelection} {d : RouteDecision}
  {prepared : Prepared} {plan : ExecutionPlan} {capabilities : CapabilityRegistry}
  {dispatchMode : DispatchMode} {context : RouteResolutionContext}
  {log out : List (WorldEvent BuiltAdapter)} {trace : ExecutionTrace}

/-- The statuses of a delivered trace are plain exactly when its evidence fits. -/
theorem delivered_plain_iff
    (hfrom : PreparedFrom env inputs adapterSelection additionalAdapters d prepared plan
      capabilities)
    (h : deliver env dispatchMode prepared.selectedRoute prepared.validatedPlan prepared.registry
      context log = (.ok trace, out)) :
    ∃ events, out = log ++ events ∧
      ((∀ status ∈ trace.statuses, StatusPlain status.status) ↔
        EvidenceFits dispatchMode prepared.validatedPlan.plan events) := by
  obtain ⟨events, final, he, ht, hf⟩ := deliver_told hfrom h
  refine ⟨events, he, ?_⟩
  have hplain : (∀ status ∈ trace.statuses, StatusPlain status.status) ↔
      ∀ status ∈ trace.statuses.map (·.status), StatusPlain status := by simp
  rw [hplain, ht, toldStatuses_plain_iff]
  refine and_congr_right fun hs => ?_
  cases dispatchMode with
  | wholeRoute => exact WholeFinal.plain_iff hf hs
  | perStep =>
    obtain ⟨rfl, attempts, v, hr⟩ := hf
    obtain ⟨-, hacc⟩ := ExecutionPlanValidator.accepted_of_validate hfrom.validated
    exact hr.plain_iff (layout_of_accepted hacc) hfrom.linked hs hacc.nonempty

/-- A valid status is recordable exactly when it is plain. -/
theorem statusRecordable_iff {status : ValidatedExecutionStatus} :
    StatusRecordable status.status ↔ StatusPlain status.status :=
  ⟨fun h => h.plain, fun h =>
    ⟨(ExecutionStatus.validate_eq_ok.mp status.valid).1.visible, h⟩⟩

theorem Reached.observable
    (hfrom : PreparedFrom env inputs adapterSelection additionalAdapters d prepared plan
      capabilities)
    (h : deliver env dispatchMode prepared.selectedRoute prepared.validatedPlan prepared.registry
      context log = (.ok trace, out)) :
    ∀ status ∈ trace.statuses, Observable d status.status := by
  intro status hs
  have hroute := delivered_fromRoute hfrom h status hs
  have hc := statusCarries_of_fromRoute hfrom hroute
  exact ⟨hc.requestId, hc.correlationId, hc.posture, hroute.state⟩

end

/-- A run whose delivery returned a trace records each of its statuses exactly when
the evidence fits. -/
theorem run_records_delivered_iff (env : RunEnvironment) (inputs : ExecutionPipelineInputs)
    (adapterSelection : Option AdapterSelection)
    (additionalAdapters : List CapabilityScopedAdapterSelection) (dispatchMode : DispatchMode)
    (context : RouteResolutionContext) {log out : List (WorldEvent BuiltAdapter)}
    {d : RouteDecision} {prepared : Prepared} {trace : ExecutionTrace}
    (hr : Reached env inputs adapterSelection additionalAdapters context d prepared)
    (h : deliver env dispatchMode prepared.selectedRoute prepared.validatedPlan prepared.registry
      context log = (.ok trace, out)) :
    ∃ events, out = log ++ events ∧
      ((∃ outcome, run env inputs adapterSelection additionalAdapters dispatchMode none context
            log = (.ok outcome, out) ∧
          outcome.routeDecision = d ∧ outcome.executionTrace = some trace ∧
          List.Forall₂ Observed trace.statuses outcome.forensicRecords) ↔
        EvidenceFits dispatchMode prepared.validatedPlan.plan events) := by
  obtain ⟨plan, capabilities, hfrom⟩ := prepare_eq_inr hr.admitted hr.prepared
  obtain ⟨events, he, hiff⟩ := delivered_plain_iff hfrom h
  refine ⟨events, he, ?_⟩
  have hobs := Reached.observable hfrom h
  rw [← hiff, hr.run_eq, deliverAndRecord, Traced.bind_of_ok h]
  constructor
  · rintro ⟨outcome, hrun, -⟩ status hs
    obtain ⟨records, mid, hrec, -⟩ := Traced.bind_eq_ok hrun
    exact statusRecordable_iff.mp
      (recordable_of_recordStatuses hr.flags.1 hr.admitted hobs hrec status hs)
  · intro hplain
    obtain ⟨records, hrec, hall⟩ := recordStatuses_ok hr.flags.1 hr.admitted hobs
      (fun status hs => statusRecordable_iff.mpr (hplain status hs)) env
      { recordedAtUtc := context.decidedAtUtc } out 0
    refine ⟨⟨d, none, some trace, records⟩, ?_, rfl, rfl, hall⟩
    rw [Traced.bind_of_ok hrec]
    rfl

end ExecutionPipelineService

/-! The two-step run, and one whose first step is called `workflow_export`. -/

namespace Fixture

open ExecutionPipelineService ExecutionService

def narratedRun : RunEnvironment :=
  environment (planLoaders capabilities
    (planOf [step "workflow_export" 4, step "step_b" 8] [] twoStepHash)) twoStepDigest
    fun _ => .deliveredAllSteps

/-- The answers of a returned delivery. -/
def deliveredAnswers (env : RunEnvironment) :
    FaLocalResult (DenialGuard ⊕ Prepared) → List AdapterDeliveryResult
  | .ok (.inr prepared) =>
    match deliver env .perStep prepared.selectedRoute prepared.validatedPlan prepared.registry
      context [] with
    | (.ok _, out) => answers out
    | _ => []
  | _ => []

/-- A delivery with answers has been reached and has returned. -/
theorem delivered_of_answers (env : RunEnvironment) (d : RouteDecision)
    (results : List AdapterDeliveryResult)
    (hd : decided env plannedInputs context = .ok d)
    (hp : d.resolvedApprovalPosture.admitted = true) (hne : results ≠ [])
    (h : deliveredAnswers env
      (prepare env plannedInputs (some fileWrite) secondAdapter d) = results) :
    ∃ prepared trace out,
      Reached env plannedInputs (some fileWrite) secondAdapter context d prepared ∧
      deliver env .perStep prepared.selectedRoute prepared.validatedPlan prepared.registry
        context [] = (.ok trace, out) ∧ answers out = results := by
  cases hprep : prepare env plannedInputs (some fileWrite) secondAdapter d with
  | error e => simp [hprep, deliveredAnswers, hne.symm] at h
  | ok r =>
    cases r with
    | inl denial => simp [hprep, deliveredAnswers, hne.symm] at h
    | inr prepared =>
      simp only [hprep, deliveredAnswers] at h
      split at h
      · rename_i trace out hdel
        exact ⟨prepared, trace, out, ⟨hd, hp, hprep⟩, hdel, h⟩
      · exact absurd h.symm hne

end Fixture

namespace ExecutionPipelineService

open ExecutionService
open Fixture (twoStepRun narratedRun plannedInputs fileWrite secondAdapter)

theorem run_records_delivered_two_steps : ∃ d, ∃ prepared : Prepared, ∃ trace out,
    deliver (twoStepRun Fixture.capabilities) .perStep prepared.selectedRoute
      prepared.validatedPlan prepared.registry Fixture.context [] = (.ok trace, out) ∧
    ∃ events, out = [] ++ events ∧
      ((∃ outcome, run (twoStepRun Fixture.capabilities) plannedInputs (some fileWrite)
            secondAdapter .perStep none Fixture.context [] = (.ok outcome, out) ∧
          outcome.routeDecision = d ∧ outcome.executionTrace = some trace ∧
          List.Forall₂ Observed trace.statuses outcome.forensicRecords) ↔
        EvidenceFits .perStep prepared.validatedPlan.plan events) := by
  obtain ⟨prepared, trace, out, hr, hdel, -⟩ :=
    Fixture.delivered_of_answers (twoStepRun Fixture.capabilities) Fixture.admittedDecision
      [.deliveredAllSteps, .deliveredAllSteps]
      Fixture.twoStepRun_decided rfl (by simp) (by decide)
  exact ⟨_, prepared, trace, out, hdel, run_records_delivered_iff
    (twoStepRun Fixture.capabilities) plannedInputs (some fileWrite) secondAdapter .perStep
    Fixture.context hr hdel⟩

/-- Both steps are delivered, and the run ends in an error. -/
theorem run_delivered_unrecorded : ∃ d prepared trace out,
    Reached narratedRun plannedInputs (some fileWrite) secondAdapter Fixture.context d prepared ∧
    deliver narratedRun .perStep prepared.selectedRoute prepared.validatedPlan prepared.registry
      Fixture.context [] = (.ok trace, out) ∧
    answers out = [.deliveredAllSteps, .deliveredAllSteps] ∧
    (run narratedRun plannedInputs (some fileWrite) secondAdapter .perStep none Fixture.context
      []).1.isOk = false := by
  obtain ⟨prepared, trace, out, hr, hdel, ha⟩ :=
    Fixture.delivered_of_answers narratedRun Fixture.admittedDecision
      [.deliveredAllSteps, .deliveredAllSteps]
      Fixture.twoStepRun_decided rfl (by simp) (by decide)
  exact ⟨_, prepared, trace, out, hr, hdel, ha, by decide +kernel⟩

end ExecutionPipelineService

end FaLocal
