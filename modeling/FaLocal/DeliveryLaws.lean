import FaLocal.DeliveryRun
import FaLocal.ExecutionGate
import FaLocal.PlanOutcome

/-!
# What per-step delivery promises

At most one call for each step, a trace that tells what the calls came to, a
final state that follows from the attempts, and the two cancellation policies.
-/
namespace FaLocal

namespace ExecutionService

open FallbackRun (Layout Ledger Run Begun Verdict start ledger_of_run blame_of_run failing)
open ExecutionPlanValidator (Accepted)

/-- The `current_step` values of the `InProgress` statuses. -/
def currentSteps (statuses : List ExecutionStatus) : List String :=
  statuses.filterMap fun status =>
    if status.state = .inProgress then status.currentStep else none

/-- The identifiers of the attempted steps, in the order of the attempts. -/
def attemptedIds (attempts : List (ExecutionPlanStep × StepDeliveryOutcome)) : List String :=
  (attempts.map named).map Prod.fst

theorem mem_attemptedIds {attempts : List (ExecutionPlanStep × StepDeliveryOutcome)}
    {stepId : String} :
    stepId ∈ attemptedIds attempts ↔ ∃ outcome, (stepId, outcome) ∈ attempts.map named := by
  rw [attemptedIds, List.mem_map]
  exact ⟨fun ⟨q, hq, he⟩ => ⟨q.2, he ▸ hq⟩, fun ⟨outcome, h⟩ => ⟨_, h, rfl⟩⟩

section
variable {α : Type} {world : DeliveryWorld α} {route : SelectedExecutionRoute}
  {validatedPlan : ValidatedExecutionPlan} {registry : AdapterRegistry α}
  {context : CoordinationContext} {log out : List (WorldEvent α)} {trace : ExecutionTrace}
  {attempts : List (ExecutionPlanStep × StepDeliveryOutcome)} {events : List (WorldEvent α)}
  {outcomes : List (String × StepDeliveryOutcome)}

/-! ## Attempts and their answers -/

theorem perStepOutcome_eq_completed {adapterId : String} {result : AdapterDeliveryResult} :
    perStepOutcome adapterId result = .ok .completed ↔ result = .deliveredAllSteps := by
  cases result <;> simp [perStepOutcome, seq_eq_ok, pure, Except.pure]

theorem Answered.attempt {attempt : ExecutionPlanStep × StepDeliveryOutcome}
    (h : Answered world registry events attempt) : Attempt attempt.2 := by
  simp only [Answered] at h
  split at h
  · exact .inr (h.2 ▸ rfl)
  · obtain ⟨result, -, ho⟩ := h
    exact perStepOutcome_attempt ho

theorem Answered.delivered {step : ExecutionPlanStep}
    (h : Answered world registry events (step, .completed)) :
    answersTo step.stepId events = [.deliveredAllSteps] := by
  simp only [Answered] at h
  split at h
  · exact absurd h.2 (by simp)
  · obtain ⟨result, ha, ho⟩ := h
    rw [ha, perStepOutcome_eq_completed.mp ho]

theorem History.attempt {refused : List String}
    (h : History world route validatedPlan registry attempts refused events) {stepId : String}
    {outcome : StepDeliveryOutcome} (hm : (stepId, outcome) ∈ attempts.map named) :
    Attempt outcome := by
  obtain ⟨q, hq, he⟩ := List.mem_map.mp hm
  cases he
  exact (h.answered q hq).attempt

theorem History.delivered {refused : List String}
    (h : History world route validatedPlan registry attempts refused events) {stepId : String}
    (hm : (stepId, .completed) ∈ attempts.map named) :
    answersTo stepId events = [.deliveredAllSteps] := by
  obtain ⟨⟨step, outcome⟩, hq, he⟩ := List.mem_map.mp hm
  cases he
  exact (h.answered _ hq).delivered

/-- An attempt counts exactly when it completed. -/
theorem Attempt.counts_iff {outcome : StepDeliveryOutcome} (h : Attempt outcome) :
    outcome.counts = true ↔ outcome = .completed := by
  rcases h with rfl | h
  · simp [StepDeliveryOutcome.counts]
  · cases outcome <;> simp_all [StepDeliveryOutcome.counts, StepDeliveryOutcome.uncompleted]

/-! ## Returned traces -/

/-- The outcomes that the loop reports, in declared order. -/
def reportedOutcomes (v : List (String × Verdict String StepDeliveryOutcome)) :
    List (String × StepDeliveryOutcome) :=
  v.map fun q => (q.1, reported q.2)

variable (world route validatedPlan registry) in
/-- A run of the declared policy, with the history of its attempts. -/
structure Planned (attempts : List (ExecutionPlanStep × StepDeliveryOutcome))
    (v : List (String × Verdict String StepDeliveryOutcome)) (events : List (WorldEvent α)) :
    Prop where
  run : ∃ d, Run (deliveryPolicy validatedPlan.plan) start
    (validatedPlan.plan.steps.map (·.stepId)) (attempts.map named) v d
  history : History world route validatedPlan registry attempts [] events

variable (world route validatedPlan registry context) in
/-- A returned trace and the run behind it. -/
structure Returned (trace : ExecutionTrace)
    (attempts : List (ExecutionPlanStep × StepDeliveryOutcome))
    (v : List (String × Verdict String StepDeliveryOutcome)) (events : List (WorldEvent α)) : Prop
    extends Planned world route validatedPlan registry attempts v events where
  statuses : trace.statuses.map (·.status) = routeStatus route
      (validatedPlan.plan.executionPlanId, validatedPlan.stablePlanHash) .admittedNotStarted
      context.coordinatedAtUtc "execution admitted for external bounded delivery" ::
    attempts.map (fun attempt => inProgressStatus route
      (validatedPlan.plan.executionPlanId, validatedPlan.stablePlanHash) context.startedAtUtc
      attempt.1.stepId) ++ [trace.finalStatus.status]
  aggregated : buildPlanOutcomeStatusFromRoute route (reportedOutcomes v) context.startedAtUtc
    context.completedAtUtc = .ok trace.finalStatus
  final : FinalRecord route (validatedPlan.plan.executionPlanId, validatedPlan.stablePlanHash)
    (reportedOutcomes v) context.startedAtUtc context.completedAtUtc trace.finalStatus.status

theorem run_listed {c d : FallbackRun.Config String StepDeliveryOutcome} {steps : List String}
    {a : List (String × StepDeliveryOutcome)}
    {v : List (String × Verdict String StepDeliveryOutcome)} {plan : ExecutionPlan}
    (h : Run (deliveryPolicy plan) c steps a v d) : v.map Prod.fst = steps := by
  induction h with
  | nil c => rfl
  | cons ht hr ih => simp [ih]

/-- Whatever a delivery returns is such a trace. -/
theorem deliver_returned (hd : FallbacksDeclared validatedPlan.plan)
    (hl : Layout (deliveryPolicy validatedPlan.plan) (validatedPlan.plan.steps.map (·.stepId)))
    (hne : validatedPlan.plan.steps ≠ [])
    (h : deliverPlanPerStepViaRegistry world route validatedPlan registry context log =
      (.ok trace, out)) :
    ∃ events attempts v, out = log ++ events ∧
      Returned world route validatedPlan registry context trace attempts v events := by
  obtain ⟨admitted, st, a, v, final, hen, hrun, hdel, hdone, hf, ht⟩ := deliver_ok hd h
  obtain ⟨events, he, hh⟩ := hdel.history (by simpa using hrun.begun.nodup hl)
  have hout : st.outcomes = reportedOutcomes v := hdone.outcomes
  have hfinal : trace.finalStatus = final := by simp [ExecutionTrace.finalStatus, ht]
  have hv : reportedOutcomes v ≠ [] := by
    intro hnil
    have hlist := run_listed hrun
    simp only [reportedOutcomes, List.map_eq_nil_iff] at hnil
    exact hne (by simpa [hnil] using hlist.symm)
  rw [hout] at hf
  obtain ⟨record, hrec, hb⟩ := buildPlanOutcome_record context.startedAtUtc
    context.completedAtUtc hen.linked hv
  have hstatus : final.status = record := emitStatus_eq_ok.mp (hb ▸ hf)
  refine ⟨events, a, v, he, ⟨⟨_, hrun⟩, hh⟩, ?_, hfinal ▸ hf, ?_⟩
  · rw [ht, List.map_append, hdone.statuses, hfinal]
    simp [LoopState.start, hen.first]
  · rw [hfinal, hstatus]
    exact hrec

/-! ## What the outcomes say -/

section
variable {v : List (String × Verdict String StepDeliveryOutcome)}

theorem Planned.ledger (h : Planned world route validatedPlan registry attempts v events)
    (hl : Layout (deliveryPolicy validatedPlan.plan)
      (validatedPlan.plan.steps.map (·.stepId))) :
    ∃ d, Ledger (deliveryPolicy validatedPlan.plan) (validatedPlan.plan.steps.map (·.stepId)) [] d
      (attempts.map named) v := by
  obtain ⟨d, hr⟩ := h.run
  exact ⟨d, ledger_of_run hl hr⟩

theorem Planned.listed (h : Planned world route validatedPlan registry attempts v events) :
    (reportedOutcomes v).map Prod.fst = validatedPlan.plan.steps.map (·.stepId) := by
  obtain ⟨d, hr⟩ := h.run
  rw [← run_listed hr]
  simp [reportedOutcomes]

/-- A reported outcome is an attempt, a completed fallback or a skip. -/
theorem mem_reportedOutcomes {stepId : String} {outcome : StepDeliveryOutcome} :
    (stepId, outcome) ∈ reportedOutcomes v ↔
      (stepId, .own outcome) ∈ v ∨
      (∃ f, (stepId, .via f) ∈ v ∧ outcome = .completedViaFallback f) ∨
      ((stepId, .skipped) ∈ v ∧ outcome = .skipped) := by
  simp only [reportedOutcomes, List.mem_map, Prod.mk.injEq]
  constructor
  · rintro ⟨⟨s, w⟩, hw, rfl, rfl⟩
    cases w with
    | own o => exact .inl hw
    | via f => exact .inr (.inl ⟨f, hw, rfl⟩)
    | skipped => exact .inr (.inr ⟨hw, rfl⟩)
  · rintro (h | ⟨f, h, rfl⟩ | ⟨h, rfl⟩)
    · exact ⟨_, h, rfl, rfl⟩
    · exact ⟨_, h, rfl, rfl⟩
    · exact ⟨_, h, rfl, rfl⟩

/-- An outcome that an attempt can have was reported of the step's own attempt. -/
theorem own_of_reported {stepId : String} {outcome : StepDeliveryOutcome} (ha : Attempt outcome)
    (h : (stepId, outcome) ∈ reportedOutcomes v) : (stepId, .own outcome) ∈ v := by
  rcases mem_reportedOutcomes.mp h with h | ⟨f, -, rfl⟩ | ⟨-, rfl⟩
  · exact h
  · simp [Attempt, StepDeliveryOutcome.uncompleted] at ha
  · simp [Attempt, StepDeliveryOutcome.uncompleted] at ha

variable (h : Planned world route validatedPlan registry attempts v events)
  (hl : Layout (deliveryPolicy validatedPlan.plan) (validatedPlan.plan.steps.map (·.stepId)))
include h hl

theorem Planned.own_attempt {stepId : String} {outcome : StepDeliveryOutcome}
    (hv : (stepId, .own outcome) ∈ v) :
    (stepId, outcome) ∈ attempts.map named ∧ Attempt outcome := by
  obtain ⟨d, hled⟩ := h.ledger hl
  have hm := hled.own stepId outcome hv
  exact ⟨hm, h.history.attempt hm⟩

theorem Planned.reported_via {stepId f : String}
    (hm : (stepId, .completedViaFallback f) ∈ reportedOutcomes v) : (stepId, .via f) ∈ v := by
  rcases mem_reportedOutcomes.mp hm with hv | ⟨f', hv, he⟩ | ⟨-, he⟩
  · have ha := (h.own_attempt hl hv).2
    simp [Attempt, StepDeliveryOutcome.uncompleted] at ha
  · cases he
    exact hv
  · cases he

theorem Planned.reported_skipped {stepId : String}
    (hm : (stepId, .skipped) ∈ reportedOutcomes v) : (stepId, .skipped) ∈ v := by
  rcases mem_reportedOutcomes.mp hm with hv | ⟨f', -, he⟩ | ⟨hv, -⟩
  · have ha := (h.own_attempt hl hv).2
    simp [Attempt, StepDeliveryOutcome.uncompleted] at ha
  · cases he
  · exact hv

/-- A step counts exactly when the run completed it. -/
theorem Planned.counts_eq {q : String × Verdict String StepDeliveryOutcome} (hq : q ∈ v) :
    (reported q.2).counts = q.2.completed (deliveryPolicy validatedPlan.plan) := by
  obtain ⟨s, w⟩ := q
  cases w with
  | own o =>
    have ha := (h.own_attempt hl hq).2
    rw [reported, Verdict.completed, Bool.eq_iff_iff, ha.counts_iff, completes_iff]
  | via f => rfl
  | skipped => rfl

end

/-! ## The trace as an account of the calls -/

variable (route validatedPlan context) in
/-- What a returned trace tells about the attempts and the calls behind it. -/
structure Account (trace : ExecutionTrace)
    (attempts : List (ExecutionPlanStep × StepDeliveryOutcome))
    (outcomes : List (String × StepDeliveryOutcome)) (events : List (WorldEvent α)) : Prop where
  listed : outcomes.map Prod.fst = validatedPlan.plan.steps.map (·.stepId)
  aggregated : buildPlanOutcomeStatusFromRoute route outcomes context.startedAtUtc
    context.completedAtUtc = .ok trace.finalStatus
  progress : currentSteps (trace.statuses.map (·.status)) = attemptedIds attempts
  direct : ∀ stepId, (stepId, .completed) ∈ outcomes →
    answersTo stepId events = [.deliveredAllSteps]
  via : ∀ stepId f, (stepId, .completedViaFallback f) ∈ outcomes →
    (∃ outcome, (stepId, outcome) ∈ attempts.map named ∧ outcome ≠ .completed) ∧
    (∃ r ∈ validatedPlan.plan.fallbackReferences, r.stepId = stepId ∧ r.fallbackStepId = f) ∧
    answersTo f events = [.deliveredAllSteps]
  skipped : ∀ stepId ∈ validatedPlan.plan.steps.map (·.stepId),
    (stepId, .skipped) ∈ outcomes ↔ stepId ∉ attemptedIds attempts
  counted : trace.finalStatus.status.state = .partialSuccess →
    trace.finalStatus.status.completionSummary =
      some (completedOf (completedCount outcomes) validatedPlan.plan.steps.length)

theorem currentSteps_inProgress (route : SelectedExecutionRoute)
    (attempts : List (ExecutionPlanStep × StepDeliveryOutcome)) (link : ExecutionPlanId × String)
    (startedAtUtc : TimestampUtc) :
    currentSteps (attempts.map fun attempt =>
      inProgressStatus route link startedAtUtc attempt.1.stepId) = attemptedIds attempts := by
  simp [currentSteps, attemptedIds, inProgressStatus, routeStatus, named, Function.comp_def]

theorem FinalRecord.not_inProgress {link : ExecutionPlanId × String}
    {startedAtUtc completedAtUtc : TimestampUtc} {record : ExecutionStatus}
    (h : FinalRecord route link outcomes startedAtUtc completedAtUtc record) :
    record.state ≠ .inProgress := by
  cases h <;> simp [constrainedStatus, completedStatus, partialSuccessStatus, failedStatus,
    canceledStatus, unavailableDependencyStatus, routeStatus]

theorem FinalRecord.counted {link : ExecutionPlanId × String}
    {startedAtUtc completedAtUtc : TimestampUtc} {record : ExecutionStatus}
    (h : FinalRecord route link outcomes startedAtUtc completedAtUtc record)
    (hs : record.state = .partialSuccess) :
    record.completionSummary = some (completedOf (completedCount outcomes) outcomes.length) := by
  cases h with
  | partialSuccess => rfl
  | _ => simp [constrainedStatus, completedStatus, failedStatus, canceledStatus,
      unavailableDependencyStatus, routeStatus] at hs

theorem Returned.account {v : List (String × Verdict String StepDeliveryOutcome)}
    (h : Returned world route validatedPlan registry context trace attempts v events)
    (hl : Layout (deliveryPolicy validatedPlan.plan)
      (validatedPlan.plan.steps.map (·.stepId))) :
    Account route validatedPlan context trace attempts (reportedOutcomes v) events := by
  obtain ⟨d, hled⟩ := h.ledger hl
  refine ⟨h.listed, h.aggregated, ?_, ?_, ?_, ?_, ?_⟩
  · rw [h.statuses, currentSteps, List.filterMap_append, List.filterMap_cons_none rfl]
    have hlast := h.final.not_inProgress
    have hmid := currentSteps_inProgress route attempts
      (validatedPlan.plan.executionPlanId, validatedPlan.stablePlanHash) context.startedAtUtc
    simpa [currentSteps, hlast] using hmid
  · intro stepId hm
    exact h.history.delivered (h.own_attempt hl (own_of_reported (.inl rfl) hm)).1
  · intro stepId f hm
    obtain ⟨hf, ⟨o, ho, hno⟩, o', ho', hc⟩ := hled.via stepId f (h.reported_via hl hm)
    refine ⟨⟨o, ho, ?_⟩, fallback_eq_some hf, ?_⟩
    · rintro rfl
      simp [deliveryPolicy] at hno
    · rw [completes_iff] at hc
      exact h.history.delivered (hc ▸ ho')
  · intro stepId hs
    rw [mem_attemptedIds, not_exists, ← hled.skipped_iff hs]
    exact ⟨h.reported_skipped hl, fun hv => mem_reportedOutcomes.mpr (.inr (.inr ⟨hv, rfl⟩))⟩
  · intro hs
    have hlen : (reportedOutcomes v).length = validatedPlan.plan.steps.length := by
      simpa using congrArg List.length h.listed
    rw [h.final.counted hs, hlen]

/-! ## The final state -/

section
variable {v : List (String × Verdict String StepDeliveryOutcome)}

/-- The state that the attempts and the reported outcomes call for. -/
structure Classified (plan : ExecutionPlan)
    (attempts : List (ExecutionPlanStep × StepDeliveryOutcome))
    (outcomes : List (String × StepDeliveryOutcome))
    (kind : ExecutionState × Option DegradedSubtype) : Prop where
  completed : kind = (.completed, none) ↔
    ∀ step ∈ plan.steps, (step.stepId, .completed) ∈ attempts.map named
  constrained : kind = (.completedWithConstraints, some .degradedFallbackLimited) ↔
    (∀ q ∈ outcomes, q.2.counts = true) ∧ ∃ q ∈ outcomes, q.2.fallbackUsed.isSome = true
  partialSuccess : kind = (.partialSuccess, some .degradedPartial) ↔
    (∃ q ∈ outcomes, q.2.counts = true) ∧ ∃ q ∈ outcomes, q.2.counts = false
  failed : kind = (.failed, none) ↔ (∀ q ∈ outcomes, q.2.counts = false) ∧
    ∃ q ∈ attempts, ∃ summary, q.2 = .failed summary
  canceled : kind = (.canceled, none) ↔ (∀ q ∈ outcomes, q.2.counts = false) ∧
    (∀ q ∈ attempts, ∀ summary, q.2 ≠ .failed summary) ∧ ∃ q ∈ attempts, q.2 = .canceled
  unavailable : kind = (.degraded, some .unavailableDependencyBlock) ↔
    (∀ q ∈ outcomes, q.2.counts = false) ∧ (∀ q ∈ attempts, ∀ summary, q.2 ≠ .failed summary) ∧
    ∀ q ∈ attempts, q.2 ≠ .canceled

/-- The step that a final status names as its cause was attempted. -/
structure CauseAttempted (attempts : List (ExecutionPlanStep × StepDeliveryOutcome))
    (final : ExecutionStatus) : Prop where
  partialSuccess : final.state = .partialSuccess → ∃ q ∈ attempts, ∃ detail,
    q.2.incompleteDetail = some detail ∧
      final.failureSummary = some (partialSuccessFailure q.1.stepId detail)
  failed : final.state = .failed → ∃ q ∈ attempts, ∃ summary, q.2 = .failed summary ∧
    final.failureSummary = some summary
  canceled : final.state = .canceled → ∃ q ∈ attempts, q.2 = .canceled ∧
    final.truthfulUserVisibleSummary =
      "external delivery canceled during declared step " ++ q.1.stepId

section
variable (h : Planned world route validatedPlan registry attempts v events)
  (hl : Layout (deliveryPolicy validatedPlan.plan) (validatedPlan.plan.steps.map (·.stepId)))
include h hl

/-- Every step completed by its own attempt, exactly when no fallback stood in. -/
theorem Planned.all_own_iff :
    (∀ step ∈ validatedPlan.plan.steps, (step.stepId, .completed) ∈ attempts.map named) ↔
      (∀ q ∈ reportedOutcomes v, q.2.counts = true) ∧
      ∀ q ∈ reportedOutcomes v, q.2.fallbackUsed.isSome = false := by
  obtain ⟨d, hled⟩ := h.ledger hl
  constructor
  · intro hall
    have hc : ∀ q ∈ reportedOutcomes v, q.2 = .completed := by
      rintro ⟨s, outcome⟩ hq
      have hs : s ∈ validatedPlan.plan.steps.map (·.stepId) := by
        rw [← hled.listed]
        obtain ⟨⟨s', w⟩, hw, he⟩ := List.mem_map.mp hq
        cases he
        exact List.mem_map_of_mem (f := Prod.fst) hw
      obtain ⟨step, hstep, rfl⟩ := List.mem_map.mp hs
      have hown := hall step hstep
      rcases mem_reportedOutcomes.mp hq with hv | ⟨f, hv, -⟩ | ⟨hv, -⟩
      · exact hled.unique (hled.own _ _ hv) hown
      · obtain ⟨-, ⟨o, ho, hno⟩, -⟩ := hled.via _ f hv
        rw [hled.unique ho hown] at hno
        simp [deliveryPolicy] at hno
      · exact absurd hown (hled.skipped _ hv _)
    exact ⟨fun q hq => hc q hq ▸ rfl, fun q hq => hc q hq ▸ rfl⟩
  · rintro ⟨hcount, huse⟩ step hstep
    obtain ⟨w, hw⟩ := hled.verdict (List.mem_map_of_mem (f := (·.stepId)) hstep)
    have hq : (step.stepId, reported w) ∈ reportedOutcomes v :=
      List.mem_map.mpr ⟨_, hw, rfl⟩
    have hc := hcount _ hq
    have hu := huse _ hq
    cases w with
    | own o =>
      obtain ⟨hm, ha⟩ := h.own_attempt hl hw
      exact ha.counts_iff.mp hc ▸ hm
    | via f => simp [reported, StepDeliveryOutcome.fallbackUsed] at hu
    | skipped => simp [reported, StepDeliveryOutcome.counts] at hc

/-- Where no step completed, every attempt is reported as it is. -/
theorem Planned.attempt_reported (hnone : ∀ q ∈ reportedOutcomes v, q.2.counts = false)
    {q : ExecutionPlanStep × StepDeliveryOutcome} (hq : q ∈ attempts) :
    (q.1.stepId, q.2) ∈ reportedOutcomes v := by
  obtain ⟨d, hled⟩ := h.ledger hl
  have hm : (q.1.stepId, q.2) ∈ attempts.map named := List.mem_map.mpr ⟨q, hq, rfl⟩
  obtain ⟨w, hw⟩ := hled.verdict (hled.closed hm)
  cases w with
  | own o =>
    rw [hled.unique hm (hled.own _ _ hw)]
    exact mem_reportedOutcomes.mpr (.inl hw)
  | via f =>
    have := hnone _ (mem_reportedOutcomes.mpr (.inr (.inl ⟨f, hw, rfl⟩)))
    simp [StepDeliveryOutcome.counts] at this
  | skipped => exact absurd hm (hled.skipped _ hw _)

/-- Behind an outcome that counts is an attempt that completed. -/
theorem Planned.completed_of_counts (hc : ∃ q ∈ reportedOutcomes v, q.2.counts = true) :
    ∃ stepId, (stepId, .completed) ∈ attempts.map named := by
  obtain ⟨⟨stepId, outcome⟩, hq, hcount⟩ := hc
  obtain ⟨d, hled⟩ := h.ledger hl
  rcases mem_reportedOutcomes.mp hq with hv | ⟨f, hv, -⟩ | ⟨-, rfl⟩
  · obtain ⟨hm, ha⟩ := h.own_attempt hl hv
    exact ⟨stepId, ha.counts_iff.mp hcount ▸ hm⟩
  · obtain ⟨-, -, o, ho, hco⟩ := hled.via stepId f hv
    exact ⟨f, completes_iff.mp hco ▸ ho⟩
  · simp [StepDeliveryOutcome.counts] at hcount

/-- A reported failure, cancellation or missing adapter is an attempt. -/
theorem Planned.reported_attempt {stepId : String} {outcome : StepDeliveryOutcome}
    (hu : outcome.uncompleted = true) (hm : (stepId, outcome) ∈ reportedOutcomes v) :
    ∃ q ∈ attempts, q.1.stepId = stepId ∧ q.2 = outcome := by
  obtain ⟨q, hq, he⟩ := List.mem_map.mp (h.own_attempt hl (own_of_reported (.inr hu) hm)).1
  cases he
  exact ⟨q, hq, rfl, rfl⟩

end

variable (h : Returned world route validatedPlan registry context trace attempts v events)
  (hl : Layout (deliveryPolicy validatedPlan.plan) (validatedPlan.plan.steps.map (·.stepId)))
include h hl

theorem Returned.reported_nonempty (hne : validatedPlan.plan.steps ≠ []) :
    ∃ q, q ∈ reportedOutcomes v := by
  refine List.exists_mem_of_ne_nil _ fun hnil => ?_
  have hlist := (h.account hl).listed
  simp only [hnil, List.map_nil] at hlist
  exact hne (List.map_eq_nil_iff.mp hlist.symm)

/-- Where nothing completed and no failure is reported, no attempt failed. -/
theorem Returned.attempts_unfailed (hnone : ∀ q ∈ reportedOutcomes v, q.2.counts = false)
    (hf : ∀ q ∈ reportedOutcomes v, q.2.failureText = none) :
    ∀ q ∈ attempts, ∀ summary, q.2 ≠ .failed summary := by
  intro q hq summary he
  have ht := hf _ (h.attempt_reported hl hnone hq)
  simp [he, StepDeliveryOutcome.failureText] at ht

/-- The final state is the one that the attempts call for. -/
theorem Returned.classified (hne : validatedPlan.plan.steps ≠ []) :
    Classified validatedPlan.plan attempts (reportedOutcomes v)
      (trace.finalStatus.status.state, trace.finalStatus.status.degradedSubtype) := by
  have hsome := h.reported_nonempty hl hne
  -- some steps complete, so the three states without a completed step are excluded
  have hpos : (∃ q ∈ reportedOutcomes v, q.2.counts = true) →
      ¬ ∀ q ∈ reportedOutcomes v, q.2.counts = false := by
    rintro ⟨q, hq, hc⟩ hnone
    simp [hnone q hq] at hc
  have hneg : (∃ q ∈ reportedOutcomes v, q.2.counts = false) →
      ¬ ∀ q ∈ reportedOutcomes v, q.2.counts = true := by
    rintro ⟨q, hq, hc⟩ hall
    simp [hall q hq] at hc
  have hall_neg : (∀ q ∈ reportedOutcomes v, q.2.counts = true) →
      ¬ ∃ q ∈ reportedOutcomes v, q.2.counts = false := fun hall hn => hneg hn hall
  have hall_pos : (∀ q ∈ reportedOutcomes v, q.2.counts = true) →
      ∃ q ∈ reportedOutcomes v, q.2.counts = true := fun hall =>
    hsome.imp fun q hq => ⟨hq, hall q hq⟩
  have hnone_neg : (∀ q ∈ reportedOutcomes v, q.2.counts = false) →
      ∃ q ∈ reportedOutcomes v, q.2.counts = false := fun hnone =>
    hsome.imp fun q hq => ⟨hq, hnone q hq⟩
  -- what a run with a completed step, and one without, leaves of the six states
  have hcounted : (∃ q ∈ reportedOutcomes v, q.2.counts = true) → ∀ P : Prop,
      ¬ ((∀ q ∈ reportedOutcomes v, q.2.counts = false) ∧ P) := fun hsome _ hc => hpos hsome hc.1
  have huncounted : (∃ q ∈ reportedOutcomes v, q.2.counts = false) →
      (¬ ∀ step ∈ validatedPlan.plan.steps, (step.stepId, .completed) ∈ attempts.map named) ∧
        ∀ P : Prop, ¬ ((∀ q ∈ reportedOutcomes v, q.2.counts = true) ∧ P) := fun hn =>
    ⟨fun hc => hneg hn ((h.all_own_iff hl).mp hc).1, fun _ hc => hneg hn hc.1⟩
  have hfinal := h.final
  generalize trace.finalStatus.status = record at hfinal
  cases hfinal with
  | viaFallback hall hvia =>
    obtain ⟨q, hq, hu⟩ := hvia
    have hdown := hcounted (hall_pos hall)
    refine ⟨iff_of_false (by rintro ⟨⟩) fun hc => ?_, iff_of_true rfl ⟨hall, q, hq, hu⟩,
      iff_of_false (by rintro ⟨⟩) fun hc => hall_neg hall hc.2,
      iff_of_false (by rintro ⟨⟩) (hdown _), iff_of_false (by rintro ⟨⟩) (hdown _),
      iff_of_false (by rintro ⟨⟩) (hdown _)⟩
    simp [((h.all_own_iff hl).mp hc).2 q hq] at hu
  | completed hall hown =>
    have hdown := hcounted (hall_pos hall)
    refine ⟨iff_of_true rfl ((h.all_own_iff hl).mpr ⟨hall, hown⟩), iff_of_false (by rintro ⟨⟩) ?_,
      iff_of_false (by rintro ⟨⟩) fun hc => hall_neg hall hc.2,
      iff_of_false (by rintro ⟨⟩) (hdown _), iff_of_false (by rintro ⟨⟩) (hdown _),
      iff_of_false (by rintro ⟨⟩) (hdown _)⟩
    rintro ⟨-, q, hq, hu⟩
    simp [hown q hq] at hu
  | @partialSuccess pre post stepId detail outcome hsome he hpre hd =>
    have hn : ∃ q ∈ reportedOutcomes v, q.2.counts = false := by
      refine ⟨(stepId, outcome), he ▸ by simp, ?_⟩
      have hi := StepDeliveryOutcome.incompleteDetail_isSome outcome
      simpa [hd] using hi
    have hdown := hcounted hsome
    obtain ⟨hcompleted, hup⟩ := huncounted hn
    exact ⟨iff_of_false (by rintro ⟨⟩) hcompleted, iff_of_false (by rintro ⟨⟩) (hup _),
      iff_of_true rfl ⟨hsome, hn⟩, iff_of_false (by rintro ⟨⟩) (hdown _),
      iff_of_false (by rintro ⟨⟩) (hdown _), iff_of_false (by rintro ⟨⟩) (hdown _)⟩
  | failed hnone hm =>
    obtain ⟨q, hq, -, ho⟩ := h.reported_attempt hl rfl hm
    obtain ⟨hcompleted, hup⟩ := huncounted (hnone_neg hnone)
    exact ⟨iff_of_false (by rintro ⟨⟩) hcompleted, iff_of_false (by rintro ⟨⟩) (hup _),
      iff_of_false (by rintro ⟨⟩) fun hc => hpos hc.1 hnone, iff_of_true rfl ⟨hnone, q, hq, _, ho⟩,
      iff_of_false (by rintro ⟨⟩) fun hc => hc.2.1 q hq _ ho,
      iff_of_false (by rintro ⟨⟩) fun hc => hc.2.1 q hq _ ho⟩
  | canceled hnone hf hm =>
    obtain ⟨q, hq, -, ho⟩ := h.reported_attempt hl rfl hm
    obtain ⟨hcompleted, hup⟩ := huncounted (hnone_neg hnone)
    have hnf := h.attempts_unfailed hl hnone hf
    refine ⟨iff_of_false (by rintro ⟨⟩) hcompleted, iff_of_false (by rintro ⟨⟩) (hup _),
      iff_of_false (by rintro ⟨⟩) fun hc => hpos hc.1 hnone, iff_of_false (by rintro ⟨⟩) ?_,
      iff_of_true rfl ⟨hnone, hnf, q, hq, ho⟩,
      iff_of_false (by rintro ⟨⟩) fun hc => hc.2.2 q hq ho⟩
    rintro ⟨-, p, hp, summary, he⟩
    exact hnf p hp summary he
  | unavailable hnone hne hf hc =>
    obtain ⟨hcompleted, hup⟩ := huncounted (hnone_neg hnone)
    have hnf := h.attempts_unfailed hl hnone hf
    have hnc : ∀ q ∈ attempts, q.2 ≠ .canceled := fun q hq =>
      hc _ (h.attempt_reported hl hnone hq)
    refine ⟨iff_of_false (by rintro ⟨⟩) hcompleted, iff_of_false (by rintro ⟨⟩) (hup _),
      iff_of_false (by rintro ⟨⟩) fun hc => hpos hc.1 hnone, iff_of_false (by rintro ⟨⟩) ?_,
      iff_of_false (by rintro ⟨⟩) ?_, iff_of_true rfl ⟨hnone, hnf, hnc⟩⟩
    · rintro ⟨-, p, hp, summary, he⟩
      exact hnf p hp summary he
    · rintro ⟨-, -, p, hp, he⟩
      exact hnc p hp he

/-- The cause that the final status names was attempted. -/
theorem Returned.causeAttempted : CauseAttempted attempts trace.finalStatus.status := by
  have hfinal := h.final
  generalize trace.finalStatus.status = record at hfinal
  constructor
  · intro hs
    cases hfinal with
    | partialSuccess hpos he hpre hd =>
      obtain ⟨v₁, rest, rfl, rfl, hrest⟩ := List.map_eq_append_iff.mp he
      obtain ⟨⟨s, w⟩, v₂, rfl, hw, rfl⟩ := List.map_eq_cons_iff.mp hrest
      cases hw
      obtain ⟨d, hr⟩ := h.run
      have hfind : (v₁ ++ (s, w) :: v₂).find? (failing (deliveryPolicy validatedPlan.plan)) =
          some (s, w) := by
        rw [List.find?_eq_some_iff_append]
        refine ⟨?_, v₁, v₂, rfl, fun q hq => ?_⟩
        · have hc : (reported w).counts = false := by
            have := StepDeliveryOutcome.incompleteDetail_isSome (reported w)
            simpa [hd] using this
          rw [failing, ← h.counts_eq hl (by simp), hc]
          rfl
        · have hc := hpre _ (List.mem_map_of_mem hq)
          rw [failing, ← h.counts_eq hl (by simp [hq])]
          simpa using hc
      cases w with
      | own o =>
        have hown : (s, Verdict.own o) ∈ v₁ ++ (s, .own o) :: v₂ := by simp
        obtain ⟨q, hq, he'⟩ := List.mem_map.mp (h.own_attempt hl hown).1
        cases he'
        exact ⟨q, hq, _, hd, rfl⟩
      | via f => cases hd
      | skipped => exact absurd hfind ((blame_of_run hr).first s)
    | _ => cases hs
  · intro hs
    cases hfinal with
    | failed hnone hm =>
      obtain ⟨q, hq, -, ho⟩ := h.reported_attempt hl rfl hm
      exact ⟨q, hq, _, ho, rfl⟩
    | _ => cases hs
  · intro hs
    cases hfinal with
    | canceled hnone hf hm =>
      obtain ⟨q, hq, rfl, ho⟩ := h.reported_attempt hl rfl hm
      exact ⟨q, hq, ho, rfl⟩
    | _ => cases hs

end

end

end ExecutionService

/-! The three capabilities and the fallback plan of the dispatch tests. -/

namespace Fixture

def capabilities : CapabilityRegistry where
  registryVersion := "1.0.0"
  capabilities := [record, { record with capabilityId := id .capability 8 },
    { record with capabilityId := id .capability 9 }]

def step (stepId : String) (digit : UInt8) : ExecutionPlanStep where
  stepId := stepId
  capabilityId := id .capability digit
  declaredSideEffectClass := .localFileWrite
  timeoutBudgetMs := 400

def planOf (steps : List ExecutionPlanStep) (fallbackReferences : List FallbackReference)
    (stablePlanHash : String) : ExecutionPlan where
  executionPlanId := id .executionPlan 8
  correlationId := id .correlation 6
  originatingRequestId := id .request 5
  steps := steps
  referencedCapabilities := [id .capability 4, id .capability 8, id .capability 9]
  declaredMaxStepCount := 6
  declaredSideEffectClasses := [.localFileWrite]
  fallbackReferences := fallbackReferences
  cancellationPolicy := .cancelRemainingSteps
  completionPolicy := .allowDeclaredFallbackCompletion
  maxDurationBudgetMs := 4000
  stablePlanHash := stablePlanHash
  plannedAtUtc := at2030 600

/-- A digest that answers with one hash. -/
def digestOf (hash : String) (h : isValidHash hash = true) : PlanDigest := ⟨fun _ => hash, fun _ => h⟩

def fallbackHash : String := "d4f2d70d696f37cbb58af540699aba4a4ee6611f2e3132da526bb8a37245d45f"

def fallbackDigest : PlanDigest := digestOf fallbackHash (by decide +kernel)

def fallbackPlan : ExecutionPlan :=
  planOf [step "step_a" 4, step "step_b" 8, step "step_c" 9] [⟨"step_a", "step_b"⟩] fallbackHash

def validatedFallbackPlan : ValidatedExecutionPlan := ⟨fallbackPlan, fallbackHash⟩

theorem fallbackPlan_validated : ExecutionPlanValidator.validate fallbackDigest (at2030 600)
    fallbackPlan capabilities = .ok validatedFallbackPlan := by
  decide +kernel

def decision : RouteDecision where
  routeDecisionId := id .routeDecision 7
  correlationId := id .correlation 6
  requestId := id .request 5
  resolvedApprovalPosture := .policyPreapproved
  executionAllowed := true
  denialGuards := []
  reviewRequired := false
  explicitApprovalRequired := false
  policyReference := some { policyId := id .policy 3, policyVersion := "1.0.0" }
  capabilityDecisionSummary := {
    requestedCapabilityId := id .capability 4
    capabilityAdmitted := true
    capabilityOwnerService := some "fa-local"
    requestedSideEffectClass := .localFileWrite
    capabilityApprovalPosture := some .policyPreapproved
    policyRequiredApprovalPosture := some .policyPreapproved
    requesterMaxApprovalPosture := some .executeAllowed
    sideEffectMinimumApprovalPosture := .policyPreapproved
    reviewClass := some .none }
  operatorVisibleSummary :=
    "request is policy preapproved for capability 44444444-4444-4444-8444-444444444444"
  degradedSubtype := none
  decidedAtUtc := at2030 300

def route (validatedPlan : ValidatedExecutionPlan) : SelectedExecutionRoute :=
  RoutingService.routablePlanSelection decision validatedPlan .externalAdapterBoundedExecution
    true false

def coordination : CoordinationContext := ⟨at2030 3300, at2030 3305, at2030 3330⟩

/-- One adapter for every capability. -/
def stubRegistry : AdapterRegistry Unit := ⟨fun _ => some ()⟩

/-- The stub adapter answers by the step that it is called for. -/
def stubWorld (answer : List String → AdapterDeliveryResult) : DeliveryWorld Unit where
  adapterId := fun _ => "stub-adapter"
  deliverRoute := fun _ _ request => answer request.declaredStepIds

def failingAt (stepIds : List String) : DeliveryWorld Unit :=
  stubWorld fun declared =>
    if declared.any (stepIds.contains ·) then
      .failedAtDeclaredStep (declared.headD "step_a") "disk full"
    else .deliveredAllSteps

theorem fallbackRun_returns : (ExecutionService.deliverPlanPerStepViaRegistry
    (failingAt ["step_a"]) (route validatedFallbackPlan) validatedFallbackPlan stubRegistry
    coordination []).1.isOk = true := by
  decide +kernel

theorem stoppedRun_returns : (ExecutionService.deliverPlanPerStepViaRegistry
    (failingAt ["step_a", "step_b"]) (route validatedFallbackPlan) validatedFallbackPlan
    stubRegistry coordination []).1.isOk = true := by
  decide +kernel

end Fixture

namespace ExecutionService

open FallbackRun (Begun start)
open ExecutionPlanValidator (accepted_of_validate)

section
variable {α : Type} (world : DeliveryWorld α) (route : SelectedExecutionRoute)
  (registry : AdapterRegistry α) (context : CoordinationContext) (log : List (WorldEvent α))
  {digest : PlanDigest} {utcNow : TimestampUtc} {plan : ExecutionPlan}
  {capabilities : CapabilityRegistry} {validatedPlan : ValidatedExecutionPlan}

/-- Over a whole delivery, returned or not, every step is called at most once,
alone, at the adapter registered for its capability. -/
theorem deliver_calls_once
    (hv : ExecutionPlanValidator.validate digest utcNow plan capabilities = .ok validatedPlan) :
    ∃ events, (deliverPlanPerStepViaRegistry world route validatedPlan registry context log).2 =
        log ++ events ∧
      ((WorldEvent.calls events).flatMap fun call => call.2.1.declaredStepIds).Nodup ∧
      ∀ call ∈ WorldEvent.calls events, ∃ step ∈ plan.steps,
        registry.resolve step.capabilityId = some call.1 ∧
        call.2.1.declaredStepIds = [step.stepId] ∧
        call.2.1.requestedCapabilityId = step.capabilityId ∧
        call.2.1.declaredCapabilityIds = [step.capabilityId] ∧
        call.2.1.declaredFallbackReferences = [] := by
  obtain ⟨rfl, hacc⟩ := accepted_of_validate hv
  obtain ⟨events, a, l, he, -, hn, hh⟩ := deliver_history world route registry context
    log (fallbacksDeclared_of_accepted hacc) (layout_of_accepted hacc)
  refine ⟨events, he, ?_, fun call hc => ?_⟩
  · have hsub := hh.calls.flatten
    rw [← List.flatMap_def, ← List.flatMap_def, List.flatMap_singleton'] at hsub
    exact hn.sublist hsub
  · obtain ⟨step, hs, ha, hreq⟩ := hh.addressed call hc
    exact ⟨step, hs, ha, by simp [hreq, stepRequest]⟩

theorem deliver_calls_once_fallback : ∃ events,
    (deliverPlanPerStepViaRegistry (Fixture.failingAt ["step_a"])
        (Fixture.route Fixture.validatedFallbackPlan) Fixture.validatedFallbackPlan
        Fixture.stubRegistry Fixture.coordination []).2 = [] ++ events ∧
      ((WorldEvent.calls events).flatMap fun call => call.2.1.declaredStepIds).Nodup ∧
      ∀ call ∈ WorldEvent.calls events, ∃ step ∈ Fixture.fallbackPlan.steps,
        Fixture.stubRegistry.resolve step.capabilityId = some call.1 ∧
        call.2.1.declaredStepIds = [step.stepId] ∧
        call.2.1.requestedCapabilityId = step.capabilityId ∧
        call.2.1.declaredCapabilityIds = [step.capabilityId] ∧
        call.2.1.declaredFallbackReferences = [] :=
  deliver_calls_once _ _ _ _ _ Fixture.fallbackPlan_validated

/-- A returned trace tells what was done: one outcome a step, the attempts in
their order, completions backed by the answer of the step's single call. -/
theorem deliver_trace_truthful
    (hv : ExecutionPlanValidator.validate digest utcNow plan capabilities = .ok validatedPlan)
    {out : List (WorldEvent α)} {trace : ExecutionTrace}
    (hr : deliverPlanPerStepViaRegistry world route validatedPlan registry context log =
      (.ok trace, out)) :
    ∃ events attempts outcomes, out = log ++ events ∧
      History world route validatedPlan registry attempts [] events ∧
      (attemptedIds attempts).Nodup ∧ (plan.steps.map (·.stepId)).Nodup ∧
      Account route validatedPlan context trace attempts outcomes events := by
  obtain ⟨rfl, hacc⟩ := accepted_of_validate hv
  have hl := layout_of_accepted hacc
  obtain ⟨events, attempts, v, he, h⟩ :=
    deliver_returned (fallbacksDeclared_of_accepted hacc) hl hacc.nonempty hr
  obtain ⟨d, hled⟩ := h.ledger hl
  exact ⟨events, attempts, reportedOutcomes v, he, h.history, hled.once, hacc.distinct,
    h.account hl⟩

theorem deliver_trace_truthful_fallback : ∃ trace out events attempts outcomes,
    deliverPlanPerStepViaRegistry (Fixture.failingAt ["step_a"])
        (Fixture.route Fixture.validatedFallbackPlan) Fixture.validatedFallbackPlan
        Fixture.stubRegistry Fixture.coordination [] = (.ok trace, out) ∧ out = [] ++ events ∧
      History (Fixture.failingAt ["step_a"]) (Fixture.route Fixture.validatedFallbackPlan)
        Fixture.validatedFallbackPlan Fixture.stubRegistry attempts [] events ∧
      (attemptedIds attempts).Nodup ∧ (Fixture.fallbackPlan.steps.map (·.stepId)).Nodup ∧
      Account (Fixture.route Fixture.validatedFallbackPlan) Fixture.validatedFallbackPlan
        Fixture.coordination trace attempts outcomes events := by
  obtain ⟨trace, hr⟩ := exists_of_fst_isOk Fixture.fallbackRun_returns
  obtain ⟨events, attempts, outcomes, h⟩ :=
    deliver_trace_truthful _ _ _ _ _ Fixture.fallbackPlan_validated hr
  exact ⟨trace, _, events, attempts, outcomes, hr, h⟩

/-- The shape of a returned trace, its final state, and the cause it names. -/
theorem deliver_final_state
    (hv : ExecutionPlanValidator.validate digest utcNow plan capabilities = .ok validatedPlan)
    {out : List (WorldEvent α)} {trace : ExecutionTrace}
    (hr : deliverPlanPerStepViaRegistry world route validatedPlan registry context log =
      (.ok trace, out)) :
    ∃ events attempts outcomes, out = log ++ events ∧
      History world route validatedPlan registry attempts [] events ∧
      Account route validatedPlan context trace attempts outcomes events ∧
      (∃ admitted inProgress, trace.statuses.map (·.status) =
          admitted :: inProgress ++ [trace.finalStatus.status] ∧
        admitted.state = .admittedNotStarted ∧ inProgress ≠ [] ∧
        ∀ status ∈ inProgress, status.state = .inProgress) ∧
      Classified plan attempts outcomes
        (trace.finalStatus.status.state, trace.finalStatus.status.degradedSubtype) ∧
      CauseAttempted attempts trace.finalStatus.status := by
  obtain ⟨rfl, hacc⟩ := accepted_of_validate hv
  have hl := layout_of_accepted hacc
  obtain ⟨events, attempts, v, he, h⟩ :=
    deliver_returned (fallbacksDeclared_of_accepted hacc) hl hacc.nonempty hr
  refine ⟨events, attempts, reportedOutcomes v, he, h.history, h.account hl,
    ⟨_, _, h.statuses, rfl, ?_, ?_⟩, h.classified hl hacc.nonempty, h.causeAttempted hl⟩
  · obtain ⟨d, hrun⟩ := h.run
    have hne := hrun.attempts_ne_nil (by simpa using hacc.nonempty)
    simpa using hne
  · intro status hs
    obtain ⟨attempt, -, rfl⟩ := List.mem_map.mp hs
    rfl

theorem deliver_final_state_stopped : ∃ trace out events attempts outcomes,
    deliverPlanPerStepViaRegistry (Fixture.failingAt ["step_a", "step_b"])
        (Fixture.route Fixture.validatedFallbackPlan) Fixture.validatedFallbackPlan
        Fixture.stubRegistry Fixture.coordination [] = (.ok trace, out) ∧ out = [] ++ events ∧
      History (Fixture.failingAt ["step_a", "step_b"])
        (Fixture.route Fixture.validatedFallbackPlan) Fixture.validatedFallbackPlan
        Fixture.stubRegistry attempts [] events ∧
      Account (Fixture.route Fixture.validatedFallbackPlan) Fixture.validatedFallbackPlan
        Fixture.coordination trace attempts outcomes events ∧
      (∃ admitted inProgress, trace.statuses.map (·.status) =
          admitted :: inProgress ++ [trace.finalStatus.status] ∧
        admitted.state = .admittedNotStarted ∧ inProgress ≠ [] ∧
        ∀ status ∈ inProgress, status.state = .inProgress) ∧
      Classified Fixture.fallbackPlan attempts outcomes
        (trace.finalStatus.status.state, trace.finalStatus.status.degradedSubtype) ∧
      CauseAttempted attempts trace.finalStatus.status := by
  obtain ⟨trace, hr⟩ := exists_of_fst_isOk Fixture.stoppedRun_returns
  obtain ⟨events, attempts, outcomes, h⟩ :=
    deliver_final_state _ _ _ _ _ Fixture.fallbackPlan_validated hr
  exact ⟨trace, _, events, attempts, outcomes, hr, h⟩

/-- The verdict of a cancelling plan on what may follow an attempt that did not
complete: nothing but the step's own fallback, and nothing after that. -/
def StopsAfterFailure (plan : ExecutionPlan)
    (attempts : List (ExecutionPlanStep × StepDeliveryOutcome)) (refused : List String) : Prop :=
  ∀ pre stepId outcome tail, attempts.map named = pre ++ (stepId, outcome) :: tail →
    outcome ≠ .completed →
    (∀ f outcome', (deliveryPolicy plan).fallback stepId = some f → (f, outcome') ∈ tail →
      outcome' ≠ .completed) →
    tail.map Prod.fst ++ refused = [] ∨
      ∃ f, (deliveryPolicy plan).fallback stepId = some f ∧ tail.map Prod.fst ++ refused = [f]

theorem stopsAfterFailure_of_begun {attempts : List (ExecutionPlanStep × StepDeliveryOutcome)}
    {refused : List String} (hp : plan.cancellationPolicy = .cancelRemainingSteps)
    (hb : Begun (deliveryPolicy plan) start (plan.steps.map (·.stepId)) (attempts.map named)
      refused) : StopsAfterFailure plan attempts refused := by
  intro pre stepId outcome tail he ho hf
  have hno : ∀ {o : StepDeliveryOutcome}, o ≠ .completed →
      (deliveryPolicy plan).completes o = false := by
    intro o ho
    rw [← Bool.not_eq_true, completes_iff]
    exact ho
  exact hb.stop (stops_iff.mpr hp) he (hno ho) fun f o' hfall hm => hno (hf f o' hfall hm)

/-- The two cancellation policies. A cancelling plan makes no call after its
first failure but that of the fallback, and skips what is left; any other plan
that returns has attempted every step exactly once. -/
theorem deliver_cancellation_policy
    (hv : ExecutionPlanValidator.validate digest utcNow plan capabilities = .ok validatedPlan) :
    ∃ events attempts refused,
      (deliverPlanPerStepViaRegistry world route validatedPlan registry context log).2 =
        log ++ events ∧
      History world route validatedPlan registry attempts refused events ∧
      (plan.cancellationPolicy = .cancelRemainingSteps →
        StopsAfterFailure plan attempts refused) ∧
      ∀ trace, (deliverPlanPerStepViaRegistry world route validatedPlan registry context log).1 =
          .ok trace →
        refused = [] ∧ ∃ outcomes,
          Account route validatedPlan context trace attempts outcomes events ∧
          (plan.cancellationPolicy = .cancelRemainingSteps → ∀ step ∈ plan.steps,
            step.stepId ∉ attemptedIds attempts → (step.stepId, .skipped) ∈ outcomes) ∧
          (plan.cancellationPolicy = .finishInFlightOnly →
            (attemptedIds attempts).Perm (plan.steps.map (·.stepId))) := by
  obtain ⟨rfl, hacc⟩ := accepted_of_validate hv
  have hd := fallbacksDeclared_of_accepted hacc
  have hl := layout_of_accepted hacc
  cases hr : deliverPlanPerStepViaRegistry world route validatedPlan registry context log with
  | mk result out =>
  cases result with
  | error e =>
    obtain ⟨events, a, l, he, hb, -, hh⟩ := deliver_history world route registry context log hd hl
    rw [hr] at he
    exact ⟨events, a, l, he, hh, fun hp => stopsAfterFailure_of_begun hp hb, nofun⟩
  | ok trace =>
    obtain ⟨events, a, v, he, h⟩ := deliver_returned hd hl hacc.nonempty hr
    have hacct := h.account hl
    obtain ⟨d, hrun⟩ := h.run
    refine ⟨events, a, [], he, h.history, fun hp => stopsAfterFailure_of_begun hp hrun.begun, ?_⟩
    rintro _ ⟨⟩
    refine ⟨rfl, reportedOutcomes v, hacct, fun _ step hs hna => ?_, fun hp => ?_⟩
    · exact (hacct.skipped _ (List.mem_map_of_mem (f := (·.stepId)) hs)).mpr hna
    · refine hrun.all_attempted hl ?_
      rw [← Bool.not_eq_true, stops_iff, hp]
      simp

theorem deliver_cancellation_policy_stopped : ∃ events attempts refused,
    (deliverPlanPerStepViaRegistry (Fixture.failingAt ["step_a", "step_b"])
        (Fixture.route Fixture.validatedFallbackPlan) Fixture.validatedFallbackPlan
        Fixture.stubRegistry Fixture.coordination []).2 = [] ++ events ∧
      History (Fixture.failingAt ["step_a", "step_b"])
        (Fixture.route Fixture.validatedFallbackPlan) Fixture.validatedFallbackPlan
        Fixture.stubRegistry attempts refused events ∧
      StopsAfterFailure Fixture.fallbackPlan attempts refused ∧
      ∃ trace outcomes, Account (Fixture.route Fixture.validatedFallbackPlan)
          Fixture.validatedFallbackPlan Fixture.coordination trace attempts outcomes events ∧
        ∀ step ∈ Fixture.fallbackPlan.steps, step.stepId ∉ attemptedIds attempts →
          (step.stepId, .skipped) ∈ outcomes := by
  obtain ⟨events, attempts, refused, he, hh, hstop, htrace⟩ := deliver_cancellation_policy
    (Fixture.failingAt ["step_a", "step_b"]) (Fixture.route Fixture.validatedFallbackPlan)
    Fixture.stubRegistry Fixture.coordination [] Fixture.fallbackPlan_validated
  obtain ⟨trace, hr⟩ := exists_of_isOk Fixture.stoppedRun_returns
  obtain ⟨-, outcomes, hacct, hskip, -⟩ := htrace trace hr
  exact ⟨events, attempts, refused, he, hh, hstop rfl, trace, outcomes, hacct, hskip rfl⟩

end

end ExecutionService

end FaLocal
