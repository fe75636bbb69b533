import FaLocal.ExecutionService

/-!
# The final status of a plan

The status that per-step delivery aggregates from its outcomes: which of the six
records it is, and when that record is a valid status.
-/
namespace FaLocal

namespace StepDeliveryOutcome

theorem incompleteDetail_isSome (outcome : StepDeliveryOutcome) :
    outcome.incompleteDetail.isSome = !outcome.counts := by
  cases outcome <;> rfl

theorem failureText_eq_some {outcome : StepDeliveryOutcome} {summary : String} :
    outcome.failureText = some summary ↔ outcome = .failed summary := by
  cases outcome <;> simp [failureText]

end StepDeliveryOutcome

namespace ExecutionService

/-- The completed steps among the outcomes. -/
def completedCount (outcomes : List (String × StepDeliveryOutcome)) : Nat :=
  (outcomes.filter fun outcome => outcome.2.counts).length

theorem completedCount_eq_length {outcomes : List (String × StepDeliveryOutcome)} :
    completedCount outcomes = outcomes.length ↔ ∀ q ∈ outcomes, q.2.counts = true := by
  rw [completedCount, ← List.filter_eq_self]
  constructor
  · intro h
    exact (List.filter_sublist).eq_of_length h
  · intro h
    rw [h]

theorem completedCount_pos {outcomes : List (String × StepDeliveryOutcome)} :
    0 < completedCount outcomes ↔ ∃ q ∈ outcomes, q.2.counts = true := by
  simp [completedCount, List.length_pos_iff_exists_mem]

section
variable (route : SelectedExecutionRoute) (link : ExecutionPlanId × String)
  (outcomes : List (String × StepDeliveryOutcome)) (startedAtUtc completedAtUtc : TimestampUtc)

/-- The record of the final status, case by case. -/
inductive FinalRecord : ExecutionStatus → Prop where
  | viaFallback : (∀ q ∈ outcomes, q.2.counts = true) →
      (∃ q ∈ outcomes, q.2.fallbackUsed.isSome = true) →
      FinalRecord (constrainedStatus route link startedAtUtc completedAtUtc
        .degradedFallbackLimited (usedFallbackSummary outcomes))
  | completed : (∀ q ∈ outcomes, q.2.counts = true) →
      (∀ q ∈ outcomes, q.2.fallbackUsed.isSome = false) →
      FinalRecord (completedStatus route link startedAtUtc completedAtUtc)
  | partialSuccess {pre post : List (String × StepDeliveryOutcome)} {stepId detail : String}
      {outcome : StepDeliveryOutcome} : (∃ q ∈ outcomes, q.2.counts = true) →
      outcomes = pre ++ (stepId, outcome) :: post → (∀ q ∈ pre, q.2.counts = true) →
      outcome.incompleteDetail = some detail →
      FinalRecord (partialSuccessStatus route link startedAtUtc completedAtUtc
        (completedCount outcomes) outcomes.length stepId detail)
  | failed {stepId summary : String} : (∀ q ∈ outcomes, q.2.counts = false) →
      (stepId, .failed summary) ∈ outcomes →
      FinalRecord (failedStatus route link startedAtUtc completedAtUtc summary)
  | canceled {stepId : String} : (∀ q ∈ outcomes, q.2.counts = false) →
      (∀ q ∈ outcomes, q.2.failureText = none) → (stepId, .canceled) ∈ outcomes →
      FinalRecord (canceledStatus route link startedAtUtc completedAtUtc stepId)
  | unavailable : (∀ q ∈ outcomes, q.2.counts = false) → outcomes ≠ [] →
      (∀ q ∈ outcomes, q.2.failureText = none) → (∀ q ∈ outcomes, q.2 ≠ .canceled) →
      FinalRecord (unavailableDependencyStatus route link completedAtUtc noneRegisteredSummary)

end

variable {route : SelectedExecutionRoute} {link : ExecutionPlanId × String}
  {outcomes : List (String × StepDeliveryOutcome)} (startedAtUtc completedAtUtc : TimestampUtc)

/-- The first outcome that does not count, and its text. -/
theorem findIncomplete {l : List (String × StepDeliveryOutcome)}
    (h : ∃ q ∈ l, q.2.counts = false) :
    ∃ pre stepId outcome post detail, l = pre ++ (stepId, outcome) :: post ∧
      (∀ q ∈ pre, q.2.counts = true) ∧ outcome.incompleteDetail = some detail ∧
      (l.findSome? fun q => q.2.incompleteDetail.map fun detail => (q.1, detail)) =
        some (stepId, detail) := by
  induction l with
  | nil => simp at h
  | cons q l ih =>
    cases hq : q.2.incompleteDetail with
    | some detail =>
      exact ⟨[], q.1, q.2, l, detail, rfl, by simp, hq, by simp [hq]⟩
    | none =>
      have hc : q.2.counts = true := by
        have hs : q.2.incompleteDetail.isSome = !q.2.counts :=
          StepDeliveryOutcome.incompleteDetail_isSome q.2
        simpa [hq] using hs
      obtain ⟨p, hp, hpc⟩ := h
      have hpl : p ∈ l := by
        rcases List.mem_cons.mp hp with rfl | hp
        · simp [hc] at hpc
        · exact hp
      obtain ⟨pre, stepId, outcome, post, detail, rfl, hpre, hd, hf⟩ := ih ⟨p, hpl, hpc⟩
      refine ⟨q :: pre, stepId, outcome, post, detail, rfl, ?_, hd, ?_⟩
      · simpa [hc] using hpre
      · rw [List.findSome?_cons_of_isNone (by simp [hq]), hf]

/-- The aggregated status is emitted from exactly one of the six records. -/
theorem buildPlanOutcome_record (hl : planLink route = .ok link) (hne : outcomes ≠ []) :
    ∃ record, FinalRecord route link outcomes startedAtUtc completedAtUtc record ∧
      buildPlanOutcomeStatusFromRoute route outcomes startedAtUtc completedAtUtc =
        emitStatus record := by
  have hcount : (outcomes.filter fun outcome => outcome.2.counts).length =
      completedCount outcomes := rfl
  simp only [buildPlanOutcomeStatusFromRoute, hcount, completedCount_eq_length]
  split
  · rename_i hall
    split
    · rename_i hany
      refine ⟨_, .viaFallback hall (by simpa using hany), ?_⟩
      simp [buildPlanCompletedViaFallbackStatusFromRoute, hl, bind, Except.bind]
    · rename_i hany
      refine ⟨_, .completed hall (by simpa using hany), ?_⟩
      simp [buildCompletedStatusFromRoute, hl, bind, Except.bind]
  · rename_i hall
    have hex : ∃ q ∈ outcomes, q.2.counts = false := by simpa using hall
    split
    · rename_i hpos
      obtain ⟨pre, stepId, outcome, post, detail, he, hpre, hd, hf⟩ := findIncomplete hex
      refine ⟨_, .partialSuccess (completedCount_pos.mp hpos) he hpre hd, ?_⟩
      simp [hf, expect, buildPartialSuccessStatusFromRoute, hl, bind, Except.bind]
    · rename_i hpos
      have hnone : ∀ q ∈ outcomes, q.2.counts = false := by
        simpa [completedCount_pos] using hpos
      split
      · rename_i summary hfind
        obtain ⟨q, hq, ht⟩ := List.exists_of_findSome?_eq_some hfind
        have hmem : (q.1, .failed summary) ∈ outcomes := by
          rw [← StepDeliveryOutcome.failureText_eq_some.mp ht]
          exact List.mem_of_mem_filter hq
        refine ⟨_, .failed hnone hmem, ?_⟩
        simp [buildFailedStatusFromRoute, hl, bind, Except.bind]
      · rename_i hfind
        have hfail : ∀ q ∈ outcomes, q.2.failureText = none := by
          intro q hq
          by_cases hs : q.2 = .skipped
          · simp [hs, StepDeliveryOutcome.failureText]
          · exact List.findSome?_eq_none_iff.mp hfind q (List.mem_filter.mpr ⟨hq, by simp [hs]⟩)
        split
        · rename_i stepId outcome hfind'
          have hc : outcome = .canceled := by simpa using List.find?_some hfind'
          have hmem := List.mem_of_mem_filter (List.mem_of_find?_eq_some hfind')
          refine ⟨_, .canceled hnone hfail (hc ▸ hmem), ?_⟩
          simp [buildCanceledStatusFromRoute, hl, bind, Except.bind]
        · rename_i hfind'
          refine ⟨_, .unavailable hnone hne hfail fun q hq hc => ?_, ?_⟩
          · have hq' : q ∈ outcomes.filter fun outcome => outcome.2 != .skipped :=
              List.mem_filter.mpr ⟨hq, by simp [hc]⟩
            simpa [hc] using List.find?_eq_none.mp hfind' q hq'
          · simp [buildUnavailableDependencyStatusFromRoute, hl, bind, Except.bind]

end ExecutionService

end FaLocal
