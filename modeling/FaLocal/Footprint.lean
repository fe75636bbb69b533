import FaLocal.ExecutionService

/-!
# What delivery appends

Delivery appends the steps it puts in progress and the calls it makes. What
holds of these entries, of none, and of two appended logs, holds of everything
that a delivery appends.
-/
namespace FaLocal.ExecutionService

/-- A kind of entries that steps put in progress are of. -/
structure Progressive {α : Type} (P : List (WorldEvent α) → Prop) : Prop extends
    Traced.Closed P where
  inProgress : ∀ stepIds : List String, P (stepIds.map .inProgress)

section
variable {α : Type} {P : List (WorldEvent α) → Prop} {world : DeliveryWorld α}
  {route : SelectedExecutionRoute} {validatedPlan : ValidatedExecutionPlan}
  {registry : AdapterRegistry α} {context : CoordinationContext}

theorem pushInProgress_appends (hP : Progressive P) (stepIds : List String)
    (startedAtUtc : TimestampUtc) :
    (pushInProgress (α := α) route stepIds startedAtUtc).Appends P :=
  hP.bind (hP.lift _) fun _ => hP.bind (Traced.appends_emit (hP.inProgress stepIds)) fun _ =>
    hP.pure _

/-! ## Per-step delivery -/

section
variable (hP : Progressive P)
  (hcall : ∀ step ∈ validatedPlan.plan.steps, ∀ adapter result,
    registry.resolve step.capabilityId = some adapter →
    P [.called adapter (stepRequest route validatedPlan step) result])
include hP hcall

theorem attemptStep_appends {step : ExecutionPlanStep} (hs : step ∈ validatedPlan.plan.steps) :
    (attemptStep world route validatedPlan registry context step).Appends P := by
  refine hP.bind (pushInProgress_appends hP [step.stepId] context.startedAtUtc) fun _ =>
    hP.bind ?_ fun _ => hP.pure _
  rw [dispatchOneStep]
  cases hr : registry.resolve step.capabilityId with
  | none => exact hP.pure _
  | some adapter =>
    exact hP.bind (Traced.appends_perform fun _ => hcall step hs adapter _ hr) fun _ => hP.lift _

theorem stepTurn_appends (st : LoopState) {step : ExecutionPlanStep}
    (hs : step ∈ validatedPlan.plan.steps) :
    (stepTurn world route validatedPlan registry context st step).Appends P := by
  rw [stepTurn]
  split
  · exact hP.pure _
  · split
    · exact hP.pure _
    · refine hP.bind (attemptStep_appends hP hcall hs) fun p => ?_
      dsimp only
      split
      · exact hP.pure _
      · rename_i fallback hf
        -- the fallback is a step of the plan
        have hmem : fallback ∈ validatedPlan.plan.steps := by
          simp only [fallbackFor, declaredFallbackStep] at hf
          split at hf
          · split at hf
            · cases hf
            · split at hf
              · cases hf
              · exact List.mem_of_find?_eq_some hf
          · cases hf
        exact hP.bind (attemptStep_appends hP hcall hmem) fun _ => hP.pure _

theorem deliverPlanPerStep_appends :
    (deliverPlanPerStepViaRegistry world route validatedPlan registry context).Appends P :=
  hP.bind (hP.lift _) fun admitted =>
    hP.bind (hP.foldlM (fun st _ hs => stepTurn_appends hP hcall st hs) (.start admitted)) fun _ =>
      hP.lift _

end

end

end FaLocal.ExecutionService
