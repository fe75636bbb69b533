import FaLocal.Library.Following
import FaLocal.RunCalls

/-!
# What the outside answers

A run appends no answer of its own making: each entry of its log is the answer of
an adapter to the history in front of it.
-/
namespace FaLocal

open Traced (Follow Lawful lawful_lift lawful_pure lawful_perform lawful_emit lawful_lift_bind)

section
variable {α : Type}

/-- Which entry may come next: an announced step, or the answer of an adapter. -/
def WorldEvent.Answers (world : DeliveryWorld α)
    (exportAdapter : Option (ForensicEventExportAdapter α)) (log : List (WorldEvent α)) :
    WorldEvent α → Prop
  | .inProgress _ => True
  | .called adapter request result => result = world.deliverRoute log adapter request
  | .exported event result => ∃ adapter, exportAdapter = some adapter ∧
      result = adapter.exportEvent log event

end

open WorldEvent (Answers calls)

/-- The place of a call, and its answer there. -/
theorem WorldEvent.call_answered {α : Type} {world : DeliveryWorld α}
    {exportAdapter : Option (ForensicEventExportAdapter α)} {log events : List (WorldEvent α)}
    (h : Follow (Answers world exportAdapter) log events)
    {call : α × AdapterDeliveryRequest × AdapterDeliveryResult} (hc : call ∈ calls events) :
    ∃ pre post, events = pre ++ .called call.1 call.2.1 call.2.2 :: post ∧
      call.2.2 = world.deliverRoute (log ++ pre) call.1 call.2.1 := by
  obtain ⟨event, he, hcall⟩ := List.mem_filterMap.mp hc
  cases event with
  | called adapter request result =>
    obtain rfl := Option.some.inj hcall
    obtain ⟨pre, post, hsplit⟩ := List.append_of_mem he
    exact ⟨pre, post, hsplit, h.at hsplit⟩
  | inProgress stepId => cases hcall
  | exported event result => cases hcall

namespace ExecutionService

section
variable {α : Type} {world : DeliveryWorld α}
  {exportAdapter : Option (ForensicEventExportAdapter α)} {route : SelectedExecutionRoute}
  {validatedPlan : ValidatedExecutionPlan} {registry : AdapterRegistry α}
  {context : CoordinationContext}

theorem pushInProgress_lawful (stepIds : List String) (startedAtUtc : TimestampUtc) :
    (pushInProgress route stepIds startedAtUtc).Lawful (Answers world exportAdapter) := by
  refine (lawful_lift _).bind fun statuses => (lawful_emit ?_).bind fun _ => lawful_pure _
  intro entry he
  obtain ⟨stepId, -, rfl⟩ := List.mem_map.mp he
  exact fun _ => trivial

theorem deliverRoute_lawful (adapter : α) (request : AdapterDeliveryRequest) :
    (deliverRoute world adapter request).Lawful (Answers world exportAdapter) :=
  lawful_perform fun _ => rfl

theorem deliverViaAdapter_lawful (adapter : α) :
    (deliverViaAdapter world route adapter context).Lawful (Answers world exportAdapter) := by
  refine (lawful_lift _).bind fun _ => (lawful_lift _).bind fun request =>
    (lawful_lift _).bind fun admitted => (deliverRoute_lawful adapter request).bind fun result => ?_
  have hend : ∀ (stepIds : List String) (built : FaLocalResult ValidatedExecutionStatus),
      (pushInProgress route stepIds context.startedAtUtc >>= fun inProgress =>
        Traced.lift built >>= fun last => Traced.lift (ExecutionTrace.new
          (admitted :: inProgress ++ [last]))).Lawful (Answers world exportAdapter) :=
    fun stepIds built => (pushInProgress_lawful stepIds _).bind fun _ =>
      (lawful_lift _).bind fun _ => lawful_lift _
  cases result with
  | deliveredAllSteps => exact hend _ _
  | completedWithDeclaredFallback stepId fallbackStepId degradedSubtype =>
    exact (lawful_lift _).bind fun _ => (lawful_lift _).bind fun _ => hend _ _
  | failedAtDeclaredStep stepId failureSummary =>
    exact (lawful_lift _).bind fun _ => (lawful_lift _).bind fun _ => hend _ _
  | canceledAtDeclaredStep stepId => exact (lawful_lift _).bind fun _ => hend _ _
  | dependencyUnavailable summary =>
    exact (lawful_lift _).bind fun _ => (lawful_lift _).bind fun _ => lawful_lift _
  | unsupported summary => exact (lawful_lift _).bind fun _ => lawful_lift _

theorem deliverSelectedRoute_lawful :
    (deliverSelectedRouteViaRegistry world route registry context).Lawful
      (Answers world exportAdapter) := by
  refine (lawful_lift _).bind fun _ => ?_
  cases registry.resolve route.requestedCapabilityId with
  | some adapter => exact deliverViaAdapter_lawful adapter
  | none => exact (lawful_lift _).bind fun _ => (lawful_lift _).bind fun _ => lawful_lift _

theorem attemptStep_lawful (step : ExecutionPlanStep) :
    (attemptStep world route validatedPlan registry context step).Lawful
      (Answers world exportAdapter) := by
  refine (pushInProgress_lawful _ _).bind fun _ => Lawful.bind ?_ fun _ => lawful_pure _
  rw [dispatchOneStep]
  cases registry.resolve step.capabilityId with
  | none => exact lawful_pure _
  | some adapter => exact (deliverRoute_lawful adapter _).bind fun _ => lawful_lift _

/-- The result of a fallback that was dispatched ahead of its turn is reused, not asked for. -/
theorem stepTurn_lawful (st : LoopState) (step : ExecutionPlanStep) :
    (stepTurn world route validatedPlan registry context st step).Lawful
      (Answers world exportAdapter) := by
  rw [stepTurn]
  split
  · exact lawful_pure _
  · split
    · exact lawful_pure _
    · refine (attemptStep_lawful step).bind fun attempt => ?_
      dsimp only
      split
      · exact lawful_pure _
      · exact (attemptStep_lawful _).bind fun _ => lawful_pure _

theorem deliverPlanPerStep_lawful :
    (deliverPlanPerStepViaRegistry world route validatedPlan registry context).Lawful
      (Answers world exportAdapter) :=
  (lawful_lift _).bind fun admitted =>
    (Lawful.foldlM stepTurn_lawful (.start admitted)).bind fun _ => lawful_lift _

end

end ExecutionService

namespace ExecutionPipelineService

variable (env : RunEnvironment) (inputs : ExecutionPipelineInputs)
  (adapterSelection : Option AdapterSelection)
  (additionalAdapters : List CapabilityScopedAdapterSelection) (dispatchMode : DispatchMode)
  (exportAdapter : Option (ForensicEventExportAdapter BuiltAdapter))
  (context : RouteResolutionContext)

theorem record_lawful (index : Nat) (kind : ForensicRecordKind) (redactionLevel : RedactionLevel)
    (recordContext : ForensicRecordContext) :
    (record env exportAdapter index kind redactionLevel recordContext).Lawful
      (Answers env.world exportAdapter) := by
  refine (lawful_lift _).bind fun input => ?_
  cases exportAdapter with
  | none => exact (lawful_lift _).bind fun _ => lawful_pure _
  | some adapter =>
    refine Lawful.bind ?_ fun _ => lawful_pure _
    exact (lawful_lift _).bind fun event => (lawful_perform fun _ => ⟨adapter, rfl, rfl⟩).bind
      fun _ => (lawful_lift _).bind fun _ => lawful_pure _

theorem recordStatuses_lawful (d : RouteDecision) (recordContext : ForensicRecordContext)
    (statuses : List ValidatedExecutionStatus) (index : Nat) :
    (recordStatuses env exportAdapter d recordContext index statuses).Lawful
      (Answers env.world exportAdapter) := by
  induction statuses generalizing index with
  | nil => exact lawful_pure _
  | cons status rest ih =>
    exact (record_lawful env exportAdapter index _ _ _).bind fun _ =>
      (ih (index + 1)).bind fun _ => lawful_pure _

theorem deliverAndRecord_lawful (d : RouteDecision) (prepared : Prepared) :
    (deliverAndRecord env dispatchMode exportAdapter context d prepared).Lawful
      (Answers env.world exportAdapter) := by
  refine Lawful.bind ?_ fun trace =>
    (recordStatuses_lawful env exportAdapter d _ trace.statuses 0).bind fun _ => lawful_pure _
  cases dispatchMode with
  | wholeRoute => exact ExecutionService.deliverSelectedRoute_lawful
  | perStep => exact ExecutionService.deliverPlanPerStep_lawful

/-- Every entry of a run is an announced step or the answer of an adapter at its place. -/
theorem run_answers :
    (run env inputs adapterSelection additionalAdapters dispatchMode exportAdapter context).Lawful
      (Answers env.world exportAdapter) := by
  rw [run_eq]
  refine (lawful_lift _).bind fun d => ?_
  split
  · refine (lawful_lift _).bind fun prepared => ?_
    cases prepared with
    | inl denial => exact lawful_pure _
    | inr prepared => exact deliverAndRecord_lawful env dispatchMode exportAdapter context d prepared
  · exact (record_lawful env exportAdapter 0 _ _ _).bind fun _ => lawful_pure _

end ExecutionPipelineService

end FaLocal
