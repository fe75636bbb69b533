import FaLocal.Library.Interleaved
import FaLocal.RunCalls

/-!
# What a run sees

A run reads its log only where it asks an adapter, so what the adapters answer decides what it
does. Put behind another log, or beside other runs, it does what it does alone on such answers.
-/
namespace FaLocal

open Traced (Uniform uniform_lift uniform_pure uniform_emit uniform_perform uniform_lift_bind)

/-! ## Views -/

/-- Adapters that are asked through a view of the log. -/
def DeliveryWorld.through {α : Type} (world : DeliveryWorld α)
    (view : List (WorldEvent α) → List (WorldEvent α)) : DeliveryWorld α :=
  { world with deliverRoute := fun log => world.deliverRoute (view log) }

def ForensicEventExportAdapter.through {α : Type} (adapter : ForensicEventExportAdapter α)
    (view : List (WorldEvent α) → List (WorldEvent α)) : ForensicEventExportAdapter α :=
  { adapter with exportEvent := fun log => adapter.exportEvent (view log) }

def RunEnvironment.through (env : RunEnvironment)
    (view : List (WorldEvent BuiltAdapter) → List (WorldEvent BuiltAdapter)) : RunEnvironment :=
  { env with deliverRoute := fun log => env.deliverRoute (view log) }

section
variable (env : RunEnvironment)
  (view : List (WorldEvent BuiltAdapter) → List (WorldEvent BuiltAdapter))

@[simp] theorem DeliveryWorld.through_adapterId {α : Type} (world : DeliveryWorld α)
    (view : List (WorldEvent α) → List (WorldEvent α)) :
    (world.through view).adapterId = world.adapterId := rfl

@[simp] theorem RunEnvironment.through_loaders : (env.through view).loaders = env.loaders := rfl

@[simp] theorem RunEnvironment.through_clock : (env.through view).clock = env.clock := rfl

@[simp] theorem RunEnvironment.through_freshEventId :
    (env.through view).freshEventId = env.freshEventId := rfl

@[simp] theorem RunEnvironment.through_world :
    (env.through view).world = env.world.through view := rfl

end

namespace ExecutionService

section
variable {α : Type} {world : DeliveryWorld α} {route : SelectedExecutionRoute}
  {validatedPlan : ValidatedExecutionPlan} {registry : AdapterRegistry α}
  {context : CoordinationContext}

theorem pushInProgress_uniform (stepIds : List String) (startedAtUtc : TimestampUtc) :
    Uniform fun _ => (pushInProgress route stepIds startedAtUtc :
      Coordinated α (List ValidatedExecutionStatus)) :=
  (uniform_lift _).bind fun _ => (uniform_emit _).bind fun _ => uniform_pure _

theorem deliverRoute_uniform (adapter : α) (request : AdapterDeliveryRequest) :
    Uniform fun view => deliverRoute (world.through view) adapter request :=
  uniform_perform fun log : List (WorldEvent α) =>
    ((.called adapter request (world.deliverRoute log adapter request) : WorldEvent α),
      world.deliverRoute log adapter request)

theorem deliverViaAdapter_uniform (adapter : α) :
    Uniform fun view => deliverViaAdapter (world.through view) route adapter context := by
  simp only [deliverViaAdapter, DeliveryWorld.through_adapterId]
  refine (uniform_lift _).bind fun _ => (uniform_lift _).bind fun request =>
    (uniform_lift _).bind fun admitted => (deliverRoute_uniform adapter request).bind
      fun result => ?_
  have hend : ∀ (stepIds : List String) (built : FaLocalResult ValidatedExecutionStatus),
      Uniform fun _ => (pushInProgress route stepIds context.startedAtUtc >>= fun inProgress =>
        Traced.lift built >>= fun last => Traced.lift (ExecutionTrace.new
          (admitted :: inProgress ++ [last])) : Coordinated α ExecutionTrace) :=
    fun stepIds built => (pushInProgress_uniform stepIds _).bind fun _ =>
      (uniform_lift _).bind fun _ => uniform_lift _
  cases result with
  | deliveredAllSteps => exact hend _ _
  | completedWithDeclaredFallback stepId fallbackStepId degradedSubtype =>
    exact (uniform_lift _).bind fun _ => (uniform_lift _).bind fun _ => hend _ _
  | failedAtDeclaredStep stepId failureSummary =>
    exact (uniform_lift _).bind fun _ => (uniform_lift _).bind fun _ => hend _ _
  | canceledAtDeclaredStep stepId => exact (uniform_lift _).bind fun _ => hend _ _
  | dependencyUnavailable summary =>
    exact (uniform_lift _).bind fun _ => (uniform_lift _).bind fun _ => uniform_lift _
  | unsupported summary => exact (uniform_lift _).bind fun _ => uniform_lift _

theorem deliverSelectedRoute_uniform : Uniform fun view =>
    deliverSelectedRouteViaRegistry (world.through view) route registry context := by
  refine (uniform_lift _).bind fun _ => ?_
  cases registry.resolve route.requestedCapabilityId with
  | some adapter => exact deliverViaAdapter_uniform adapter
  | none => exact (uniform_lift _).bind fun _ => (uniform_lift _).bind fun _ => uniform_lift _

theorem attemptStep_uniform (step : ExecutionPlanStep) : Uniform fun view =>
    attemptStep (world.through view) route validatedPlan registry context step := by
  refine (pushInProgress_uniform _ _).bind fun _ => Uniform.bind ?_ fun _ => uniform_pure _
  simp only [dispatchOneStep, DeliveryWorld.through_adapterId]
  cases registry.resolve step.capabilityId with
  | none => exact uniform_pure _
  | some adapter => exact (deliverRoute_uniform adapter _).bind fun _ => uniform_lift _

theorem stepTurn_uniform (st : LoopState) (step : ExecutionPlanStep) : Uniform fun view =>
    stepTurn (world.through view) route validatedPlan registry context st step := by
  simp only [stepTurn]
  split
  · exact uniform_pure _
  · split
    · exact uniform_pure _
    · refine (attemptStep_uniform step).bind fun attempt => ?_
      dsimp only
      split
      · exact uniform_pure _
      · exact (attemptStep_uniform _).bind fun _ => uniform_pure _

theorem deliverPlanPerStep_uniform : Uniform fun view =>
    deliverPlanPerStepViaRegistry (world.through view) route validatedPlan registry context :=
  (uniform_lift _).bind fun admitted =>
    (Uniform.foldlM stepTurn_uniform (.start admitted)).bind fun _ => uniform_lift _

end

end ExecutionService

namespace ExecutionPipelineService

variable (env : RunEnvironment) (inputs : ExecutionPipelineInputs)
  (adapterSelection : Option AdapterSelection)
  (additionalAdapters : List CapabilityScopedAdapterSelection) (dispatchMode : DispatchMode)
  (exportAdapter : Option (ForensicEventExportAdapter BuiltAdapter))
  (context : RouteResolutionContext)

theorem recordAndExport_uniform (freshEventId : ForensicEventId) (input : ForensicRecordInput)
    (adapter : ForensicEventExportAdapter BuiltAdapter) : Uniform fun view =>
      ForensicService.recordAndExportEventVia freshEventId input (adapter.through view) := by
  refine (uniform_lift (ForensicService.recordEvent freshEventId input)).bind fun event => ?_
  have hexport : Uniform fun view => (Traced.perform fun log =>
      ((.exported event.event ((adapter.through view).exportEvent log event.event) :
        WorldEvent BuiltAdapter), (adapter.through view).exportEvent log event.event) :
      Coordinated BuiltAdapter ForensicExportResult) :=
    uniform_perform fun log => ((.exported event.event (adapter.exportEvent log event.event) :
      WorldEvent BuiltAdapter), adapter.exportEvent log event.event)
  exact hexport.bind fun result =>
    (uniform_lift (ForensicService.mapExportResult adapter.adapterId result)).bind
      fun _ => uniform_pure _

theorem record_uniform (index : Nat) (kind : ForensicRecordKind) (redactionLevel : RedactionLevel)
    (recordContext : ForensicRecordContext) : Uniform fun view =>
      record (env.through view) (exportAdapter.map (·.through view)) index kind redactionLevel
        recordContext := by
  simp only [record, RunEnvironment.through_freshEventId]
  refine (uniform_lift _).bind fun input => ?_
  cases exportAdapter with
  | none =>
    simp only [Option.map_none]
    exact (uniform_lift _).bind fun _ => uniform_pure _
  | some adapter =>
    simp only [Option.map_some]
    exact (recordAndExport_uniform _ input adapter).bind fun _ => uniform_pure _

theorem recordStatuses_uniform (d : RouteDecision) (recordContext : ForensicRecordContext)
    (statuses : List ValidatedExecutionStatus) (index : Nat) : Uniform fun view =>
      recordStatuses (env.through view) (exportAdapter.map (·.through view)) d recordContext index
        statuses := by
  induction statuses generalizing index with
  | nil => exact uniform_pure _
  | cons status rest ih =>
    exact (record_uniform env exportAdapter index _ _ _).bind fun _ =>
      (ih (index + 1)).bind fun _ => uniform_pure _

theorem deliverAndRecord_uniform (d : RouteDecision) (prepared : Prepared) : Uniform fun view =>
    deliverAndRecord (env.through view) dispatchMode (exportAdapter.map (·.through view)) context d
      prepared := by
  refine Uniform.bind ?_ fun trace =>
    (recordStatuses_uniform env exportAdapter d _ trace.statuses 0).bind fun _ => uniform_pure _
  simp only [deliver, RunEnvironment.through_world]
  cases dispatchMode with
  | wholeRoute => exact ExecutionService.deliverSelectedRoute_uniform
  | perStep => exact ExecutionService.deliverPlanPerStep_uniform

/-- A run depends on the log through the answers of its adapters alone. -/
theorem run_uniform : Uniform fun view =>
    run (env.through view) inputs adapterSelection additionalAdapters dispatchMode
      (exportAdapter.map (·.through view)) context := by
  simp only [run_eq, RunEnvironment.through_loaders, RunEnvironment.through_clock]
  refine (uniform_lift _).bind fun d => ?_
  split
  · refine (uniform_lift (prepare env inputs adapterSelection additionalAdapters d)).bind
      fun prepared => ?_
    cases prepared with
    | inl denial => exact uniform_pure _
    | inr prepared => exact deliverAndRecord_uniform env dispatchMode exportAdapter context d prepared
  · exact (record_uniform env exportAdapter 0 _ _ _).bind fun _ => uniform_pure _

end ExecutionPipelineService

end FaLocal
