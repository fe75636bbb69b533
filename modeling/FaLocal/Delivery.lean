import FaLocal.Forensics
import FaLocal.Library.Traced
import FaLocal.Routing

/-!
# Adapters and the outside world

Requests to and answers from delivery and export adapters, the adapter
registry, and the log of everything a run does outside. An adapter is known by
a handle of an arbitrary type; its answer may depend on the whole log.
-/
namespace FaLocal

structure AdapterDeliveryRequest where
  routeDecisionId : RouteDecisionId
  correlationId : CorrelationId
  requestId : RequestId
  resolvedApprovalPosture : ApprovalPosture
  requestedCapabilityId : CapabilityId
  executionPlanId : ExecutionPlanId
  stablePlanHash : String
  declaredStepIds : List String
  declaredCapabilityIds : List CapabilityId
  declaredFallbackReferences : List FallbackReference
  deriving DecidableEq

inductive AdapterDeliveryResult where
  | deliveredAllSteps
  | completedWithDeclaredFallback (stepId fallbackStepId : String)
      (degradedSubtype : DegradedSubtype)
  | failedAtDeclaredStep (stepId failureSummary : String)
  | canceledAtDeclaredStep (stepId : String)
  | dependencyUnavailable (summary : String)
  | unsupported (summary : String)
  deriving DecidableEq

structure ForensicExportReceipt where
  adapterId : String
  exportReference : String
  deriving DecidableEq

inductive ForensicExportResult where
  | exported (exportReference : String)
  | dependencyUnavailable (summary : String)
  | unsupported (summary : String)
  deriving DecidableEq

/-- An `InProgress` status pushed on the trace, a delivery call with its
answer, or an export call with its answer. -/
inductive WorldEvent (α : Type) where
  | inProgress (stepId : String) : WorldEvent α
  | called (adapter : α) (request : AdapterDeliveryRequest) (result : AdapterDeliveryResult) :
      WorldEvent α
  | exported (event : ForensicEvent) (result : ForensicExportResult) : WorldEvent α
  deriving DecidableEq

/-- `ExternalRouteDeliveryAdapter`, for every handle. -/
structure DeliveryWorld (α : Type) where
  adapterId : α → String
  deliverRoute : List (WorldEvent α) → α → AdapterDeliveryRequest → AdapterDeliveryResult

/-- `ForensicEventExportAdapter` -/
structure ForensicEventExportAdapter (α : Type) where
  adapterId : String
  exportEvent : List (WorldEvent α) → ForensicEvent → ForensicExportResult

/-- A computation of the coordinator. -/
abbrev Coordinated (α β : Type) : Type := Traced (WorldEvent α) Abort β

structure AdapterRegistry (α : Type) where
  byCapability : CapabilityId → Option α

namespace AdapterRegistry

variable {α : Type}

def new : AdapterRegistry α := ⟨fun _ => none⟩

def register (registry : AdapterRegistry α) (supportedCapabilityId : CapabilityId) (adapter : α) :
    FaLocalResult (AdapterRegistry α) :=
  if (registry.byCapability supportedCapabilityId).isSome then
    .error (contractInvalid
      ("adapter already registered for capability " ++ supportedCapabilityId.display))
  else .ok ⟨Function.update registry.byCapability supportedCapabilityId (some adapter)⟩

def resolve (registry : AdapterRegistry α) (capabilityId : CapabilityId) : Option α :=
  registry.byCapability capabilityId

end AdapterRegistry

namespace WorldEvent

variable {α : Type}

/-- The delivery calls of a log, in order. -/
def calls (log : List (WorldEvent α)) :
    List (α × AdapterDeliveryRequest × AdapterDeliveryResult) :=
  log.filterMap fun
    | .called adapter request result => some (adapter, request, result)
    | _ => none

/-- The steps that were put in progress, in order. -/
def progress (log : List (WorldEvent α)) : List String :=
  log.filterMap fun
    | .inProgress stepId => some stepId
    | _ => none

@[simp] theorem calls_append (a b : List (WorldEvent α)) : calls (a ++ b) = calls a ++ calls b :=
  List.filterMap_append

@[simp] theorem progress_append (a b : List (WorldEvent α)) :
    progress (a ++ b) = progress a ++ progress b :=
  List.filterMap_append

@[simp] theorem calls_nil : calls ([] : List (WorldEvent α)) = [] := rfl

@[simp] theorem progress_nil : progress ([] : List (WorldEvent α)) = [] := rfl

@[simp] theorem calls_inProgress (stepId : String) (log : List (WorldEvent α)) :
    calls (.inProgress stepId :: log) = calls log := rfl

@[simp] theorem calls_called (adapter : α) (request : AdapterDeliveryRequest)
    (result : AdapterDeliveryResult) (log : List (WorldEvent α)) :
    calls (.called adapter request result :: log) = (adapter, request, result) :: calls log := rfl

@[simp] theorem progress_inProgress (stepId : String) (log : List (WorldEvent α)) :
    progress (.inProgress stepId :: log) = stepId :: progress log := rfl

@[simp] theorem progress_called (adapter : α) (request : AdapterDeliveryRequest)
    (result : AdapterDeliveryResult) (log : List (WorldEvent α)) :
    progress (.called adapter request result :: log) = progress log := rfl

/-- Entries without a delivery call. -/
def Quiet (log : List (WorldEvent α)) : Prop := calls log = []

theorem quiet_closed : Traced.Closed (Quiet (α := α)) where
  nil := rfl
  append := fun {a b} ha hb => by rw [Quiet, calls_append, ha, hb, List.append_nil]

theorem quiet_inProgress (stepIds : List String) :
    Quiet (stepIds.map inProgress : List (WorldEvent α)) := by
  induction stepIds with
  | nil => rfl
  | cons stepId stepIds ih => simpa [Quiet] using ih

end WorldEvent

end FaLocal
