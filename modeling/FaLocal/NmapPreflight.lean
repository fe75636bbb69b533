import FaLocal.LocalFileWrite

/-!
# The nmap preflight adapter, and the adapters of a machine

`NmapPreflightDeliveryAdapter` looks for the binary of the scanner, and does not start
it. With it the two adapters that a run can build are complete: what they refuse, and
what they answer to a request that they do not refuse.
-/
namespace FaLocal

/-! ## Nmap -/

namespace NmapPreflightDeliveryAdapter

def validateRequest (supportedCapabilityId : CapabilityId) (request : AdapterDeliveryRequest) :
    Except String Unit :=
  if !request.resolvedApprovalPosture.admitted then
    .error "nmap preflight adapter requires admitted posture"
  else if request.requestedCapabilityId ≠ supportedCapabilityId then
    .error "nmap preflight adapter capability mismatch"
  else if request.declaredCapabilityIds ≠ [supportedCapabilityId] then
    .error "nmap preflight adapter requires one declared capability"
  else if request.declaredStepIds.length ≠ 1 then
    .error "nmap preflight adapter requires one declared step"
  else if !request.declaredFallbackReferences.isEmpty then
    .error "nmap preflight adapter does not support fallbacks"
  else .ok ()

/-- `isFile` answers for the path of the binary. -/
def deliverRoute (isFile : String → Bool) (nmapBinary : String)
    (supportedCapabilityId : CapabilityId) (request : AdapterDeliveryRequest) :
    AdapterDeliveryResult :=
  match validateRequest supportedCapabilityId request with
  | .error summary => .unsupported summary
  | .ok () =>
    if !isFile nmapBinary then
      .dependencyUnavailable "nmap runtime is unavailable for declared scan profile"
    else .deliveredAllSteps

end NmapPreflightDeliveryAdapter

/-! ## What adapters refuse -/

namespace BuiltAdapter

/-- The steps that an adapter takes in one request. -/
def TakesSteps : AdapterSelection → List String → Prop
  | .localFileWrite _, stepIds => stepIds ≠ []
  | .nmapPreflight _ _, stepIds => stepIds.length = 1

/-- A request that an adapter does not refuse. -/
structure Accepts (adapter : BuiltAdapter) (request : AdapterDeliveryRequest) : Prop where
  posture : request.resolvedApprovalPosture.admitted = true
  requested : request.requestedCapabilityId = adapter.supportedCapabilityId
  declared : request.declaredCapabilityIds = [adapter.supportedCapabilityId]
  steps : TakesSteps adapter.selection request.declaredStepIds
  fallbacks : request.declaredFallbackReferences = []

end BuiltAdapter

open BuiltAdapter (Accepts TakesSteps)

section
variable {adapter : BuiltAdapter} {request : AdapterDeliveryRequest} {c : CapabilityId}
  {root binary : String} {profile : NmapScanProfile}

theorem LocalFileWriteDeliveryAdapter.validateRequest_eq_ok :
    validateRequest c request = .ok () ↔ Accepts ⟨.localFileWrite root, c⟩ request := by
  have hchecks : validateRequest c request = .ok () ↔
      request.resolvedApprovalPosture.admitted = true ∧ request.requestedCapabilityId = c ∧
        request.declaredCapabilityIds = [c] ∧ request.declaredStepIds ≠ [] ∧
        request.declaredFallbackReferences = [] := by
    rw [validateRequest]
    split_ifs <;>
      simp_all [throw, throwThe, MonadExceptOf.throw, bind, Except.bind, pure, Except.pure]
  rw [hchecks]
  exact ⟨fun ⟨h₁, h₂, h₃, h₄, h₅⟩ => ⟨h₁, h₂, h₃, h₄, h₅⟩,
    fun h => ⟨h.posture, h.requested, h.declared, h.steps, h.fallbacks⟩⟩

theorem NmapPreflightDeliveryAdapter.validateRequest_eq_ok :
    validateRequest c request = .ok () ↔ Accepts ⟨.nmapPreflight binary profile, c⟩ request := by
  simp only [validateRequest, ite_error_eq_ok, Bool.not_eq_true', Bool.not_eq_false, not_not,
    List.isEmpty_iff, and_true]
  exact ⟨fun ⟨h₁, h₂, h₃, h₄, h₅⟩ => ⟨h₁, h₂, h₃, h₄, h₅⟩,
    fun h => ⟨h.posture, h.requested, h.declared, h.steps, h.fallbacks⟩⟩

end

/-! ## The adapters of a machine -/

/-- The files of a machine, and which paths are regular files when a run asks. -/
structure LocalMachine extends LocalFileSystem where
  isFile : List (WorldEvent BuiltAdapter) → String → Bool

/-- Why a dependency of the adapters is not there. -/
def unavailableSummaries : List String :=
  ["local file write delivery root is unavailable",
    "nmap runtime is unavailable for declared scan profile"]

/-- Why a delivery of the adapters fails. -/
def failureSummaries : List String :=
  ["local file write delivery refused by operator marker", "local file write receipt write failed"]

/-- An answer to a request that was not refused. -/
inductive Settled (stepId : String) : AdapterDeliveryResult → Prop where
  | delivered : Settled stepId .deliveredAllSteps
  | unavailable {summary : String} :
      summary ∈ unavailableSummaries → Settled stepId (.dependencyUnavailable summary)
  | failed {summary : String} :
      summary ∈ failureSummaries → Settled stepId (.failedAtDeclaredStep stepId summary)

namespace LocalMachine

variable (machine : LocalMachine)

def deliverRoute (log : List (WorldEvent BuiltAdapter)) (adapter : BuiltAdapter)
    (request : AdapterDeliveryRequest) : AdapterDeliveryResult :=
  match adapter.selection with
  | .localFileWrite deliveryRoot => LocalFileWriteDeliveryAdapter.deliverRoute
      machine.toLocalFileSystem log deliveryRoot adapter.supportedCapabilityId request
  | .nmapPreflight nmapBinary _ => NmapPreflightDeliveryAdapter.deliverRoute
      (machine.isFile log) nmapBinary adapter.supportedCapabilityId request

/-- The environment of a run on the machine. -/
def environment (env : RunEnvironment) : RunEnvironment :=
  { env with deliverRoute := machine.deliverRoute }

/-- Its file-write adapters deliver to its files. -/
theorem environment_files (env : RunEnvironment) :
    machine.environment env = machine.toLocalFileSystem.environment (machine.environment env) := by
  have hroute : machine.deliverRoute =
      (machine.toLocalFileSystem.environment (machine.environment env)).deliverRoute := by
    funext log adapter request
    obtain ⟨selection, c⟩ := adapter
    cases selection <;> rfl
  exact congrArg (fun route => { env with deliverRoute := route }) hroute

variable (log : List (WorldEvent BuiltAdapter)) {adapter : BuiltAdapter}
  {request : AdapterDeliveryRequest}

/-- What is not refused is settled. -/
theorem deliverRoute_settled (h : Accepts adapter request) :
    Settled (request.declaredStepIds.headD "") (machine.deliverRoute log adapter request) := by
  obtain ⟨selection, c⟩ := adapter
  cases selection with
  | localFileWrite root =>
    have hvalid := LocalFileWriteDeliveryAdapter.validateRequest_eq_ok.mpr h
    simp only [deliverRoute, LocalFileWriteDeliveryAdapter.deliverRoute, hvalid]
    split
    · exact .unavailable List.mem_cons_self
    · split
      · exact .failed List.mem_cons_self
      · split
        · exact .delivered
        · exact .unavailable List.mem_cons_self
        · exact .failed (List.mem_cons_of_mem _ List.mem_cons_self)
  | nmapPreflight binary profile =>
    have hvalid := NmapPreflightDeliveryAdapter.validateRequest_eq_ok.mpr h
    simp only [deliverRoute, NmapPreflightDeliveryAdapter.deliverRoute, hvalid]
    split
    · exact .unavailable (List.mem_cons_of_mem _ List.mem_cons_self)
    · exact .delivered

/-- What is refused is answered with `Unsupported`, and with nothing else. -/
theorem deliverRoute_refused (h : ¬ Accepts adapter request) :
    ∃ summary, machine.deliverRoute log adapter request = .unsupported summary := by
  obtain ⟨selection, c⟩ := adapter
  cases selection with
  | localFileWrite root =>
    cases hvalid : LocalFileWriteDeliveryAdapter.validateRequest c request with
    | error summary =>
      exact ⟨summary, by simp only [deliverRoute, LocalFileWriteDeliveryAdapter.deliverRoute,
        hvalid]⟩
    | ok _ => exact absurd (LocalFileWriteDeliveryAdapter.validateRequest_eq_ok.mp hvalid) h
  | nmapPreflight binary profile =>
    cases hvalid : NmapPreflightDeliveryAdapter.validateRequest c request with
    | error summary =>
      exact ⟨summary, by simp only [deliverRoute, NmapPreflightDeliveryAdapter.deliverRoute,
        hvalid]⟩
    | ok _ => exact absurd (NmapPreflightDeliveryAdapter.validateRequest_eq_ok.mp hvalid) h

end LocalMachine

end FaLocal
