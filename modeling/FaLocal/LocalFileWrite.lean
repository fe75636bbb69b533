import FaLocal.Library.Overwrites
import FaLocal.Pipeline

/-!
# The local file write adapter

`LocalFileWriteDeliveryAdapter` leaves a receipt for every delivery. The path of
the receipt is made from the request and the plan hash, its text also names the
capability and the steps. The answers of the file system are parameters.
-/
namespace FaLocal

/-- `ErrorKind`, as far as it is told apart. -/
inductive WriteError where
  | notFound | other
  deriving DecidableEq

/-- The files at the start, and the answers of the file system. -/
structure LocalFileSystem where
  files : String → Option String
  isDir : List (WorldEvent BuiltAdapter) → String → Bool
  pathExists : List (WorldEvent BuiltAdapter) → String → Bool
  write : List (WorldEvent BuiltAdapter) → String → String → Except WriteError Unit

namespace LocalFileWriteDeliveryAdapter

def refusalMarkerFileName : String := ".fa_local_refuse_delivery"

/-- `Path::join` with a relative name. -/
def join (root name : String) : String :=
  if root.isEmpty || root.endsWith "/" then root ++ name else root ++ "/" ++ name

def refusalMarkerPath (deliveryRoot : String) : String := join deliveryRoot refusalMarkerFileName

def receiptName (requestId : RequestId) (stablePlanHash : String) : String :=
  "fa_local_delivery_" ++ requestId.display ++ "_" ++
    String.ofList (stablePlanHash.toList.take 12) ++ ".receipt"

def receiptPathFor (deliveryRoot : String) (requestId : RequestId) (stablePlanHash : String) :
    String :=
  join deliveryRoot (receiptName requestId stablePlanHash)

def validateRequest (supportedCapabilityId : CapabilityId) (request : AdapterDeliveryRequest) :
    Except String Unit := do
  if !request.resolvedApprovalPosture.admitted then
    throw "local file write adapter requires admitted posture"
  if request.requestedCapabilityId ≠ supportedCapabilityId then
    throw "local file write adapter capability mismatch"
  if request.declaredCapabilityIds ≠ [supportedCapabilityId] then
    throw "local file write adapter requires one declared capability"
  if request.declaredStepIds.isEmpty then
    throw "local file write adapter requires declared steps"
  if !request.declaredFallbackReferences.isEmpty then
    throw "local file write adapter does not support fallbacks"

def receiptContents (request : AdapterDeliveryRequest) : String :=
  "adapter_id=local-file-write-delivery\nroute_decision_id=" ++ request.routeDecisionId.display ++
    ("\ncorrelation_id=" ++ request.correlationId.display ++
      ("\nrequest_id=" ++ request.requestId.display ++
        ("\nexecution_plan_id=" ++ request.executionPlanId.display ++
          ("\nstable_plan_hash=" ++ request.stablePlanHash ++
            ("\nrequested_capability_id=" ++ request.requestedCapabilityId.display ++
              ("\ndeclared_step_ids=" ++ ",".intercalate request.declaredStepIds ++ "\n"))))))

def deliverRoute (fs : LocalFileSystem) (log : List (WorldEvent BuiltAdapter))
    (deliveryRoot : String) (supportedCapabilityId : CapabilityId)
    (request : AdapterDeliveryRequest) : AdapterDeliveryResult :=
  match validateRequest supportedCapabilityId request with
  | .error summary => .unsupported summary
  | .ok () =>
    if !fs.isDir log deliveryRoot then
      .dependencyUnavailable "local file write delivery root is unavailable"
    else
      let firstStepId := request.declaredStepIds.headD ""
      if fs.pathExists log (refusalMarkerPath deliveryRoot) then
        .failedAtDeclaredStep firstStepId "local file write delivery refused by operator marker"
      else
        match fs.write log (receiptPathFor deliveryRoot request.requestId request.stablePlanHash)
          (receiptContents request) with
        | .ok () => .deliveredAllSteps
        | .error .notFound =>
          .dependencyUnavailable "local file write delivery root is unavailable"
        | .error .other =>
          .failedAtDeclaredStep firstStepId "local file write receipt write failed"

/-- A delivery is answered with `DeliveredAllSteps` exactly if its receipt was written. -/
theorem deliverRoute_delivered_iff {fs : LocalFileSystem} {log : List (WorldEvent BuiltAdapter)}
    {deliveryRoot : String} {supportedCapabilityId : CapabilityId}
    {request : AdapterDeliveryRequest} :
    deliverRoute fs log deliveryRoot supportedCapabilityId request = .deliveredAllSteps ↔
      validateRequest supportedCapabilityId request = .ok () ∧ fs.isDir log deliveryRoot = true ∧
        fs.pathExists log (refusalMarkerPath deliveryRoot) = false ∧
        fs.write log (receiptPathFor deliveryRoot request.requestId request.stablePlanHash)
          (receiptContents request) = .ok () := by
  rw [deliverRoute]
  cases validateRequest supportedCapabilityId request with
  | error summary => simp
  | ok _ =>
    cases fs.isDir log deliveryRoot with
    | false => simp
    | true =>
      cases fs.pathExists log (refusalMarkerPath deliveryRoot) with
      | true => simp
      | false =>
        cases fs.write log (receiptPathFor deliveryRoot request.requestId request.stablePlanHash)
            (receiptContents request) with
        | ok _ => simp
        | error e => cases e <;> simp

/-! ## Receipts -/

/-- A text is the receipt of a delivery of the same steps of the same plan, for the
same request and capability. -/
structure Names (contents : String) (request : AdapterDeliveryRequest) : Prop where
  receipt : ∃ receipt, contents = receiptContents receipt ∧
    receipt.requestId = request.requestId ∧ receipt.stablePlanHash = request.stablePlanHash ∧
    receipt.requestedCapabilityId = request.requestedCapabilityId ∧
    receipt.declaredStepIds = request.declaredStepIds

theorem names_own (request : AdapterDeliveryRequest) : Names (receiptContents request) request :=
  ⟨⟨request, rfl, rfl, rfl, rfl, rfl⟩⟩

theorem display_cancel {k : IdKind} {i j : UuidId k} {x y : String}
    (h : i.display ++ x = j.display ++ y) : x = y := by
  have hchars := congrArg String.toList h
  simp only [String.toList_append] at hchars
  refine String.toList_injective (List.append_inj hchars ?_).2
  simp [UuidId.display, hyphenated_length]

/-- Receipts of one plan hash with one text declare their steps alike. -/
theorem receiptContents_cancel {request request' : AdapterDeliveryRequest}
    (h : receiptContents request = receiptContents request')
    (hhash : request.stablePlanHash = request'.stablePlanHash) :
    ",".intercalate request.declaredStepIds = ",".intercalate request'.declaredStepIds := by
  unfold receiptContents at h
  rw [hhash] at h
  simp only [String.append_assoc] at h
  have h₁ := display_cancel ((String.append_right_inj _).mp h)
  have h₂ := display_cancel ((String.append_right_inj _).mp h₁)
  have h₃ := display_cancel ((String.append_right_inj _).mp h₂)
  have h₄ := (String.append_right_inj _).mp (display_cancel ((String.append_right_inj _).mp h₃))
  have h₅ := display_cancel ((String.append_right_inj _).mp ((String.append_right_inj _).mp h₄))
  exact (String.append_left_inj _).mp ((String.append_right_inj _).mp h₅)

/-- Of one step of a plan, only its own receipt tells. -/
theorem Names.step {request request' : AdapterDeliveryRequest} {stepId stepId' : String}
    (h : Names (receiptContents request') request)
    (hhash : request'.stablePlanHash = request.stablePlanHash)
    (hstep : request.declaredStepIds = [stepId]) (hstep' : request'.declaredStepIds = [stepId']) :
    stepId' = stepId := by
  obtain ⟨receipt, he, -, hplan, -, hids⟩ := h.receipt
  have hjoined := receiptContents_cancel he (hhash.trans hplan.symm)
  rw [hids, hstep, hstep'] at hjoined
  simpa only [String.intercalate_singleton] using hjoined

end LocalFileWriteDeliveryAdapter

namespace LocalFileSystem

open LocalFileWriteDeliveryAdapter

/-- The environment in which file-write adapters deliver to these files. -/
def environment (fs : LocalFileSystem) (env : RunEnvironment) : RunEnvironment :=
  { env with deliverRoute := fun log adapter request =>
      match adapter.selection with
      | .localFileWrite deliveryRoot =>
        deliverRoute fs log deliveryRoot adapter.supportedCapabilityId request
      | .nmapPreflight _ _ => env.deliverRoute log adapter request }

/-- The deliveries of file-write adapters that wrote a receipt, with their roots. -/
def receipts (log : List (WorldEvent BuiltAdapter)) : List (String × AdapterDeliveryRequest) :=
  (WorldEvent.calls log).filterMap fun call =>
    match call.1.selection, call.2.2 with
    | .localFileWrite deliveryRoot, .deliveredAllSteps => some (deliveryRoot, call.2.1)
    | _, _ => none

def receiptPath (receipt : String × AdapterDeliveryRequest) : String :=
  receiptPathFor receipt.1 receipt.2.requestId receipt.2.stablePlanHash

/-- The files after a history, if different paths are different files, no sink keeps one of them
and no write is torn: a write puts the receipt at its path or does nothing. -/
def filesAfter (fs : LocalFileSystem) (log : List (WorldEvent BuiltAdapter)) :
    String → Option String :=
  Overwrites.after receiptPath (fun receipt => receiptContents receipt.2) fs.files (receipts log)

@[simp] theorem receipts_append (a b : List (WorldEvent BuiltAdapter)) :
    receipts (a ++ b) = receipts a ++ receipts b := by
  rw [receipts, WorldEvent.calls_append, List.filterMap_append]
  rfl

theorem filesAfter_append (fs : LocalFileSystem) (log events : List (WorldEvent BuiltAdapter)) :
    fs.filesAfter (log ++ events) = Overwrites.after receiptPath
      (fun receipt => receiptContents receipt.2) (fs.filesAfter log) (receipts events) := by
  rw [filesAfter, receipts_append, Overwrites.after_append]
  rfl

/-- What a call of a file-write adapter does to the files. -/
theorem filesAfter_call (fs : LocalFileSystem) (log : List (WorldEvent BuiltAdapter))
    (deliveryRoot : String) (supportedCapabilityId : CapabilityId)
    (request : AdapterDeliveryRequest) :
    fs.filesAfter (log ++ [.called ⟨.localFileWrite deliveryRoot, supportedCapabilityId⟩ request
        (deliverRoute fs log deliveryRoot supportedCapabilityId request)]) =
      if deliverRoute fs log deliveryRoot supportedCapabilityId request = .deliveredAllSteps then
        Function.update (fs.filesAfter log)
          (receiptPathFor deliveryRoot request.requestId request.stablePlanHash)
          (some (receiptContents request))
      else fs.filesAfter log := by
  rw [filesAfter_append]
  split
  · rename_i h
    rw [h]
    rfl
  · rename_i h
    rw [receipts, WorldEvent.calls_called, WorldEvent.calls_nil, List.filterMap_cons_none]
    · rfl
    · split
      · rename_i hd
        exact absurd hd h
      · rfl

end LocalFileSystem

end FaLocal
