import FaLocal.Vocabulary

/-!
# Execution statuses

`ExecutionStatus::validate` with its checks in the order of the source, and the
validated statuses that traces are made of.
-/
namespace FaLocal

structure ExecutionStatus where
  requestId : RequestId
  correlationId : CorrelationId
  executionPlanId : Option ExecutionPlanId
  stablePlanHash : Option String
  currentPosture : ApprovalPosture
  state : ExecutionState
  degradedSubtype : Option DegradedSubtype
  startedAtUtc : Option TimestampUtc
  updatedAtUtc : TimestampUtc
  completedAtUtc : Option TimestampUtc
  currentStep : Option String
  completionSummary : Option String
  failureSummary : Option String
  truthfulUserVisibleSummary : String
  deriving DecidableEq

/-- Between 1 and 160 bytes. -/
def isBoundedText (value : String) : Bool := !value.isEmpty && value.utf8ByteSize ≤ 160

namespace ExecutionStatus

def validateOptionalPlanLink (executionPlanId : Option ExecutionPlanId)
    (stablePlanHash : Option String) : FaLocalResult Unit :=
  require (executionPlanId.isSome == stablePlanHash.isSome)
    "execution status must carry execution_plan_id and stable_plan_hash together"

def requirePlanLink (executionPlanId : Option ExecutionPlanId) (stablePlanHash : Option String) :
    FaLocalResult Unit :=
  require (executionPlanId.isSome && stablePlanHash.isSome)
    "execution status state requires execution_plan_id and stable_plan_hash"

def requireNoPlanLink (executionPlanId : Option ExecutionPlanId)
    (stablePlanHash : Option String) : FaLocalResult Unit :=
  require (executionPlanId.isNone && stablePlanHash.isNone)
    "pre-execution status must not include execution_plan_id or stable_plan_hash"

def requirePosture (currentPosture : ApprovalPosture) (allowed : List ApprovalPosture)
    (message : String) : FaLocalResult Unit :=
  require (allowed.contains currentPosture) message

def requireAdmittedPosture (currentPosture : ApprovalPosture) (stateLabel : String) :
    FaLocalResult Unit :=
  requirePosture currentPosture [.policyPreapproved, .executeAllowed]
    (stateLabel ++ " status must use policy_preapproved or execute_allowed posture")

def requireSome {β : Type} (value : Option β) (message : String) : FaLocalResult Unit :=
  require value.isSome message

def requireNone {β : Type} (value : Option β) (message : String) : FaLocalResult Unit :=
  require value.isNone message

def validateOptionalStep (currentStep : Option String) : FaLocalResult Unit :=
  require (currentStep.all isValidStepId)
    "execution status current_step must match the bounded step id pattern"

def validateRequiredSummary (summary fieldName : String) : FaLocalResult Unit :=
  require (isBoundedText summary)
    ("execution status " ++ fieldName ++ " must be between 1 and 160 characters")

def validateOptionalSummary (summary : Option String) (fieldName : String) : FaLocalResult Unit :=
  require (summary.all isBoundedText)
    ("execution status " ++ fieldName ++ " must be between 1 and 160 characters")

/-- The fields that no status carries before execution starts. -/
def requireNothingStarted (status : ExecutionStatus) (label : String) : FaLocalResult Unit := do
  requireNone status.startedAtUtc (label ++ " status must not include started_at_utc")
  requireNone status.completedAtUtc (label ++ " status must not include completed_at_utc")
  requireNone status.currentStep (label ++ " status must not include current_step")
  requireNone status.completionSummary (label ++ " status must not include completion_summary")
  requireNone status.failureSummary (label ++ " status must not include failure_summary")
  requireNone status.degradedSubtype (label ++ " status must not include degraded_subtype")

def validateTimes (status : ExecutionStatus) : FaLocalResult Unit := do
  require (status.startedAtUtc.all (· ≤ status.updatedAtUtc))
    "execution status updated_at_utc must not precede started_at_utc"
  require (status.completedAtUtc.all (· ≤ status.updatedAtUtc))
    "execution status updated_at_utc must not precede completed_at_utc"
  require (status.completedAtUtc.all fun completed => status.startedAtUtc.all (· ≤ completed))
    "execution status completed_at_utc must not precede started_at_utc"

def validateDegraded (status : ExecutionStatus) : FaLocalResult Unit :=
  match status.degradedSubtype with
  | some .degradedPreStart | some .unavailableDependencyBlock => do
    requireNone status.startedAtUtc "pre-start degraded status must not include started_at_utc"
    requireNone status.currentStep "pre-start degraded status must not include current_step"
  | _ => requireSome status.startedAtUtc
      "in-flight degraded status must include started_at_utc"

def validateState (status : ExecutionStatus) : FaLocalResult Unit :=
  match status.state with
  | .denied => do
    requirePosture status.currentPosture [.denied] "denied status must use denied posture"
    requireNoPlanLink status.executionPlanId status.stablePlanHash
    requireNothingStarted status "denied"
  | .reviewRequired => do
    requirePosture status.currentPosture [.reviewRequired]
      "review_required status must use review_required posture"
    requireNoPlanLink status.executionPlanId status.stablePlanHash
    requireNothingStarted status "review_required"
  | .waitingExplicitApproval => do
    requirePosture status.currentPosture [.explicitOperatorApproval]
      "waiting_explicit_approval status must use explicit_operator_approval posture"
    requireNoPlanLink status.executionPlanId status.stablePlanHash
    requireNothingStarted status "waiting_explicit_approval"
  | .admittedNotStarted => do
    requireAdmittedPosture status.currentPosture "admitted_not_started"
    requirePlanLink status.executionPlanId status.stablePlanHash
    requireNothingStarted status "admitted_not_started"
  | .inProgress => do
    requireAdmittedPosture status.currentPosture "in_progress"
    requirePlanLink status.executionPlanId status.stablePlanHash
    requireSome status.startedAtUtc "in_progress status must include started_at_utc"
    requireNone status.completedAtUtc "in_progress status must not include completed_at_utc"
    requireSome status.currentStep "in_progress status must include current_step"
    requireNone status.completionSummary "in_progress status must not include completion_summary"
    requireNone status.failureSummary "in_progress status must not include failure_summary"
    requireNone status.degradedSubtype "in_progress status must not include degraded_subtype"
  | .degraded => do
    requireAdmittedPosture status.currentPosture "degraded"
    requirePlanLink status.executionPlanId status.stablePlanHash
    requireSome status.degradedSubtype "degraded status must include degraded_subtype"
    requireNone status.completedAtUtc "degraded status must not include completed_at_utc"
    requireNone status.completionSummary "degraded status must not include completion_summary"
    requireNone status.failureSummary "degraded status must not include failure_summary"
    validateDegraded status
  | .partialSuccess => do
    requireAdmittedPosture status.currentPosture "partial_success"
    requirePlanLink status.executionPlanId status.stablePlanHash
    requireSome status.startedAtUtc "partial_success status must include started_at_utc"
    requireSome status.completedAtUtc "partial_success status must include completed_at_utc"
    requireNone status.currentStep "partial_success status must not include current_step"
    requireSome status.completionSummary "partial_success status must include completion_summary"
    requireSome status.failureSummary "partial_success status must include failure_summary"
    require (status.degradedSubtype == some .degradedPartial)
      "partial_success status must use degraded_partial degraded_subtype"
  | .completedWithConstraints => do
    requireAdmittedPosture status.currentPosture "completed_with_constraints"
    requirePlanLink status.executionPlanId status.stablePlanHash
    requireSome status.startedAtUtc
      "completed_with_constraints status must include started_at_utc"
    requireSome status.completedAtUtc
      "completed_with_constraints status must include completed_at_utc"
    requireNone status.currentStep
      "completed_with_constraints status must not include current_step"
    requireSome status.completionSummary
      "completed_with_constraints status must include completion_summary"
    requireNone status.failureSummary
      "completed_with_constraints status must not include failure_summary"
    require (status.degradedSubtype == some .degradedFallbackEquivalent ||
        status.degradedSubtype == some .degradedFallbackLimited)
      "completed_with_constraints status must include an explicit fallback degraded_subtype"
  | .completed => do
    requireAdmittedPosture status.currentPosture "completed"
    requirePlanLink status.executionPlanId status.stablePlanHash
    requireSome status.startedAtUtc "completed status must include started_at_utc"
    requireSome status.completedAtUtc "completed status must include completed_at_utc"
    requireNone status.currentStep "completed status must not include current_step"
    requireSome status.completionSummary "completed status must include completion_summary"
    requireNone status.failureSummary "completed status must not include failure_summary"
    requireNone status.degradedSubtype "completed status must not include degraded_subtype"
  | .failed => do
    requireAdmittedPosture status.currentPosture "failed"
    requirePlanLink status.executionPlanId status.stablePlanHash
    requireSome status.startedAtUtc "failed status must include started_at_utc"
    requireSome status.completedAtUtc "failed status must include completed_at_utc"
    requireNone status.currentStep "failed status must not include current_step"
    requireNone status.completionSummary "failed status must not include completion_summary"
    requireSome status.failureSummary "failed status must include failure_summary"
    requireNone status.degradedSubtype "failed status must not include degraded_subtype"
  | .canceled => do
    requireAdmittedPosture status.currentPosture "canceled"
    requirePlanLink status.executionPlanId status.stablePlanHash
    requireSome status.completedAtUtc "canceled status must include completed_at_utc"
    requireNone status.currentStep "canceled status must not include current_step"
    requireNone status.completionSummary "canceled status must not include completion_summary"
    requireNone status.failureSummary "canceled status must not include failure_summary"
    requireNone status.degradedSubtype "canceled status must not include degraded_subtype"

def validate (status : ExecutionStatus) : FaLocalResult Unit := do
  validateOptionalPlanLink status.executionPlanId status.stablePlanHash
  validateOptionalStep status.currentStep
  validateOptionalSummary status.completionSummary "completion_summary"
  validateOptionalSummary status.failureSummary "failure_summary"
  validateRequiredSummary status.truthfulUserVisibleSummary "truthful_user_visible_summary"
  require (status.stablePlanHash.all isValidHash)
    "execution status stable_plan_hash must be a 64-character lowercase hex digest"
  validateTimes status
  validateState status

/-- `ExecutionStatus::new`: its arguments as a record. -/
def new (status : ExecutionStatus) : FaLocalResult ExecutionStatus := do
  status.validate
  return status

end ExecutionStatus

structure ValidatedExecutionStatus where
  status : ExecutionStatus
  valid : status.validate = .ok ()

/-- `status.validated()` -/
def ValidatedExecutionStatus.new (status : ExecutionStatus) :
    FaLocalResult ValidatedExecutionStatus :=
  match h : status.validate with
  | .ok () => .ok ⟨status, h⟩
  | .error e => .error e

/-- `ValidatedExecutionStatus::new(ExecutionStatus::new(..)?)` -/
def emitStatus (status : ExecutionStatus) : FaLocalResult ValidatedExecutionStatus := do
  let status ← ExecutionStatus.new status
  ValidatedExecutionStatus.new status

/-! A status is emitted exactly when it is valid. -/

theorem ValidatedExecutionStatus.new_of_valid {status : ExecutionStatus}
    (h : status.validate = .ok ()) : new status = .ok ⟨status, h⟩ := by
  unfold new
  split
  · rfl
  · rename_i e he
    simp [h] at he

theorem emitStatus_of_valid {status : ExecutionStatus} (h : status.validate = .ok ()) :
    emitStatus status = .ok ⟨status, h⟩ := by
  simp [emitStatus, ExecutionStatus.new, h, bind, Except.bind, pure, Except.pure,
    ValidatedExecutionStatus.new_of_valid h]

theorem emitStatus_eq_ok {status : ExecutionStatus} {v : ValidatedExecutionStatus} :
    emitStatus status = .ok v ↔ v.status = status := by
  constructor
  · intro h
    cases hv : status.validate with
    | error e =>
      simp [emitStatus, ExecutionStatus.new, hv, bind, Except.bind] at h
    | ok u =>
      rw [emitStatus_of_valid hv] at h
      cases h
      rfl
  · rintro rfl
    exact emitStatus_of_valid v.valid

/-- The statuses of a list that is emitted one by one. -/
theorem mapM_emitStatus_ok {β : Type} {f : β → ExecutionStatus} {l : List β}
    {statuses : List ValidatedExecutionStatus} (h : l.mapM (fun b => emitStatus (f b)) = .ok statuses) :
    statuses.map (·.status) = l.map f := by
  induction l generalizing statuses with
  | nil =>
    cases h
    rfl
  | cons b rest ih =>
    simp only [List.mapM_cons, bind_eq_ok] at h
    obtain ⟨first, hfirst, later, hlater, hstatuses⟩ := h
    cases hstatuses
    rw [List.map_cons, List.map_cons, emitStatus_eq_ok.mp hfirst, ih hlater]

theorem mapM_emitStatus_of_valid {β : Type} {f : β → ExecutionStatus} {l : List β}
    (h : ∀ b ∈ l, (f b).validate = .ok ()) :
    ∃ statuses, l.mapM (fun b => emitStatus (f b)) = .ok statuses := by
  induction l with
  | nil => exact ⟨[], rfl⟩
  | cons b rest ih =>
    obtain ⟨hb, hrest⟩ := List.forall_mem_cons.mp h
    obtain ⟨statuses, hstatuses⟩ := ih hrest
    refine ⟨⟨f b, hb⟩ :: statuses, ?_⟩
    rw [List.mapM_cons, emitStatus_of_valid hb, hstatuses]
    rfl

/-- The error of a status that is not emitted is that of the first failing check. -/
theorem emitStatus_eq_error {status : ExecutionStatus} {e : Abort} :
    emitStatus status = .error e ↔ status.validate = .error e := by
  cases hv : status.validate with
  | error e' => simp [emitStatus, ExecutionStatus.new, hv, bind, Except.bind]
  | ok u => simp [emitStatus_of_valid hv]

/-! What a valid status has shown: its texts fit, and so do its other fields. -/

namespace ExecutionStatus

structure TextsFit (status : ExecutionStatus) : Prop where
  step : status.currentStep.all isValidStepId = true
  completion : status.completionSummary.all isBoundedText = true
  failure : status.failureSummary.all isBoundedText = true
  visible : isBoundedText status.truthfulUserVisibleSummary = true

/-- The plan link, the hash, the times and the rules of the state. -/
structure FieldsFit (status : ExecutionStatus) : Prop where
  linked : status.executionPlanId.isSome = status.stablePlanHash.isSome
  hash : status.stablePlanHash.all isValidHash = true
  times : status.validateTimes = .ok ()
  state : status.validateState = .ok ()

theorem validate_eq_ok {status : ExecutionStatus} :
    status.validate = .ok () ↔ status.TextsFit ∧ status.FieldsFit := by
  simp only [validate, seq_eq_ok, validateOptionalPlanLink, validateOptionalStep,
    validateOptionalSummary, validateRequiredSummary, require_eq_ok, beq_iff_eq]
  constructor
  · rintro ⟨h₁, h₂, h₃, h₄, h₅, h₆, h₇, h₈⟩
    exact ⟨⟨h₂, h₃, h₄, h₅⟩, ⟨h₁, h₆, h₇, h₈⟩⟩
  · rintro ⟨⟨h₂, h₃, h₄, h₅⟩, ⟨h₁, h₆, h₇, h₈⟩⟩
    exact ⟨h₁, h₂, h₃, h₄, h₅, h₆, h₇, h₈⟩

end ExecutionStatus

theorem isBoundedText_iff {s : String} :
    isBoundedText s = true ↔ 1 ≤ s.utf8ByteSize ∧ s.utf8ByteSize ≤ 160 := by
  simp only [isBoundedText, Bool.and_eq_true, Bool.not_eq_true', decide_eq_true_eq,
    Bool.eq_false_iff, ne_eq, String.isEmpty_iff, ← String.utf8ByteSize_eq_zero_iff]
  omega

theorem isBoundedText_append {text s : String} {n : Nat} (ht : text.utf8ByteSize = n)
    (hn : 1 ≤ n) : isBoundedText (text ++ s) = true ↔ n + s.utf8ByteSize ≤ 160 := by
  rw [isBoundedText_iff, String.utf8ByteSize_append, ht]
  omega

end FaLocal
