import FaLocal.ContractSchema
import FaLocal.Coordination
import FaLocal.WholeRouteOutcome

/-!
# The law of the coordinator

What `coordinate` leads to for each posture and directive. A decision that is not
admitted rests in one status. An admitted one follows its directive through the
plan, and fails only where the plan or the directive gives it no course.
-/
namespace FaLocal

/-- The steps that a directive puts in progress, and the state that ends them. -/
inductive Course (declared : List String) :
    CoordinationDirective → List String → Option ExecutionState → Prop where
  | notStarted : Course declared .noExecution [] none
  | completed : Course declared .completeDeclaredPlan declared (some .completed)
  | failed {pre post : List String} {stepId failureSummary : String} :
      declared = pre ++ stepId :: post → stepId ∉ pre → isBoundedText failureSummary = true →
      Course declared (.failAtDeclaredStep stepId failureSummary) (pre ++ [stepId]) (some .failed)
  | canceled {pre post : List String} {stepId : String} :
      declared = pre ++ stepId :: post → stepId ∉ pre →
      Course declared (.cancelInFlight stepId) (pre ++ [stepId]) (some .canceled)

/-- The directives without a course. -/
def CoordinationDirective.Refused (declared : List String) : CoordinationDirective → Prop
  | .noExecution => False
  | .completeDeclaredPlan => False
  | .failAtDeclaredStep stepId failureSummary => stepId ∉ declared ∨
      ¬ (1 ≤ failureSummary.utf8ByteSize ∧ failureSummary.utf8ByteSize ≤ 160)
  | .cancelInFlight stepId => stepId ∉ declared
  | .unsupportedRuntimeCondition _ => True

/-- The states that a course shows. -/
def courseStates (through : List String) (final : Option ExecutionState) :
    List (ExecutionState × Option String) :=
  (.admittedNotStarted, none) :: through.map (fun stepId => (.inProgress, some stepId)) ++
    final.toList.map fun state => (state, none)

/-- The state in which a decision that is not admitted rests. -/
def ApprovalPosture.restingState : ApprovalPosture → Option ExecutionState
  | .denied => some .denied
  | .reviewRequired => some .reviewRequired
  | .explicitOperatorApproval => some .waitingExplicitApproval
  | .policyPreapproved | .executeAllowed => none

/-- A status of a decision with no plan, no step and no progress. -/
structure Resting (d : RouteDecision) (status : ExecutionStatus) : Prop where
  request : status.requestId = d.requestId
  correlation : status.correlationId = d.correlationId
  posture : status.currentPosture = d.resolvedApprovalPosture
  state : some status.state = d.resolvedApprovalPosture.restingState
  unlinked : status.executionPlanId = none ∧ status.stablePlanHash = none
  noStep : status.currentStep = none
  noTimes : status.startedAtUtc = none ∧ status.completedAtUtc = none
  noProgress : status.completionSummary = none ∧ status.failureSummary = none ∧
    status.degradedSubtype = none

/-- A status of a decision and its plan. -/
structure PlanStamped (d : RouteDecision) (v : ValidatedExecutionPlan)
    (status : ExecutionStatus) : Prop where
  request : status.requestId = d.requestId
  correlation : status.correlationId = d.correlationId
  posture : status.currentPosture = d.resolvedApprovalPosture
  link : status.executionPlanId = some v.plan.executionPlanId ∧
    status.stablePlanHash = some v.stablePlanHash

def declaredStepIds (validatedPlan : Option ValidatedExecutionPlan) : List String :=
  validatedPlan.elim [] fun v => v.plan.steps.map (·.stepId)

theorem course_or_refused (declared : List String) (directive : CoordinationDirective) :
    (∃ through final, Course declared directive through final) ∨ directive.Refused declared := by
  cases directive with
  | noExecution => exact .inl ⟨_, _, .notStarted⟩
  | completeDeclaredPlan => exact .inl ⟨_, _, .completed⟩
  | failAtDeclaredStep stepId failureSummary =>
    by_cases hmem : stepId ∈ declared
    · by_cases hfit : isBoundedText failureSummary = true
      · obtain ⟨pre, post, he, hpre⟩ := List.eq_append_cons_of_mem hmem
        exact .inl ⟨_, _, .failed he hpre hfit⟩
      · exact .inr (.inr (mt isBoundedText_iff.mpr hfit))
    · exact .inr (.inl hmem)
  | cancelInFlight stepId =>
    by_cases hmem : stepId ∈ declared
    · obtain ⟨pre, post, he, hpre⟩ := List.eq_append_cons_of_mem hmem
      exact .inl ⟨_, _, .canceled he hpre⟩
    · exact .inr hmem
  | unsupportedRuntimeCondition summary => exact .inr trivial

theorem Course.not_refused {declared through : List String} {directive : CoordinationDirective}
    {state : Option ExecutionState} (hc : Course declared directive through state) :
    ¬ directive.Refused declared := by
  cases hc with
  | notStarted => exact id
  | completed => exact id
  | failed he _ hfit =>
    rintro (hmem | htext)
    · exact hmem (by simp [he])
    · exact htext (isBoundedText_iff.mp hfit)
  | canceled he =>
    intro hmem
    exact hmem (by simp [he])

theorem firstOccurrence_inj {pre pre' post post' : List String} {stepId : String}
    (he : pre ++ stepId :: post = pre' ++ stepId :: post') (hpre : stepId ∉ pre)
    (hpre' : stepId ∉ pre') : pre = pre' := by
  have hindex : (pre ++ stepId :: post).idxOf? stepId = some pre.length :=
    ExecutionService.idxOf?_split hpre
  rw [he, ExecutionService.idxOf?_split hpre'] at hindex
  exact (List.append_inj he (Option.some.inj hindex).symm).1

/-- A directive has at most one course. -/
theorem Course.unique {declared through through' : List String} {directive : CoordinationDirective}
    {state state' : Option ExecutionState} (hc : Course declared directive through state)
    (hc' : Course declared directive through' state') : through = through' ∧ state = state' := by
  cases hc with
  | notStarted =>
    cases hc'
    exact ⟨rfl, rfl⟩
  | completed =>
    cases hc'
    exact ⟨rfl, rfl⟩
  | failed he hpre _ =>
    cases hc' with
    | failed he' hpre' _ => exact ⟨by rw [firstOccurrence_inj (he ▸ he') hpre hpre'], rfl⟩
  | canceled he hpre =>
    cases hc' with
    | canceled he' hpre' => exact ⟨by rw [firstOccurrence_inj (he ▸ he') hpre hpre'], rfl⟩

/-- A course only takes declared steps. -/
theorem Course.declared {declared through : List String} {directive : CoordinationDirective}
    {state : Option ExecutionState} (hc : Course declared directive through state) {stepId : String}
    (hmem : stepId ∈ through) : stepId ∈ declared := by
  cases hc with
  | notStarted => cases hmem
  | completed => exact hmem
  | failed he =>
    rw [he, List.append_cons]
    exact List.mem_append_left _ hmem
  | canceled he =>
    rw [he, List.append_cons]
    exact List.mem_append_left _ hmem

namespace ExecutionService

open ExecutionStatus (TextsFit FieldsFit validateState validateTimes requireAdmittedPosture
  requirePosture requirePlanLink requireNothingStarted requireSome requireNone)

section
variable {d : RouteDecision} {v : ValidatedExecutionPlan} {context : CoordinationContext}

/-! ## Statuses that rest -/

theorem decisionStatus_resting {state : ExecutionState}
    (h : some state = d.resolvedApprovalPosture.restingState) (updatedAtUtc : TimestampUtc)
    (summary : String) :
    Resting d (decisionStatus d none d.resolvedApprovalPosture state updatedAtUtc summary) :=
  ⟨rfl, rfl, rfl, h, ⟨rfl, rfl⟩, rfl, ⟨rfl, rfl⟩, ⟨rfl, rfl, rfl⟩⟩

theorem decisionStatus_valid {state : ExecutionState}
    (h : some state = d.resolvedApprovalPosture.restingState) (updatedAtUtc : TimestampUtc)
    {summary : String} (hfit : isBoundedText summary = true) :
    (decisionStatus d none d.resolvedApprovalPosture state updatedAtUtc summary).validate =
      .ok () := by
  refine ExecutionStatus.validate_eq_ok.mpr ⟨⟨rfl, rfl, rfl, hfit⟩, rfl, rfl, rfl, ?_⟩
  cases hp : d.resolvedApprovalPosture <;> rw [hp, ApprovalPosture.restingState] at h <;>
    cases h <;> rfl

/-- The summary of a decision of the resolver, in one-byte characters, is bounded. -/
theorem operatorSummary_bounded {input : RouteResolutionInput}
    (hkept : ApprovalPostureResolver.SummaryKept input d)
    (hascii : ∀ c ∈ d.operatorVisibleSummary.toList, c.toNat < 128) :
    isBoundedText d.operatorVisibleSummary = true := by
  rw [isBoundedText_iff, Schema.utf8ByteSize_of_ascii hascii]
  exact ⟨hkept.nonempty, hkept.short⟩

/-- A decision that is not admitted is coordinated into one status. -/
theorem coordinate_resting (validatedPlan : Option ValidatedExecutionPlan)
    (directive : CoordinationDirective) (context : CoordinationContext)
    (hp : d.resolvedApprovalPosture.admitted = false)
    (hfit : isBoundedText d.operatorVisibleSummary = true) :
    ∃ trace status, coordinate ⟨d, validatedPlan, directive, context⟩ = .ok trace ∧
      trace.statuses = [status] ∧ Resting d status.status := by
  have hone : ∀ (state : ExecutionState) (summary : String),
      some state = d.resolvedApprovalPosture.restingState → isBoundedText summary = true →
      ∃ trace status, (emitStatus (decisionStatus d none d.resolvedApprovalPosture state
          context.coordinatedAtUtc summary) >>= fun status => ExecutionTrace.new [status]) =
          .ok trace ∧ trace.statuses = [status] ∧ Resting d status.status := by
    intro state summary hstate hsummary
    have hv := decisionStatus_valid hstate context.coordinatedAtUtc hsummary
    exact ⟨_, ⟨_, hv⟩, bind_eq_ok.mpr ⟨_, emitStatus_of_valid hv,
      traceNew_of_ne (List.cons_ne_nil _ _)⟩, rfl, decisionStatus_resting hstate _ _⟩
  have hsize : "waiting for explicit operator approval".utf8ByteSize = 38 :=
    utf8ByteSize_of_chars (by decide)
  have hwaiting : isBoundedText "waiting for explicit operator approval" = true :=
    isBoundedText_iff.mpr (by omega)
  cases hpos : d.resolvedApprovalPosture <;> rw [hpos] at hone hp
  case denied =>
    simp only [coordinate, hpos]
    exact hone _ _ rfl hfit
  case reviewRequired =>
    simp only [coordinate, hpos]
    exact hone _ _ rfl hfit
  case explicitOperatorApproval =>
    simp only [coordinate, hpos]
    exact hone _ _ rfl hwaiting
  all_goals cases hp

/-! ## Statuses of a plan -/

def plannedFailedStatus (d : RouteDecision) (v : ValidatedExecutionPlan)
    (startedAtUtc completedAtUtc : TimestampUtc) (failureSummary : String) : ExecutionStatus :=
  { plannedStatus d v .failed completedAtUtc failureSummary with
    startedAtUtc := some startedAtUtc
    completedAtUtc := some completedAtUtc
    failureSummary := some failureSummary }

def plannedCanceledStatus (d : RouteDecision) (v : ValidatedExecutionPlan)
    (startedAtUtc completedAtUtc : TimestampUtc) (stepId : String) : ExecutionStatus :=
  { plannedStatus d v .canceled completedAtUtc
      ("execution canceled during declared step " ++ stepId) with
    startedAtUtc := some startedAtUtc
    completedAtUtc := some completedAtUtc }

/-- The last status of a course. -/
def courseEnd (d : RouteDecision) (v : ValidatedExecutionPlan) (context : CoordinationContext) :
    CoordinationDirective → Option ExecutionStatus
  | .completeDeclaredPlan =>
    some (plannedCompletedStatus d v context.startedAtUtc context.completedAtUtc)
  | .failAtDeclaredStep _ failureSummary =>
    some (plannedFailedStatus d v context.startedAtUtc context.completedAtUtc failureSummary)
  | .cancelInFlight stepId =>
    some (plannedCanceledStatus d v context.startedAtUtc context.completedAtUtc stepId)
  | .noExecution | .unsupportedRuntimeCondition _ => none

section
variable (h : Stampable (selectedRoute d v) (v.plan.executionPlanId, v.stablePlanHash)
  context.startedAtUtc context.completedAtUtc)
include h

theorem Stampable.plannedAdmitted :
    (plannedAdmittedStatus d v context.coordinatedAtUtc).validate = .ok () := by
  have hsize : "execution admitted and bounded plan is ready to start".utf8ByteSize = 53 :=
    utf8ByteSize_of_chars (by decide)
  have hfit : isBoundedText "execution admitted and bounded plan is ready to start" = true :=
    isBoundedText_iff.mpr (by omega)
  exact ExecutionStatus.validate_eq_ok.mpr ⟨⟨rfl, rfl, rfl, hfit⟩, h.admittedFields _ _⟩

theorem Stampable.plannedInProgress {stepId : String} (hid : isValidStepId stepId = true) :
    (plannedInProgressStatus d v context.startedAtUtc stepId).validate = .ok () := by
  have hsize : "executing declared step ".utf8ByteSize = 24 := utf8ByteSize_of_chars (by decide)
  have hfit : isBoundedText ("executing declared step " ++ stepId) = true := by
    have := isValidStepId_size hid
    exact (isBoundedText_append hsize (by omega)).mpr (by omega)
  obtain ⟨hlinked, hhash, htimes, hstate⟩ := h.inProgressFields stepId
  exact ExecutionStatus.validate_eq_ok.mpr
    ⟨⟨hid, rfl, rfl, hfit⟩, hlinked, hhash, htimes, hstate⟩

theorem Stampable.courseEnd_fields {directive : CoordinationDirective} {final : ExecutionStatus}
    (hfinal : courseEnd d v context directive = some final) : FieldsFit final := by
  have ho := h.ordered
  have hposture : d.resolvedApprovalPosture = .policyPreapproved ∨
      d.resolvedApprovalPosture = .executeAllowed := h.posture
  cases directive <;> cases hfinal <;> refine ⟨rfl, h.hash, ?_, ?_⟩
  all_goals
    first
    | simpa [validateState, requireAdmittedPosture, requirePosture, requirePlanLink, requireNone,
        requireSome, plannedCompletedStatus, plannedFailedStatus, plannedCanceledStatus,
        plannedStatus, decisionStatus, seq_eq_ok] using hposture
    | simp [validateTimes, plannedCompletedStatus, plannedFailedStatus, plannedCanceledStatus,
        plannedStatus, decisionStatus, seq_eq_ok, ho]

end

theorem courseEnd_texts {declared through : List String} {directive : CoordinationDirective}
    {state : Option ExecutionState} {final : ExecutionStatus}
    (hc : Course declared directive through state)
    (hids : ∀ stepId ∈ declared, isValidStepId stepId = true)
    (hfinal : courseEnd d v context directive = some final) : TextsFit final := by
  cases hc with
  | notStarted => cases hfinal
  | completed =>
    cases hfinal
    have hsize : "execution completed for all declared plan steps".utf8ByteSize = 47 :=
      utf8ByteSize_of_chars (by decide)
    have hfit : isBoundedText "execution completed for all declared plan steps" = true :=
      isBoundedText_iff.mpr (by omega)
    exact ⟨rfl, hfit, rfl, hfit⟩
  | failed _ _ hfit =>
    cases hfinal
    exact ⟨rfl, rfl, hfit, hfit⟩
  | @canceled pre post stepId he =>
    cases hfinal
    have hsize : "execution canceled during declared step ".utf8ByteSize = 40 :=
      utf8ByteSize_of_chars (by decide)
    have hid := isValidStepId_size (hids stepId (by simp [he]))
    exact ⟨rfl, rfl, rfl, (isBoundedText_append hsize (by omega)).mpr (by omega)⟩

theorem courseEnd_state {declared through : List String} {directive : CoordinationDirective}
    {state : Option ExecutionState} (hc : Course declared directive through state) :
    (courseEnd d v context directive).map (fun status => (status.state, status.currentStep)) =
      state.map fun state => (state, none) := by
  cases hc <;> rfl

/-! ## Steps through a declared one -/

theorem findStep_eq_idxOf? (stepId : String) :
    (v.plan.steps.findIdx? fun step => step.stepId == stepId) =
      (v.plan.steps.map (·.stepId)).idxOf? stepId := by
  rw [List.idxOf?, List.findIdx?_map]
  rfl

theorem declaredSteps_split {pre post : List String} {stepId : String}
    (he : v.plan.steps.map (·.stepId) = pre ++ stepId :: post) (hpre : stepId ∉ pre)
    (message : String) : declaredStepsThrough v stepId message = .ok (pre ++ [stepId]) := by
  rw [declaredStepsThrough, findStep_eq_idxOf?, he, idxOf?_split hpre]
  refine congrArg Except.ok ?_
  rw [List.map_take, he, List.append_cons]
  exact List.take_left' (by simp)

theorem declaredSteps_missing {stepId : String} (h : stepId ∉ v.plan.steps.map (·.stepId))
    (message : String) : declaredStepsThrough v stepId message =
      .error (contractInvalid message) := by
  rw [declaredStepsThrough, findStep_eq_idxOf?, List.idxOf?_eq_none_iff.mpr h]

/-! ## Admitted decisions -/

/-- The steps of a course and its last status can be shown. -/
theorem inProgress_then_end (admitted : ValidatedExecutionStatus) {stepIds : List String}
    {final : ExecutionStatus}
    (hids : ∀ stepId ∈ stepIds,
      (plannedInProgressStatus d v context.startedAtUtc stepId).validate = .ok ())
    (hfinal : final.validate = .ok ()) :
    ∃ trace, (buildInProgressStatuses d v stepIds context.startedAtUtc >>= fun inProgress =>
        emitStatus final >>= fun last =>
          ExecutionTrace.new (admitted :: inProgress ++ [last])) = .ok trace ∧
      trace.statuses.map (·.status) = admitted.status ::
        stepIds.map (plannedInProgressStatus d v context.startedAtUtc) ++ [final] := by
  obtain ⟨inProgress, hin⟩ := mapM_emitStatus_of_valid hids
  refine ⟨_, bind_eq_ok.mpr ⟨inProgress, hin, bind_eq_ok.mpr ⟨_, emitStatus_of_valid hfinal,
    traceNew_of_ne (List.cons_ne_nil _ _)⟩⟩, ?_⟩
  simp [mapM_emitStatus_ok hin]

/-- A course is carried out. -/
theorem coordinateAdmittedRoute_of_course {directive : CoordinationDirective} {through : List String}
    {state : Option ExecutionState}
    (hc : Course (v.plan.steps.map (·.stepId)) directive through state)
    (h : Stampable (selectedRoute d v) (v.plan.executionPlanId, v.stablePlanHash)
      context.startedAtUtc context.completedAtUtc)
    (hs : SchemaShaped v.plan) :
    ∃ trace, coordinateAdmittedRoute d v directive context = .ok trace ∧
      trace.statuses.map (·.status) = plannedAdmittedStatus d v context.coordinatedAtUtc ::
        through.map (plannedInProgressStatus d v context.startedAtUtc) ++
        (courseEnd d v context directive).toList := by
  have hids : ∀ stepId ∈ v.plan.steps.map (·.stepId), isValidStepId stepId = true := by
    intro stepId hmem
    obtain ⟨step, hstep, rfl⟩ := List.mem_map.mp hmem
    exact hs.stepIds step hstep
  have hin : ∀ stepId ∈ through,
      (plannedInProgressStatus d v context.startedAtUtc stepId).validate = .ok () :=
    fun stepId hmem => h.plannedInProgress (hids stepId (hc.declared hmem))
  have hend : ∀ final, courseEnd d v context directive = some final → final.validate = .ok () :=
    fun final hfinal => ExecutionStatus.validate_eq_ok.mpr
      ⟨courseEnd_texts hc hids hfinal, h.courseEnd_fields hfinal⟩
  have hadmitted : buildAdmittedNotStartedStatus d v context.coordinatedAtUtc =
      .ok ⟨_, h.plannedAdmitted⟩ := emitStatus_of_valid _
  cases hc with
  | notStarted =>
    exact ⟨_, bind_eq_ok.mpr ⟨_, hadmitted, traceNew_of_ne (List.cons_ne_nil _ _)⟩, rfl⟩
  | completed =>
    obtain ⟨trace, htrace, hstatuses⟩ := inProgress_then_end ⟨_, h.plannedAdmitted⟩ hin
      (hend _ rfl)
    exact ⟨trace, bind_eq_ok.mpr ⟨_, hadmitted, htrace⟩, hstatuses⟩
  | failed he hpre hfit =>
    obtain ⟨trace, htrace, hstatuses⟩ := inProgress_then_end ⟨_, h.plannedAdmitted⟩ hin
      (hend _ rfl)
    refine ⟨trace, bind_eq_ok.mpr ⟨_, hadmitted, ?_⟩, hstatuses⟩
    exact seq_eq_ok.mpr ⟨require_eq_ok.mpr hfit,
      bind_eq_ok.mpr ⟨_, declaredSteps_split he hpre _, htrace⟩⟩
  | canceled he hpre =>
    obtain ⟨trace, htrace, hstatuses⟩ := inProgress_then_end ⟨_, h.plannedAdmitted⟩ hin
      (hend _ rfl)
    exact ⟨trace, bind_eq_ok.mpr ⟨_, hadmitted,
      bind_eq_ok.mpr ⟨_, declaredSteps_split he hpre _, htrace⟩⟩, hstatuses⟩

/-- A directive without a course is an error. -/
theorem coordinateAdmittedRoute_of_refused {directive : CoordinationDirective}
    (hr : directive.Refused (v.plan.steps.map (·.stepId)))
    (h : Stampable (selectedRoute d v) (v.plan.executionPlanId, v.stablePlanHash)
      context.startedAtUtc context.completedAtUtc) :
    ∃ message, coordinateAdmittedRoute d v directive context =
      .error (contractInvalid message) := by
  have hadmitted : buildAdmittedNotStartedStatus d v context.coordinatedAtUtc =
      .ok ⟨_, h.plannedAdmitted⟩ := emitStatus_of_valid _
  rw [coordinateAdmittedRoute, hadmitted]
  cases directive with
  | noExecution => exact hr.elim
  | completeDeclaredPlan => exact hr.elim
  | failAtDeclaredStep stepId failureSummary =>
    cases hfit : isBoundedText failureSummary with
    | false => exact ⟨_, seq_of_error (by rw [validateRequiredSummary, require, hfit]; rfl)⟩
    | true =>
      have hmem := hr.resolve_right (not_not.mpr (isBoundedText_iff.mp hfit))
      refine ⟨undeclaredStep, (seq_of_ok (require_eq_ok.mpr hfit)).trans ?_⟩
      rw [declaredSteps_missing hmem]
      rfl
  | cancelInFlight stepId =>
    refine ⟨undeclaredStep, ?_⟩
    simp only [declaredSteps_missing hr]
    rfl
  | unsupportedRuntimeCondition summary =>
    cases hfit : isBoundedText summary with
    | false => exact ⟨_, seq_of_error (by rw [validateRequiredSummary, require, hfit]; rfl)⟩
    | true => exact ⟨_, seq_of_ok (require_eq_ok.mpr hfit)⟩

theorem plannedStatuses_states {through : List String} {directive : CoordinationDirective}
    {state : Option ExecutionState} {trace : ExecutionTrace}
    (hc : Course (v.plan.steps.map (·.stepId)) directive through state)
    (h : trace.statuses.map (·.status) = plannedAdmittedStatus d v context.coordinatedAtUtc ::
      through.map (plannedInProgressStatus d v context.startedAtUtc) ++
      (courseEnd d v context directive).toList) :
    traceStates trace = courseStates through state := by
  have hmap := congrArg (List.map fun status : ExecutionStatus =>
    (status.state, status.currentStep)) h
  have hend := congrArg Option.toList (@courseEnd_state d v context _ _ _ _ hc)
  rw [Option.toList_map, Option.toList_map] at hend
  rw [List.map_map, List.map_append, hend] at hmap
  simpa [traceStates, courseStates, Function.comp_def, plannedAdmittedStatus,
    plannedInProgressStatus, plannedStatus, decisionStatus] using hmap

theorem plannedStatuses_planned {through : List String} {directive : CoordinationDirective}
    {trace : ExecutionTrace}
    (h : trace.statuses.map (·.status) = plannedAdmittedStatus d v context.coordinatedAtUtc ::
      through.map (plannedInProgressStatus d v context.startedAtUtc) ++
      (courseEnd d v context directive).toList) :
    ∀ status ∈ trace.statuses, PlanStamped d v status.status := by
  intro status hmem
  have hstatus := List.mem_map_of_mem (f := fun s : ValidatedExecutionStatus => s.status) hmem
  rw [h, List.mem_append, List.mem_cons] at hstatus
  rcases hstatus with (hfirst | hstep) | hlast
  · rw [hfirst]
    exact ⟨rfl, rfl, rfl, rfl, rfl⟩
  · obtain ⟨stepId, -, hstep⟩ := List.mem_map.mp hstep
    rw [← hstep]
    exact ⟨rfl, rfl, rfl, rfl, rfl⟩
  · cases directive <;> simp only [courseEnd, Option.toList_some, Option.toList_none,
      List.mem_singleton, List.not_mem_nil] at hlast
    all_goals
      rw [hlast]
      exact ⟨rfl, rfl, rfl, rfl, rfl⟩

end

end ExecutionService

/-! ## Accepted inputs -/

section
variable {d : RouteDecision} {validatedPlan : Option ValidatedExecutionPlan}
  {directive : CoordinationDirective} {context : CoordinationContext} {input : CoordinationInput}

/-- The input of a decision that is not admitted asks for no execution. -/
theorem CoordinationInput.new_resting (h : new d validatedPlan directive context = .ok input)
    (hp : d.resolvedApprovalPosture.admitted = false) : directive = .noExecution := by
  have hdirective : directive.requiresAdmittedExecution = false := by
    rw [new, seq_eq_ok, seq_eq_ok] at h
    obtain ⟨-, hplan, -⟩ := h
    cases hpos : d.resolvedApprovalPosture <;> cases validatedPlan <;>
      simp [validatePlanAndDirective, hpos, seq_eq_ok, ApprovalPosture.admitted] at hplan hp
    all_goals simp [hplan]
  cases directive <;> first | rfl | cases hdirective

/-- The input of an admitted decision has a plan. -/
theorem CoordinationInput.new_admitted (h : new d validatedPlan directive context = .ok input)
    (hp : d.resolvedApprovalPosture.admitted = true) : ∃ v, validatedPlan = some v := by
  rw [new, seq_eq_ok, seq_eq_ok] at h
  obtain ⟨-, hplan, -⟩ := h
  cases validatedPlan with
  | some v => exact ⟨v, rfl⟩
  | none => cases hpos : d.resolvedApprovalPosture <;>
      simp [validatePlanAndDirective, hpos, ApprovalPosture.admitted] at hplan hp

namespace ExecutionService

variable {digest : PlanDigest} {utcNow : TimestampUtc} {capabilities : CapabilityRegistry}
  {resolution : RouteResolutionInput} {resolutionContext : RouteResolutionContext}

/-- The coordinator never panics. It refuses exactly the directives without a course;
otherwise a decision that is not admitted rests in one status, and an admitted one
shows the course of its directive. -/
theorem coordinate_law
    (hr : ApprovalPostureResolver.resolve resolution resolutionContext = .ok d)
    (hascii : ∀ c ∈ d.operatorVisibleSummary.toList, c.toNat < 128)
    (hplan : ∀ v, validatedPlan = some v → SchemaShaped v.plan ∧
      ExecutionPlanValidator.validate digest utcNow v.plan capabilities = .ok v)
    (hnew : CoordinationInput.new d validatedPlan directive context = .ok input)
    (ho : context.startedAtUtc ≤ context.completedAtUtc) :
    Returns (coordinate input) ∧
    ((∃ e, coordinate input = .error e) ↔ directive.Refused (declaredStepIds validatedPlan)) ∧
    ∀ trace, coordinate input = .ok trace →
      (d.resolvedApprovalPosture.admitted = false →
        ∃ status, trace.statuses = [status] ∧ Resting d status.status) ∧
      (d.resolvedApprovalPosture.admitted = true → ∃ v through final, validatedPlan = some v ∧
        Course (declaredStepIds validatedPlan) directive through final ∧
        traceStates trace = courseStates through final ∧
        ∀ status ∈ trace.statuses, PlanStamped d v status.status) := by
  rw [CoordinationInput.new_fields hnew]
  cases hp : d.resolvedApprovalPosture.admitted with
  | false =>
    have hsummary := operatorSummary_bounded (ApprovalPostureResolver.resolve_kept hr) hascii
    obtain ⟨trace, status, hok, hone, hresting⟩ := coordinate_resting validatedPlan directive
      context hp hsummary
    rw [hok, CoordinationInput.new_resting hnew hp]
    refine ⟨returns_ok trace, iff_of_false (by simp) id, fun trace' htrace => ⟨fun _ => ?_, ?_⟩⟩
    · cases htrace
      exact ⟨status, hone, hresting⟩
    · rintro ⟨⟩
  | true =>
    obtain ⟨v, rfl⟩ := CoordinationInput.new_admitted hnew hp
    obtain ⟨hshaped, hvalid⟩ := hplan v rfl
    have hst : Stampable (selectedRoute d v) (v.plan.executionPlanId, v.stablePlanHash)
        context.startedAtUtc context.completedAtUtc := by
      refine ⟨hp, ?_, ho⟩
      rw [(ExecutionPlanValidator.validate_eq_ok.mp hvalid).2]
      exact digest.wellFormed _
    rw [coordinate_of_admitted hp]
    rcases course_or_refused (v.plan.steps.map (·.stepId)) directive with
      ⟨through, final, hc⟩ | hrefused
    · obtain ⟨trace, hok, hstatuses⟩ := coordinateAdmittedRoute_of_course hc hst hshaped
      rw [hok]
      refine ⟨returns_ok trace, iff_of_false (by simp) hc.not_refused,
        fun trace' htrace => ⟨?_, fun _ => ?_⟩⟩
      · rintro ⟨⟩
      · cases htrace
        exact ⟨v, through, final, rfl, hc, plannedStatuses_states hc hstatuses,
          plannedStatuses_planned hstatuses⟩
    · obtain ⟨message, herror⟩ := coordinateAdmittedRoute_of_refused hrefused hst
      rw [herror]
      refine ⟨?_, iff_of_true ⟨_, rfl⟩ hrefused, ?_⟩
      · rintro text ⟨⟩
      · rintro trace ⟨⟩

end ExecutionService

end

/-! The two-step plan, failed at its second step. -/

namespace Fixture

def preapproved : RouteResolutionInput where
  request := request
  requesterTrustOutcome := .ok envelope
  policyOutcome := .ok policy
  capabilityAdmissionOutcome := .ok record

theorem decision_resolved : ApprovalPostureResolver.resolve preapproved
    { context with decidedAtUtc := at2030 300 } = .ok decision := by
  decide +kernel

theorem decision_ascii : ∀ c ∈ decision.operatorVisibleSummary.toList, c.toNat < 128 :=
  forall_mem_of_all (by decide +kernel)

end Fixture

theorem ExecutionService.coordinate_law_failed : ∃ trace,
    coordinate ⟨Fixture.decision, some Fixture.validatedTwoStepPlan,
      .failAtDeclaredStep "step_b" "the disk is full", Fixture.coordination⟩ = .ok trace ∧
    traceStates trace = [(.admittedNotStarted, none), (.inProgress, some "step_a"),
      (.inProgress, some "step_b"), (.failed, none)] := by
  have hcourse : Course (declaredStepIds (some Fixture.validatedTwoStepPlan))
      (.failAtDeclaredStep "step_b" "the disk is full") (["step_a"] ++ ["step_b"])
      (some .failed) :=
    .failed rfl (by decide) (by decide +kernel)
  obtain ⟨-, hrefused, htrace⟩ := coordinate_law Fixture.decision_resolved Fixture.decision_ascii
    (by
      rintro v ⟨⟩
      exact ⟨Fixture.twoStepPlan_shaped, Fixture.twoStepPlan_validated⟩)
    (show CoordinationInput.new Fixture.decision (some Fixture.validatedTwoStepPlan)
      (.failAtDeclaredStep "step_b" "the disk is full") Fixture.coordination = .ok _ from rfl)
    (by decide)
  cases h : coordinate ⟨Fixture.decision, some Fixture.validatedTwoStepPlan,
      .failAtDeclaredStep "step_b" "the disk is full", Fixture.coordination⟩ with
  | error e => exact (hcourse.not_refused (hrefused.mp ⟨e, h⟩)).elim
  | ok trace =>
    obtain ⟨v, through, final, -, hc, hstates, -⟩ := (htrace trace h).2 rfl
    obtain ⟨rfl, rfl⟩ := hcourse.unique hc
    exact ⟨trace, rfl, hstates⟩

end FaLocal
