import FaLocal.Pipeline

/-!
# What the recorder accepts

A record fails only on the words of its summary: every other rule of a forensic
event holds of a denial and of a valid status of an admitted run. Without an
export adapter a run records all of its statuses, or the first unfit one stops it.
-/
namespace FaLocal

open Words (mentionsAny)

namespace ForensicService

/-- The words that the recorder forbids in a state. -/
def disallowedWords (executionState : ExecutionState) (degradedSubtype : Option DegradedSubtype) :
    List String :=
  (if executionState = .completed ∨ executionState = .completedWithConstraints ∨
    executionState = .partialSuccess then [] else successWords) ++
  (if executionState = .failed then [] else failureWords) ++
  (if executionState = .canceled then [] else cancellationWords) ++
  (if degradedSubtype.isNone then degradedWords else []) ++
  ForensicEvent.narrationWords

/-- A summary that the recorder takes for a state. -/
structure Recordable (summary : String) (executionState : ExecutionState)
    (degradedSubtype : Option DegradedSubtype) : Prop where
  bounded : isBoundedText summary = true
  plain : mentionsAny summary (disallowedWords executionState degradedSubtype) = false

theorem recordable_iff {summary : String} {executionState : ExecutionState}
    {degradedSubtype : Option DegradedSubtype} :
    Recordable summary executionState degradedSubtype ↔
      validateSummaryTruthfulness summary executionState degradedSubtype = .ok () ∧
        ForensicEvent.mentionsSemanticOrWorkflowNarration summary = false := by
  have hsplit : Recordable summary executionState degradedSubtype ↔
      isBoundedText summary = true ∧
        mentionsAny summary (disallowedWords executionState degradedSubtype) = false :=
    ⟨fun h => ⟨h.bounded, h.plain⟩, fun h => ⟨h.1, h.2⟩⟩
  rw [hsplit, disallowedWords]
  simp only [Words.mentionsAny_append_words, Bool.or_eq_false_iff, validateSummaryTruthfulness,
    validateBoundedDetail, seq_eq_ok, require_eq_ok, Bool.not_eq_true', Bool.and_eq_false_iff,
    mentionsSuccessOrCompletion, mentionsFailure, mentionsCancellation,
    mentionsDegradedOrConstraints, ForensicEvent.mentionsSemanticOrWorkflowNarration]
  cases executionState <;> cases degradedSubtype <;> simp [mentionsAny] <;> tauto

/-! ## Events -/

/-- The event that `record_event` builds. -/
def recordedEvent (forensicEventId : ForensicEventId) (input : ForensicRecordInput) :
    ForensicEvent :=
  let record := buildForensicRecord input.kind
  { forensicEventId := forensicEventId
    correlationId := record.correlationId
    requestId := record.requestId
    eventType := record.eventType
    routeDecisionId := record.routeDecisionId
    executionPlanId := record.executionPlanId
    stablePlanHash := record.stablePlanHash
    reviewPackageId := record.reviewPackageId
    timestampUtc := input.context.recordedAtUtc
    currentPosture := record.currentPosture
    executionState := record.executionState
    degradedSubtype := record.degradedSubtype
    summary := record.summary
    redactionLevel := input.redactionLevel
    payloadMinimized := true }

theorem recordEvent_eq (forensicEventId : ForensicEventId) (input : ForensicRecordInput) :
    recordEvent forensicEventId input = (do
      let event := recordedEvent forensicEventId input
      validateSummaryTruthfulness event.summary event.executionState event.degradedSubtype
      event.validate
      ValidatedForensicEvent.new event) := by
  simp only [recordEvent, ForensicEvent.new, recordedEvent, bind_assoc, pure_bind]

theorem new_eq_ok {event : ForensicEvent} {v : ValidatedForensicEvent} :
    ValidatedForensicEvent.new event = .ok v ↔ v.event = event := by
  unfold ValidatedForensicEvent.new
  constructor
  · intro h
    split at h
    · cases h
      rfl
    · cases h
  · rintro rfl
    split
    · rfl
    · rename_i e he
      simp [v.valid] at he

theorem recordEvent_eq_ok {forensicEventId : ForensicEventId} {input : ForensicRecordInput}
    {v : ValidatedForensicEvent} :
    recordEvent forensicEventId input = .ok v ↔
      validateSummaryTruthfulness (recordedEvent forensicEventId input).summary
        (recordedEvent forensicEventId input).executionState
        (recordedEvent forensicEventId input).degradedSubtype = .ok () ∧
      v.event = recordedEvent forensicEventId input := by
  rw [recordEvent_eq]
  simp only [seq_eq_ok, new_eq_ok]
  constructor
  · rintro ⟨ht, -, hv⟩
    exact ⟨ht, hv⟩
  · rintro ⟨ht, hv⟩
    exact ⟨ht, hv ▸ v.valid, hv⟩

/-- Where only the words can fail, an event is recorded exactly for recordable summaries. -/
theorem recordEvent_ok_iff {forensicEventId : ForensicEventId} {input : ForensicRecordInput}
    (h : (recordedEvent forensicEventId input).validate = .ok () ↔
      isBoundedText (recordedEvent forensicEventId input).summary = true ∧
        ForensicEvent.mentionsSemanticOrWorkflowNarration
          (recordedEvent forensicEventId input).summary = false) :
    (∃ v, recordEvent forensicEventId input = .ok v) ↔
      Recordable (recordedEvent forensicEventId input).summary
        (recordedEvent forensicEventId input).executionState
        (recordedEvent forensicEventId input).degradedSubtype := by
  rw [recordable_iff]
  constructor
  · rintro ⟨v, hv⟩
    obtain ⟨ht, he⟩ := recordEvent_eq_ok.mp hv
    exact ⟨ht, (h.mp (he ▸ v.valid)).2⟩
  · rintro ⟨ht, hn⟩
    have hb := (recordable_iff.mpr ⟨ht, hn⟩).bounded
    exact ⟨⟨_, h.mpr ⟨hb, hn⟩⟩, recordEvent_eq_ok.mpr ⟨ht, rfl⟩⟩

/-- A denial without a plan breaks no rule but those about its words. -/
theorem denial_validate (forensicEventId : ForensicEventId) (routeDecision : RouteDecision)
    (redactionLevel : RedactionLevel) (context : ForensicRecordContext) :
    (recordedEvent forensicEventId ⟨.denialIssued routeDecision, redactionLevel, context⟩).validate =
        .ok () ↔
      isBoundedText routeDecision.operatorVisibleSummary = true ∧
        ForensicEvent.mentionsSemanticOrWorkflowNarration
          routeDecision.operatorVisibleSummary = false := by
  simp [ForensicEvent.validate, recordedEvent, buildForensicRecord, seq_eq_ok,
    ForensicEvent.validateRequiredSummary, ForensicEvent.validateOptionalPlanLink,
    ForensicEvent.validateReviewPackageLinkage, ForensicEvent.validatePostureStatePair,
    ForensicEvent.validateDegradedSubtype, ForensicEvent.validateEventType,
    ForensicEvent.requirePosture, ForensicEvent.requireState, ForensicEvent.requireNone]

theorem isExplicitFallbackSubtype_iff {degradedSubtype : Option DegradedSubtype} :
    isExplicitFallbackSubtype degradedSubtype = true ↔
      degradedSubtype = some .degradedFallbackEquivalent ∨
        degradedSubtype = some .degradedFallbackLimited := by
  cases degradedSubtype with
  | none => simp [isExplicitFallbackSubtype]
  | some subtype => cases subtype <;> simp [isExplicitFallbackSubtype]

/-- A status that belongs to an admitted decision. -/
structure Observable (routeDecision : RouteDecision) (status : ExecutionStatus) : Prop where
  requestId : status.requestId = routeDecision.requestId
  correlationId : status.correlationId = routeDecision.correlationId
  posture : status.currentPosture = routeDecision.resolvedApprovalPosture
  state : status.state ∈ admittedStates

/-- Nor does a valid status of an admitted state. -/
theorem status_validate (forensicEventId : ForensicEventId) (routeDecision : RouteDecision)
    (redactionLevel : RedactionLevel) (context : ForensicRecordContext)
    (status : ValidatedExecutionStatus) (hs : status.status.state ∈ admittedStates) :
    (recordedEvent forensicEventId
        ⟨.executionStatusObserved routeDecision status, redactionLevel, context⟩).validate =
        .ok () ↔
      isBoundedText status.status.truthfulUserVisibleSummary = true ∧
        ForensicEvent.mentionsSemanticOrWorkflowNarration
          status.status.truthfulUserVisibleSummary = false := by
  obtain ⟨-, hf⟩ := ExecutionStatus.validate_eq_ok.mp status.valid
  have hstate := hf.state
  have hlink := hf.linked
  have hhash := hf.hash
  simp only [ForensicEvent.validate, recordedEvent, buildForensicRecord, seq_eq_ok,
    ForensicEvent.validateRequiredSummary, ForensicEvent.validateOptionalPlanLink,
    ForensicEvent.validateReviewPackageLinkage, ForensicEvent.validateEventType,
    ForensicEvent.requirePosture, ForensicEvent.requireState, ForensicEvent.requireSome,
    require_eq_ok]
  cases hst : status.status.state <;> simp [hst, admittedStates] at hs
  all_goals
    simp [ExecutionStatus.validateState, hst, seq_eq_ok, ExecutionStatus.requireAdmittedPosture,
      ExecutionStatus.requirePosture, ExecutionStatus.requirePlanLink,
      ExecutionStatus.requireNothingStarted, ExecutionStatus.requireNone,
      ExecutionStatus.requireSome] at hstate
    simp [hlink, hhash, hstate, admittedStates, ForensicEvent.validatePostureStatePair,
      ForensicEvent.requirePosture, ForensicEvent.validateDegradedSubtype, ForensicEvent.requireSome,
      ForensicEvent.requireNone, isExplicitFallbackSubtype_iff]

theorem denial_recorded_iff {forensicEventId : ForensicEventId} {routeDecision : RouteDecision}
    {redactionLevel : RedactionLevel} {context : ForensicRecordContext} :
    (∃ v, recordEvent forensicEventId ⟨.denialIssued routeDecision, redactionLevel, context⟩ =
        .ok v) ↔
      Recordable routeDecision.operatorVisibleSummary .denied none :=
  recordEvent_ok_iff (denial_validate _ _ _ _)

theorem status_recorded_iff {forensicEventId : ForensicEventId} {routeDecision : RouteDecision}
    {redactionLevel : RedactionLevel} {context : ForensicRecordContext}
    {status : ValidatedExecutionStatus} (hs : status.status.state ∈ admittedStates) :
    (∃ v, recordEvent forensicEventId
        ⟨.executionStatusObserved routeDecision status, redactionLevel, context⟩ = .ok v) ↔
      Recordable status.status.truthfulUserVisibleSummary status.status.state
        status.status.degradedSubtype :=
  recordEvent_ok_iff (status_validate _ _ _ _ _ hs)

/-- The decision of a denied run may be recorded. -/
theorem validateRecordKind_denied {routeDecision : RouteDecision}
    (hf : ApprovalPostureResolver.FlagsFit routeDecision)
    (hp : routeDecision.resolvedApprovalPosture = .denied) :
    validateRecordKind (.denialIssued routeDecision) = .ok () := by
  simp [validateRecordKind, validateRouteDecisionSurface, seq_eq_ok, hp,
    routeDecisionSurface_eq_ok.mpr hf]

theorem Observable.kind {routeDecision : RouteDecision} {status : ValidatedExecutionStatus}
    (h : Observable routeDecision status.status)
    (hf : ApprovalPostureResolver.FlagsFit routeDecision)
    (hp : routeDecision.resolvedApprovalPosture.admitted = true) :
    validateRecordKind (.executionStatusObserved routeDecision status) = .ok () := by
  simp [validateRecordKind, validateRouteDecisionSurface, seq_eq_ok, status.valid,
    routeDecisionSurface_eq_ok.mpr hf, hp, h.requestId, h.correlationId, h.posture, h.state]

end ForensicService

/-! ## Records of a run -/

namespace ExecutionPipelineService

open ForensicService

variable {env : RunEnvironment} {routeDecision : RouteDecision} {index : Nat}
  {kind : ForensicRecordKind} {context : ForensicRecordContext}
  {log out : List (WorldEvent BuiltAdapter)}

/-- Without an export adapter a record touches nothing outside. -/
theorem record_apply (env : RunEnvironment) (index : Nat) (redactionLevel : RedactionLevel)
    (context : ForensicRecordContext) (log : List (WorldEvent BuiltAdapter))
    (hk : validateRecordKind kind = .ok ()) :
    record env none index kind redactionLevel context log =
      ((recordEvent (env.freshEventId index) ⟨kind, redactionLevel, context⟩).map
        fun event => { event := event, exportReference := none }, log) := by
  have hn : ForensicRecordInput.new kind redactionLevel context =
      .ok ⟨kind, redactionLevel, context⟩ := by
    simp [ForensicRecordInput.new, hk, bind, Except.bind, pure, Except.pure]
  rw [record, hn, Traced.lift_ok_bind]
  cases he : recordEvent (env.freshEventId index) ⟨kind, redactionLevel, context⟩ with
  | error e => rfl
  | ok event => rfl

/-- The record of a status. -/
structure Observed (status : ValidatedExecutionStatus) (outcome : ForensicRecordOutcome) :
    Prop where
  eventType : outcome.event.event.eventType = .executionStatusObserved
  state : outcome.event.event.executionState = status.status.state
  posture : outcome.event.event.currentPosture = status.status.currentPosture
  degradedSubtype : outcome.event.event.degradedSubtype = status.status.degradedSubtype
  planId : outcome.event.event.executionPlanId = status.status.executionPlanId
  planHash : outcome.event.event.stablePlanHash = status.status.stablePlanHash
  exported : outcome.exportReference = none

/-- The recorder takes the summary of a status. -/
def StatusRecordable (status : ExecutionStatus) : Prop :=
  Recordable status.truthfulUserVisibleSummary status.state status.degradedSubtype

section
variable (hf : ApprovalPostureResolver.FlagsFit routeDecision)
  (hp : routeDecision.resolvedApprovalPosture.admitted = true)
include hf hp

theorem record_status_ok {status : ValidatedExecutionStatus}
    (hs : Observable routeDecision status.status) (hr : StatusRecordable status.status)
    (env : RunEnvironment) (index : Nat) (context : ForensicRecordContext)
    (log : List (WorldEvent BuiltAdapter)) :
    ∃ outcome, record env none index (.executionStatusObserved routeDecision status) .linkageOnly
      context log = (.ok outcome, log) ∧ Observed status outcome := by
  obtain ⟨event, hev⟩ := (status_recorded_iff hs.state).mpr hr
  have he := (recordEvent_eq_ok.mp hev).2
  refine ⟨⟨event, none⟩, ?_, ?_⟩
  · rw [record_apply env index _ context log (hs.kind hf hp), hev]
    rfl
  · constructor <;> simp [he, recordedEvent, buildForensicRecord]

theorem recordable_of_record {status : ValidatedExecutionStatus} {outcome : ForensicRecordOutcome}
    (hs : Observable routeDecision status.status)
    (h : record env none index (.executionStatusObserved routeDecision status) .linkageOnly
      context log = (.ok outcome, out)) : StatusRecordable status.status ∧ out = log := by
  rw [record_apply env index _ context log (hs.kind hf hp)] at h
  cases hev : recordEvent (env.freshEventId index)
      ⟨.executionStatusObserved routeDecision status, .linkageOnly, context⟩ with
  | error e =>
    rw [hev] at h
    cases h
  | ok event =>
    rw [hev] at h
    cases h
    exact ⟨(status_recorded_iff hs.state).mp ⟨event, hev⟩, rfl⟩

/-- Recordable statuses are recorded one by one, in order. -/
theorem recordStatuses_ok {statuses : List ValidatedExecutionStatus}
    (hs : ∀ status ∈ statuses, Observable routeDecision status.status)
    (hr : ∀ status ∈ statuses, StatusRecordable status.status) (env : RunEnvironment)
    (context : ForensicRecordContext) (log : List (WorldEvent BuiltAdapter)) (index : Nat) :
    ∃ outcomes, recordStatuses env none routeDecision context index statuses log =
      (.ok outcomes, log) ∧ List.Forall₂ Observed statuses outcomes := by
  induction statuses generalizing index with
  | nil => exact ⟨[], rfl, .nil⟩
  | cons status rest ih =>
    obtain ⟨hs₁, hs₂⟩ := List.forall_mem_cons.mp hs
    obtain ⟨hr₁, hr₂⟩ := List.forall_mem_cons.mp hr
    obtain ⟨outcome, ho, hob⟩ := record_status_ok hf hp hs₁ hr₁ env index context log
    obtain ⟨outcomes, hos, hobs⟩ := ih hs₂ hr₂ (index + 1)
    refine ⟨outcome :: outcomes, ?_, .cons hob hobs⟩
    rw [recordStatuses, Traced.bind_of_ok ho, Traced.bind_of_ok hos]
    rfl

/-- Statuses that were all recorded were recordable. -/
theorem recordable_of_recordStatuses {statuses : List ValidatedExecutionStatus}
    {outcomes : List ForensicRecordOutcome}
    (hs : ∀ status ∈ statuses, Observable routeDecision status.status)
    (h : recordStatuses env none routeDecision context index statuses log = (.ok outcomes, out)) :
    ∀ status ∈ statuses, StatusRecordable status.status := by
  induction statuses generalizing index log outcomes out with
  | nil => simp
  | cons status rest ih =>
    obtain ⟨hs₁, hs₂⟩ := List.forall_mem_cons.mp hs
    obtain ⟨outcome, mid, ho, h⟩ := Traced.bind_eq_ok h
    obtain ⟨outcomes', mid', hos, -⟩ := Traced.bind_eq_ok h
    exact List.forall_mem_cons.mpr ⟨(recordable_of_record hf hp hs₁ ho).1, ih hs₂ hos⟩

end

end ExecutionPipelineService

end FaLocal
