import FaLocal.ContractSchema
import FaLocal.Status

/-!
# The schema of an execution status

A status as it is serialised, what `execution-status.schema.json` asks of it, and that this
is what its validation asks, but for the rules that the schema has no words for.
-/
namespace FaLocal

/-! ## Serialised statuses -/

def ExecutionStatus.toValue (times : DateTimes) (status : ExecutionStatus) : Value := .object [
  ("request_id", status.requestId.toValue),
  ("correlation_id", status.correlationId.toValue),
  ("execution_plan_id", optionValue UuidId.toValue status.executionPlanId),
  ("stable_plan_hash", optionValue .string status.stablePlanHash),
  ("current_posture", status.currentPosture.toValue),
  ("state", status.state.toValue),
  ("degraded_subtype", optionValue DegradedSubtype.toValue status.degradedSubtype),
  ("started_at_utc", optionValue (fun t => .string (times.text t)) status.startedAtUtc),
  ("updated_at_utc", .string (times.text status.updatedAtUtc)),
  ("completed_at_utc", optionValue (fun t => .string (times.text t)) status.completedAtUtc),
  ("current_step", optionValue .string status.currentStep),
  ("completion_summary", optionValue .string status.completionSummary),
  ("failure_summary", optionValue .string status.failureSummary),
  ("truthful_user_visible_summary", .string status.truthfulUserVisibleSummary)]

def ExecutionStatus.fromValue (times : TimeTexts) : Decoder ExecutionStatus := fun value => do
  let requestId ← Decoder.field "request_id" .uuid value
  let correlationId ← Decoder.field "correlation_id" .uuid value
  let executionPlanId ← Decoder.optionalField "execution_plan_id" .uuid value
  let stablePlanHash ← Decoder.optionalField "stable_plan_hash" .string value
  let currentPosture ← Decoder.field "current_posture" .approvalPosture value
  let state ← Decoder.field "state" .executionState value
  let degradedSubtype ← Decoder.optionalField "degraded_subtype" .degradedSubtype value
  let startedAtUtc ← Decoder.optionalField "started_at_utc" (.timestamp times) value
  let updatedAtUtc ← Decoder.field "updated_at_utc" (.timestamp times) value
  let completedAtUtc ← Decoder.optionalField "completed_at_utc" (.timestamp times) value
  let currentStep ← Decoder.optionalField "current_step" .string value
  let completionSummary ← Decoder.optionalField "completion_summary" .string value
  let failureSummary ← Decoder.optionalField "failure_summary" .string value
  let truthfulUserVisibleSummary ←
    Decoder.field "truthful_user_visible_summary" .string value
  return { requestId, correlationId, executionPlanId, stablePlanHash, currentPosture, state,
           degradedSubtype, startedAtUtc, updatedAtUtc, completedAtUtc, currentStep,
           completionSummary, failureSummary, truthfulUserVisibleSummary }

/-! ## The schema -/

namespace ExecutionStatusSchema

open Schema
open RouteDecisionSchema (uuidText approvalPosture degradedSubtype)

def properties (times : DateTimes) : List (String × Schema) := [
  ("request_id", uuidText),
  ("correlation_id", uuidText),
  ("execution_plan_id", nullable uuidText),
  ("stable_plan_hash", nullable hash),
  ("current_posture", approvalPosture),
  ("state", executionState),
  ("degraded_subtype", nullable degradedSubtype),
  ("started_at_utc", nullable (dateTime times)),
  ("updated_at_utc", dateTime times),
  ("completed_at_utc", nullable (dateTime times)),
  ("current_step", nullable stepId),
  ("completion_summary", nullable (text 1 160)),
  ("failure_summary", nullable (text 1 160)),
  ("truthful_user_visible_summary", text 1 160)]

/-- The `then` part of a state before an execution. -/
def nothingStarted (posture : Schema) (planId planHash : Schema) : List (String × Schema) := [
  ("current_posture", posture),
  ("execution_plan_id", planId),
  ("stable_plan_hash", planHash),
  ("degraded_subtype", null),
  ("started_at_utc", null),
  ("completed_at_utc", null),
  ("current_step", null),
  ("completion_summary", null),
  ("failure_summary", null)]

/-- The `then` part of an admitted execution. -/
def admitted (constrained : List (String × Schema)) : List (String × Schema) :=
  [("current_posture", admittedPosture),
    ("execution_plan_id", uuidText),
    ("stable_plan_hash", hash)] ++ constrained

def stateRules (times : DateTimes) : ExecutionState → List (String × Schema)
  | .denied => nothingStarted (enum ["denied"]) null null
  | .reviewRequired => nothingStarted (enum ["review_required"]) null null
  | .waitingExplicitApproval => nothingStarted (enum ["explicit_operator_approval"]) null null
  | .admittedNotStarted => nothingStarted admittedPosture uuidText hash
  | .inProgress => admitted [
      ("degraded_subtype", null),
      ("started_at_utc", dateTime times),
      ("completed_at_utc", null),
      ("current_step", stepId),
      ("completion_summary", null),
      ("failure_summary", null)]
  | .degraded => admitted [
      ("degraded_subtype", degradedSubtype),
      ("completed_at_utc", null),
      ("completion_summary", null),
      ("failure_summary", null)]
  | .partialSuccess => admitted [
      ("degraded_subtype", enum ["degraded_partial"]),
      ("started_at_utc", dateTime times),
      ("completed_at_utc", dateTime times),
      ("current_step", null),
      ("completion_summary", text 1 160),
      ("failure_summary", text 1 160)]
  | .completedWithConstraints => admitted [
      ("degraded_subtype", enum ["degraded_fallback_equivalent", "degraded_fallback_limited"]),
      ("started_at_utc", dateTime times),
      ("completed_at_utc", dateTime times),
      ("current_step", null),
      ("completion_summary", text 1 160),
      ("failure_summary", null)]
  | .completed => admitted [
      ("degraded_subtype", null),
      ("started_at_utc", dateTime times),
      ("completed_at_utc", dateTime times),
      ("current_step", null),
      ("completion_summary", text 1 160),
      ("failure_summary", null)]
  | .failed => admitted [
      ("degraded_subtype", null),
      ("started_at_utc", dateTime times),
      ("completed_at_utc", dateTime times),
      ("current_step", null),
      ("completion_summary", null),
      ("failure_summary", text 1 160)]
  | .canceled => admitted [
      ("degraded_subtype", null),
      ("completed_at_utc", dateTime times),
      ("current_step", null),
      ("completion_summary", null),
      ("failure_summary", null)]

/-- `execution-status.schema.json` -/
def executionStatus (times : DateTimes) : Schema :=
  allOf (object (properties times) :: ExecutionState.variants.map fun state =>
    ifConst "state" state.serdeName (stateRules times state))

end ExecutionStatusSchema

/-- `ExecutionStatus::load_contract_value` -/
def ExecutionStatus.loadContractValue (times : TimeTexts) : Value → Option ExecutionStatus :=
  loadContract (ExecutionStatusSchema.executionStatus times.toDateTimes)
    (ExecutionStatus.fromValue times)

/-! ## What the schema asks of a status -/

namespace ExecutionStatus

/-- Identifiers of the versions and times of the years that contracts can write. -/
structure Writable (status : ExecutionStatus) : Prop where
  requestId : status.requestId.Versioned
  correlationId : status.correlationId.Versioned
  executionPlanId : ∀ i ∈ status.executionPlanId, i.Versioned
  startedAtUtc : ∀ t ∈ status.startedAtUtc, FourDigitYear t
  updatedAtUtc : FourDigitYear status.updatedAtUtc
  completedAtUtc : ∀ t ∈ status.completedAtUtc, FourDigitYear t

end ExecutionStatus

namespace ExecutionStatusSchema

open Schema
open RouteDecisionSchema (uuidText approvalPosture degradedSubtype)

variable {times : TimeTexts} {status : ExecutionStatus}

/-- The properties of a writable status: its texts, its hash and its step. -/
structure PropertiesFit (status : ExecutionStatus) : Prop where
  hash : status.stablePlanHash.all isValidHash = true
  step : status.currentStep.all isValidStepId = true
  completion : status.completionSummary.all (fun s => text 1 160 (.string s)) = true
  failure : status.failureSummary.all (fun s => text 1 160 (.string s)) = true
  visible : text 1 160 (.string status.truthfulUserVisibleSummary) = true

theorem properties_nodup (times : DateTimes) : ((properties times).map Prod.fst).Nodup := by
  have hkeys : ["request_id", "correlation_id", "execution_plan_id", "stable_plan_hash",
      "current_posture", "state", "degraded_subtype", "started_at_utc", "updated_at_utc",
      "completed_at_utc", "current_step", "completion_summary", "failure_summary",
      "truthful_user_visible_summary"].Nodup := by
    decide
  exact hkeys

theorem properties_iff (htimes : times.Rfc3339) (h : status.Writable) :
    object (properties times.toDateTimes) (status.toValue times.toDateTimes) = true ↔
      PropertiesFit status := by
  rw [properties, ExecutionStatus.toValue]
  refine (object_iff (by exact rfl) (by exact properties_nodup _)).trans ?_
  have hrequest : uuidText status.requestId.toValue = true := h.requestId
  have hcorrelation : uuidText status.correlationId.toValue = true := h.correlationId
  simp only [List.forall₂_cons, hrequest, hcorrelation, nullable_ids h.executionPlanId,
    nullable_hash, RouteDecisionSchema.posture_accepted, executionState_accepted,
    nullable_subtypes, nullable_times htimes h.startedAtUtc,
    dateTime_text htimes h.updatedAtUtc, nullable_times htimes h.completedAtUtc, nullable_stepId,
    nullable_text, List.forall₂_nil_left_iff, and_true, true_and]
  constructor
  · rintro ⟨h₁, h₂, h₃, h₄, h₅⟩
    exact ⟨h₁, h₂, h₃, h₄, h₅⟩
  · intro h
    exact ⟨h.hash, h.step, h.completion, h.failure, h.visible⟩

/-- What the schema takes is writable. -/
theorem writable_of_accepted (htimes : times.Rfc3339)
    (h : executionStatus times.toDateTimes (status.toValue times.toDateTimes) = true) :
    status.Writable := by
  rw [executionStatus, allOf, List.all_cons, Bool.and_eq_true] at h
  have hobject := h.1
  rw [properties, ExecutionStatus.toValue] at hobject
  have hfields := (object_iff (by exact rfl) (by exact properties_nodup _)).mp hobject
  simp only [List.forall₂_cons] at hfields
  obtain ⟨hrequest, hcorrelation, hid, -, -, -, -, hstarted, hupdated, hcompleted, -⟩ := hfields
  exact ⟨hrequest, hcorrelation, ids_of_nullable hid, times_of_nullable htimes hstarted,
    (htimes.printable _).mp hupdated, times_of_nullable htimes hcompleted⟩

/-- The rule of a degraded status that the schema does not state. -/
def DegradedStartFits (status : ExecutionStatus) : Prop :=
  status.state = .degraded →
    if status.degradedSubtype = some .degradedPreStart ∨
        status.degradedSubtype = some .unavailableDependencyBlock then
      status.startedAtUtc = none ∧ status.currentStep = none
    else status.startedAtUtc.isSome = true

theorem validateDegraded_eq_ok : status.validateDegraded = .ok () ↔
    if status.degradedSubtype = some .degradedPreStart ∨
        status.degradedSubtype = some .unavailableDependencyBlock then
      status.startedAtUtc = none ∧ status.currentStep = none
    else status.startedAtUtc.isSome = true := by
  rw [ExecutionStatus.validateDegraded]
  cases status.degradedSubtype with
  | none => simp [ExecutionStatus.requireSome]
  | some subtype =>
    cases subtype <;> simp [ExecutionStatus.requireSome, ExecutionStatus.requireNone, seq_eq_ok]

theorem linked_of_none {β γ : Type} {o : Option β} {o' : Option γ} (h : o.isNone = true)
    (h' : o'.isNone = true) : o.isSome = o'.isSome := by
  rw [Option.isNone_iff_eq_none.mp h, Option.isNone_iff_eq_none.mp h']
  rfl

/-- What a conditional asks of its state is what the validation asks of it. -/
theorem stateRules_iff (htimes : times.Rfc3339) (h : status.Writable) (hfit : PropertiesFit status) :
    constrains (stateRules times.toDateTimes status.state) (status.toValue times.toDateTimes) =
        true ∧ DegradedStartFits status ↔
      status.executionPlanId.isSome = status.stablePlanHash.isSome ∧
        status.validateState = .ok () := by
  have hpartial : enum ["degraded_partial"]
      (optionValue DegradedSubtype.toValue status.degradedSubtype) =
      (status.degradedSubtype == some .degradedPartial) := by
    cases status.degradedSubtype with
    | none => rfl
    | some subtype => cases subtype <;> decide
  have hfallback : enum ["degraded_fallback_equivalent", "degraded_fallback_limited"]
      (optionValue DegradedSubtype.toValue status.degradedSubtype) =
      (status.degradedSubtype == some .degradedFallbackEquivalent ||
        status.degradedSubtype == some .degradedFallbackLimited) := by
    cases status.degradedSubtype with
    | none => rfl
    | some subtype => cases subtype <;> decide
  have hlinked : status.executionPlanId.isNone = true → status.stablePlanHash.isNone = true →
      status.executionPlanId.isSome = status.stablePlanHash.isSome := linked_of_none
  have hboth : status.executionPlanId.isSome = true → status.stablePlanHash.isSome = true →
      status.executionPlanId.isSome = status.stablePlanHash.isSome := by
    intro hid hhash
    rw [hid, hhash]
  -- both sides become conditions on which fields are there, in two orders
  cases hs : status.state
  all_goals
    simp only [stateRules, nothingStarted, admitted, List.cons_append, List.nil_append,
      constrains, List.all_cons, List.all_nil, Bool.and_true,
      ExecutionStatus.toValue, Value.get, List.lookup_cons, String.reduceBEq, Option.all_some,
      required_ids h.executionPlanId, required_hash hfit.hash, required_stepId hfit.step,
      required_text hfit.completion, required_text hfit.failure, required_subtypes,
      required_times htimes h.startedAtUtc, required_times htimes h.completedAtUtc,
      null_ids, null_strings, null_times, null_subtypes, admittedPosture_toValue, posture_denied,
      posture_reviewRequired, posture_explicitApproval, hpartial, hfallback, DegradedStartFits, hs,
      reduceCtorEq, false_implies, and_true, true_implies, Bool.and_eq_true,
      ExecutionStatus.validateState, ExecutionStatus.requirePosture,
      ExecutionStatus.requireNoPlanLink, ExecutionStatus.requirePlanLink,
      ExecutionStatus.requireNothingStarted, ExecutionStatus.requireAdmittedPosture,
      ExecutionStatus.requireNone, ExecutionStatus.requireSome, seq_eq_ok, require_eq_ok,
      validateDegraded_eq_ok]
    tauto

/-- The rules that the schema does not state. -/
structure BeyondSchema (status : ExecutionStatus) : Prop where
  completion : ∀ s ∈ status.completionSummary, s.utf8ByteSize ≤ 160
  failure : ∀ s ∈ status.failureSummary, s.utf8ByteSize ≤ 160
  visible : status.truthfulUserVisibleSummary.utf8ByteSize ≤ 160
  startedUpdated : ∀ started ∈ status.startedAtUtc, started ≤ status.updatedAtUtc
  completedUpdated : ∀ completed ∈ status.completedAtUtc, completed ≤ status.updatedAtUtc
  startedCompleted : ∀ completed ∈ status.completedAtUtc, ∀ started ∈ status.startedAtUtc,
    started ≤ completed
  degradedStart : DegradedStartFits status

theorem validateTimes_eq_ok : status.validateTimes = .ok () ↔
    (∀ started ∈ status.startedAtUtc, started ≤ status.updatedAtUtc) ∧
      (∀ completed ∈ status.completedAtUtc, completed ≤ status.updatedAtUtc) ∧
      ∀ completed ∈ status.completedAtUtc, ∀ started ∈ status.startedAtUtc,
        started ≤ completed := by
  simp only [ExecutionStatus.validateTimes, seq_eq_ok, require_eq_ok, Option.all_eq_true,
    decide_eq_true_eq]
  rfl

/-- The texts of both sides: those of the validation are also short in bytes. -/
theorem textsFit_iff : status.TextsFit ↔
    (status.currentStep.all isValidStepId = true ∧
      status.completionSummary.all (fun s => text 1 160 (.string s)) = true ∧
      status.failureSummary.all (fun s => text 1 160 (.string s)) = true ∧
      text 1 160 (.string status.truthfulUserVisibleSummary) = true) ∧
    (∀ s ∈ status.completionSummary, s.utf8ByteSize ≤ 160) ∧
      (∀ s ∈ status.failureSummary, s.utf8ByteSize ≤ 160) ∧
      status.truthfulUserVisibleSummary.utf8ByteSize ≤ 160 := by
  have hall : ∀ o : Option String, o.all isBoundedText = true ↔
      o.all (fun s => text 1 160 (.string s)) = true ∧ ∀ s ∈ o, s.utf8ByteSize ≤ 160 := by
    intro o
    cases o with
    | none => simp
    | some s => simp [isBoundedText_iff_text]
  constructor
  · rintro ⟨hstep, hcompletion, hfailure, hvisible⟩
    obtain ⟨hcompletion, hcompletionSize⟩ := (hall _).mp hcompletion
    obtain ⟨hfailure, hfailureSize⟩ := (hall _).mp hfailure
    obtain ⟨hvisible, hvisibleSize⟩ := isBoundedText_iff_text.mp hvisible
    exact ⟨⟨hstep, hcompletion, hfailure, hvisible⟩, hcompletionSize, hfailureSize, hvisibleSize⟩
  · rintro ⟨⟨hstep, hcompletion, hfailure, hvisible⟩, hcompletionSize, hfailureSize, hvisibleSize⟩
    exact ⟨hstep, (hall _).mpr ⟨hcompletion, hcompletionSize⟩,
      (hall _).mpr ⟨hfailure, hfailureSize⟩, isBoundedText_iff_text.mpr ⟨hvisible, hvisibleSize⟩⟩

theorem accepted_iff (htimes : times.Rfc3339) (h : status.Writable) :
    executionStatus times.toDateTimes (status.toValue times.toDateTimes) = true ↔
      PropertiesFit status ∧
        constrains (stateRules times.toDateTimes status.state)
          (status.toValue times.toDateTimes) = true := by
  have hstate : (status.toValue times.toDateTimes).get "state" =
      some (.string status.state.serdeName) := by
    simp [ExecutionStatus.toValue, Value.get, List.lookup_cons, ExecutionState.toValue]
  rw [← properties_iff htimes h, ← allOf_ifConst ExecutionState.serdeName_inj
    status.state.mem_variants hstate, executionStatus, allOf, List.all_cons, Bool.and_eq_true]
  rfl

theorem validate_iff (htimes : times.Rfc3339) (h : status.Writable) :
    status.validate = .ok () ↔
      executionStatus times.toDateTimes (status.toValue times.toDateTimes) = true ∧
        BeyondSchema status := by
  rw [ExecutionStatus.validate_eq_ok, accepted_iff htimes h, textsFit_iff]
  constructor
  · rintro ⟨⟨⟨hstep, hcompletion, hfailure, hvisible⟩, hcompletionSize, hfailureSize,
      hvisibleSize⟩, hlinked, hhash, hall, hstate⟩
    obtain ⟨hstarted, hcompleted, hordered⟩ := validateTimes_eq_ok.mp hall
    have hfit : PropertiesFit status := ⟨hhash, hstep, hcompletion, hfailure, hvisible⟩
    obtain ⟨hrules, hdegraded⟩ := (stateRules_iff htimes h hfit).mpr ⟨hlinked, hstate⟩
    exact ⟨⟨hfit, hrules⟩, hcompletionSize, hfailureSize, hvisibleSize, hstarted, hcompleted,
      hordered, hdegraded⟩
  · rintro ⟨⟨hfit, hrules⟩, hbeyond⟩
    obtain ⟨hlinked, hstate⟩ :=
      (stateRules_iff htimes h hfit).mp ⟨hrules, hbeyond.degradedStart⟩
    exact ⟨⟨⟨hfit.step, hfit.completion, hfit.failure, hfit.visible⟩, hbeyond.completion,
      hbeyond.failure, hbeyond.visible⟩, hlinked, hfit.hash, validateTimes_eq_ok.mpr
        ⟨hbeyond.startedUpdated, hbeyond.completedUpdated, hbeyond.startedCompleted⟩, hstate⟩

open Decoder in
/-- A writable status is read back. -/
theorem fromValue_toValue (htimes : times.Rfc3339) (h : status.Writable) :
    ExecutionStatus.fromValue times (status.toValue times.toDateTimes) = some status := by
  rw [ExecutionStatus.fromValue]
  refine (bind_field rfl (uuid_toValue _)).trans ?_
  refine (bind_field rfl (uuid_toValue _)).trans ?_
  refine (bind_optionalField rfl (option_ids _)).trans ?_
  refine (bind_optionalField rfl (option_strings _)).trans ?_
  refine (bind_field rfl (approvalPosture_toValue _)).trans ?_
  refine (bind_field rfl (executionState_toValue _)).trans ?_
  refine (bind_optionalField rfl (option_subtypes _)).trans ?_
  refine (bind_optionalField rfl (option_times htimes h.startedAtUtc)).trans ?_
  refine (bind_field rfl (timestamp_text htimes h.updatedAtUtc)).trans ?_
  refine (bind_optionalField rfl (option_times htimes h.completedAtUtc)).trans ?_
  refine (bind_optionalField rfl (option_strings _)).trans ?_
  refine (bind_optionalField rfl (option_strings _)).trans ?_
  refine (bind_optionalField rfl (option_strings _)).trans ?_
  refine (bind_field rfl (string_string _)).trans ?_
  rfl

end ExecutionStatusSchema

open ExecutionStatusSchema (executionStatus BeyondSchema validate_iff fromValue_toValue)

/-- A status is valid when the schema takes it and the further rules hold; and then it is
loaded as what it is. -/
theorem ExecutionStatus.status_valid_iff_accepted {times : TimeTexts} (htimes : times.Rfc3339)
    {status : ExecutionStatus} (h : status.Writable) :
    (status.validate = .ok () ↔
      executionStatus times.toDateTimes (status.toValue times.toDateTimes) = true ∧
        BeyondSchema status) ∧
    (status.validate = .ok () →
      ExecutionStatus.loadContractValue times (status.toValue times.toDateTimes) =
        some status) := by
  refine ⟨validate_iff htimes h, fun hvalid => ?_⟩
  exact loadContract_eq_some.mpr
    ⟨((validate_iff htimes h).mp hvalid).1, fromValue_toValue htimes h⟩

namespace Fixture

/-- The basic status in progress. -/
def inProgressStatus : ExecutionStatus where
  requestId := id .request 5
  correlationId := id .correlation 6
  executionPlanId := some (id .executionPlan 9)
  stablePlanHash := some "a8f7e75a4a4ea309803cf16fec43a4adb788ddcaa5589d91a9c00a41a8f56df7"
  currentPosture := .policyPreapproved
  state := .inProgress
  degradedSubtype := none
  startedAtUtc := some (at2030 605)
  updatedAtUtc := at2030 607
  completedAtUtc := none
  currentStep := some "step_export_prepare"
  completionSummary := none
  failureSummary := none
  truthfulUserVisibleSummary := "execution in progress on step_export_prepare"

theorem inProgressStatus_writable : inProgressStatus.Writable where
  requestId := by decide +kernel
  correlationId := by decide +kernel
  executionPlanId := by decide +kernel
  startedAtUtc := by decide
  updatedAtUtc := by decide
  completedAtUtc := by decide

theorem inProgressStatus_valid : inProgressStatus.validate = .ok () := by decide +kernel

end Fixture

theorem ExecutionStatus.status_valid_iff_accepted_basic :
    executionStatus Fixture.timeTexts.toDateTimes
        (Fixture.inProgressStatus.toValue Fixture.timeTexts.toDateTimes) = true ∧
      ExecutionStatus.loadContractValue Fixture.timeTexts
        (Fixture.inProgressStatus.toValue Fixture.timeTexts.toDateTimes) =
          some Fixture.inProgressStatus := by
  obtain ⟨hiff, hload⟩ := ExecutionStatus.status_valid_iff_accepted Fixture.timeTexts_rfc3339
    Fixture.inProgressStatus_writable
  exact ⟨(hiff.mp Fixture.inProgressStatus_valid).1, hload Fixture.inProgressStatus_valid⟩

end FaLocal
