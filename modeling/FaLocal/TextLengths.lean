import FaLocal.ForensicSchema
import FaLocal.FrictionSchema
import FaLocal.ReviewSchema
import FaLocal.StatusSchema

/-!
# Bounded texts

The validations bound texts in bytes, the schemas in characters. Replacing a bounded text of
an accepted value shows where the two differ: at the texts that have too many bytes, but not
too many characters.
-/
namespace FaLocal

/-- A text of a value with bounds on its length. -/
structure TextField (β : Type) where
  replace : String → β
  /-- The error of the length check. -/
  message : String
  maxLength : Nat
  /-- The text is also bound to a pattern. -/
  patterned : Bool

/-- A contract with its two checks. -/
structure Contract (β : Type) where
  validate : β → FaLocalResult Unit
  schema : DateTimes → Schema
  toValue : DateTimes → β → Value
  textFields : β → List (TextField β)

namespace TextField

/-- The texts that bytes and characters count alike. -/
def Countable {β : Type} (field : TextField β) (s : String) : Prop :=
  field.patterned = true ∨ s.utf8ByteSize ≤ field.maxLength ∨ field.maxLength < s.toList.length

end TextField

namespace Contract

variable {β : Type} (contract : Contract β) (times : DateTimes)

def Accepts (b : β) : Prop := contract.schema times (contract.toValue times b) = true

/-- Both checks take it. -/
structure Accepted (b : β) : Prop where
  valid : contract.validate b = .ok ()
  accepts : contract.Accepts times b

/-- The new text fails the length check of the validation exactly when the schema rejects it. -/
def AgreesOn (field : TextField β) (s : String) : Prop :=
  contract.validate (field.replace s) = .error (contractInvalid field.message) ↔
    ¬ contract.Accepts times (field.replace s)

/-- The length rules agree on the countable texts, and on no others. -/
def AgreesOnCountable : Prop :=
  ∀ b, contract.Accepted times b → ∀ field ∈ contract.textFields b, ∀ s,
    contract.AgreesOn times field s ↔ field.Countable s

variable {contract times} {field : TextField β} {s : String}

/-- A check of bytes on the one side and of characters on the other. -/
theorem agreesOn_of_sizes (hpattern : field.patterned = false)
    (hfails : contract.validate (field.replace s) = .error (contractInvalid field.message) ↔
      ¬ (1 ≤ s.utf8ByteSize ∧ s.utf8ByteSize ≤ field.maxLength))
    (haccepts : contract.Accepts times (field.replace s) ↔
      Schema.text 1 field.maxLength (.string s) = true) :
    contract.AgreesOn times field s ↔ field.Countable s := by
  have hle := Schema.length_le_utf8ByteSize s
  have hone := Schema.one_le_length_iff (s := s)
  rw [AgreesOn, TextField.Countable, hfails, haccepts, hpattern, Schema.text, Bool.and_eq_true,
    decide_eq_true_eq, decide_eq_true_eq]
  simp only [Bool.false_eq_true, false_or]
  omega

/-- A pattern that both sides check. -/
theorem agreesOn_of_pattern (hpattern : field.patterned = true) {fits : Prop}
    (hfails : contract.validate (field.replace s) = .error (contractInvalid field.message) ↔
      ¬ fits)
    (haccepts : contract.Accepts times (field.replace s) ↔ fits) :
    contract.AgreesOn times field s ↔ field.Countable s := by
  rw [AgreesOn, hfails, haccepts]
  exact iff_of_true Iff.rfl (.inl hpattern)

end Contract

theorem fails_iff {x : FaLocalResult Unit} {e : Abort} {fits : Prop} (hok : fits → x ≠ .error e)
    (herror : ¬ fits → x = .error e) : x = .error e ↔ ¬ fits := by
  constructor
  · intro h hfits
    exact hok hfits h
  · exact herror

theorem ne_error_of_ok {x : FaLocalResult Unit} {e : Abort} (h : x = .ok ()) : x ≠ .error e := by
  rw [h]
  rintro ⟨⟩

/-- Another check has another error. -/
theorem require_ne_error {condition : Bool} {message message' : String}
    (h : message ≠ message') :
    require condition message ≠ .error (contractInvalid message') := by
  intro he
  cases condition with
  | true => cases he
  | false =>
    cases he
    exact h rfl

/-- Behind the last check that may fail. -/
theorem seq_of_rest {x y : FaLocalResult Unit} (h : y = .ok ()) : (x >>= fun _ => y) = x := by
  rw [h]
  cases x <;> rfl

theorem require_error {condition : Bool} {message : String} (h : ¬ condition = true) :
    require condition message = .error (contractInvalid message) := by
  rw [require, if_neg h]

/-! ## Statuses -/

namespace ExecutionStatus

/-- The status with other texts. -/
def withTexts (status : ExecutionStatus) (step completion failure : Option String)
    (visible : String) : ExecutionStatus :=
  { status with
    currentStep := step
    completionSummary := completion
    failureSummary := failure
    truthfulUserVisibleSummary := visible }

def textFields (status : ExecutionStatus) : List (TextField ExecutionStatus) :=
  (status.currentStep.toList.map fun _ =>
    { replace := fun s => status.withTexts (some s) status.completionSummary
        status.failureSummary status.truthfulUserVisibleSummary
      message := "execution status current_step must match the bounded step id pattern"
      maxLength := 48
      patterned := true }) ++
  (status.completionSummary.toList.map fun _ =>
    { replace := fun s => status.withTexts status.currentStep (some s)
        status.failureSummary status.truthfulUserVisibleSummary
      message := "execution status completion_summary must be between 1 and 160 characters"
      maxLength := 160
      patterned := false }) ++
  (status.failureSummary.toList.map fun _ =>
    { replace := fun s => status.withTexts status.currentStep status.completionSummary
        (some s) status.truthfulUserVisibleSummary
      message := "execution status failure_summary must be between 1 and 160 characters"
      maxLength := 160
      patterned := false }) ++
  [{ replace := fun s => status.withTexts status.currentStep status.completionSummary
      status.failureSummary s
     message :=
      "execution status truthful_user_visible_summary must be between 1 and 160 characters"
     maxLength := 160
     patterned := false }]

def contract : Contract ExecutionStatus where
  validate := validate
  schema := ExecutionStatusSchema.executionStatus
  toValue := toValue
  textFields := textFields

section
variable {status : ExecutionStatus} {step completion failure : Option String} {visible : String}

/-- The rules of the state see which texts are there, and not what they say. -/
theorem validateState_withTexts (hstep : step.isSome = status.currentStep.isSome)
    (hcompletion : completion.isSome = status.completionSummary.isSome)
    (hfailure : failure.isSome = status.failureSummary.isSome) :
    (status.withTexts step completion failure visible).validateState = status.validateState := by
  have hnone : ∀ {o o' : Option String}, o.isSome = o'.isSome → o.isNone = o'.isNone := by
    intro o o' h
    rw [← Option.not_isSome, ← Option.not_isSome, h]
  simp only [validateState, withTexts, validateDegraded, requireNothingStarted, requireSome,
    requireNone, hstep, hcompletion, hfailure, hnone hstep, hnone hcompletion, hnone hfailure]

theorem validate_withTexts (h : status.validate = .ok ())
    (hstep : step.isSome = status.currentStep.isSome)
    (hcompletion : completion.isSome = status.completionSummary.isSome)
    (hfailure : failure.isSome = status.failureSummary.isSome)
    (htexts : (status.withTexts step completion failure visible).TextsFit) :
    (status.withTexts step completion failure visible).validate = .ok () := by
  obtain ⟨-, hfields⟩ := validate_eq_ok.mp h
  exact validate_eq_ok.mpr ⟨htexts, hfields.linked, hfields.hash, hfields.times,
    (validateState_withTexts hstep hcompletion hfailure).trans hfields.state⟩

variable {times : TimeTexts}

theorem schema_of_accepted (h : contract.Accepted times.toDateTimes status) :
    ExecutionStatusSchema.executionStatus times.toDateTimes (status.toValue times.toDateTimes) =
      true := by
  have haccepts := h.accepts
  simpa only [Contract.Accepts, contract] using haccepts

open ExecutionStatusSchema in
theorem accepts_withTexts (htimes : times.Rfc3339)
    (h : contract.Accepted times.toDateTimes status)
    (hstep : step.isSome = status.currentStep.isSome)
    (hcompletion : completion.isSome = status.completionSummary.isSome)
    (hfailure : failure.isSome = status.failureSummary.isSome) :
    contract.Accepts times.toDateTimes (status.withTexts step completion failure visible) ↔
      step.all isValidStepId = true ∧
        completion.all (fun s => Schema.text 1 160 (.string s)) = true ∧
        failure.all (fun s => Schema.text 1 160 (.string s)) = true ∧
        Schema.text 1 160 (.string visible) = true := by
  have hw := writable_of_accepted htimes (schema_of_accepted h)
  have hw' : (status.withTexts step completion failure visible).Writable :=
    ⟨hw.requestId, hw.correlationId, hw.executionPlanId, hw.startedAtUtc, hw.updatedAtUtc,
      hw.completedAtUtc⟩
  obtain ⟨hfit, -⟩ := (accepted_iff htimes hw).mp (schema_of_accepted h)
  obtain ⟨-, hfields⟩ := validate_eq_ok.mp h.valid
  simp only [Contract.Accepts, contract]
  rw [accepted_iff htimes hw']
  constructor
  · rintro ⟨hfit', -⟩
    exact ⟨hfit'.step, hfit'.completion, hfit'.failure, hfit'.visible⟩
  · rintro ⟨hs, hc, hf, hv⟩
    have hfit' : PropertiesFit (status.withTexts step completion failure visible) :=
      ⟨hfit.hash, hs, hc, hf, hv⟩
    have hstate : (status.withTexts step completion failure visible).validateState = .ok () :=
      (validateState_withTexts hstep hcompletion hfailure).trans hfields.state
    exact ⟨hfit', ((stateRules_iff htimes hw' hfit').mpr ⟨hfields.linked, hstate⟩).1⟩

/-- The validation of the texts, in the order of the source. -/
theorem validate_withTexts_eq (h : status.validate = .ok ()) :
    (status.withTexts step completion failure visible).validate =
      (validateOptionalStep step >>= fun _ =>
        validateOptionalSummary completion "completion_summary" >>= fun _ =>
        validateOptionalSummary failure "failure_summary" >>= fun _ =>
        validateRequiredSummary visible "truthful_user_visible_summary" >>= fun _ =>
        (status.withTexts step completion failure visible).validateState) := by
  obtain ⟨-, hfields⟩ := validate_eq_ok.mp h
  have hlink : validateOptionalPlanLink status.executionPlanId status.stablePlanHash = .ok () := by
    simpa [validateOptionalPlanLink] using hfields.linked
  have hhash : require (status.stablePlanHash.all isValidHash)
      "execution status stable_plan_hash must be a 64-character lowercase hex digest" = .ok () :=
    require_eq_ok.mpr hfields.hash
  have htimes : (status.withTexts step completion failure visible).validateTimes = .ok () :=
    hfields.times
  refine (seq_of_ok hlink).trans ?_
  refine congrArg _ (funext fun _ => congrArg _ (funext fun _ => congrArg _ (funext fun _ =>
    congrArg _ (funext fun _ => ?_))))
  exact (seq_of_ok hhash).trans (seq_of_ok htimes)

/-- Every bounded text of a status. -/
theorem agreesOnCountable (htimes : times.Rfc3339) :
    contract.AgreesOnCountable times.toDateTimes := by
  intro status h field hfield s
  obtain ⟨htexts, -⟩ := validate_eq_ok.mp h.valid
  obtain ⟨hstep, hcompletion, hfailure, hvisible⟩ := (accepts_withTexts htimes h rfl rfl rfl).mp
    h.accepts
  have hstepOk : validateOptionalStep status.currentStep = .ok () :=
    require_eq_ok.mpr htexts.step
  have hcompletionOk : validateOptionalSummary status.completionSummary "completion_summary" =
      .ok () := require_eq_ok.mpr htexts.completion
  have hfailureOk : validateOptionalSummary status.failureSummary "failure_summary" = .ok () :=
    require_eq_ok.mpr htexts.failure
  simp only [contract, textFields, List.mem_append, List.mem_map, Option.mem_toList,
    List.mem_singleton] at hfield
  rcases hfield with ((⟨old, hold, rfl⟩ | ⟨old, hold, rfl⟩) | ⟨old, hold, rfl⟩) | rfl
  · have hsome : (some s).isSome = status.currentStep.isSome := by
      rw [hold]
      rfl
    have hfails : (status.withTexts (some s) status.completionSummary status.failureSummary
        status.truthfulUserVisibleSummary).validate = .error (contractInvalid
          "execution status current_step must match the bounded step id pattern") ↔
        ¬ isValidStepId s = true := by
      refine fails_iff (fun hs => ?_) (fun hs => ?_)
      · exact ne_error_of_ok <| validate_withTexts h.valid hsome rfl rfl
          ⟨hs, htexts.completion, htexts.failure, htexts.visible⟩
      · rw [validate_withTexts_eq h.valid]
        exact seq_of_error (require_error hs)
    refine Contract.agreesOn_of_pattern rfl hfails ?_
    refine (accepts_withTexts htimes h hsome rfl rfl).trans ?_
    simp [hcompletion, hfailure, hvisible]
  · have hsome : (some s).isSome = status.completionSummary.isSome := by
      rw [hold]
      rfl
    refine Contract.agreesOn_of_sizes rfl (fails_iff (fun hs => ?_) (fun hs => ?_)) ?_
    · exact ne_error_of_ok <| validate_withTexts h.valid rfl hsome rfl
        ⟨htexts.step, isBoundedText_iff.mpr hs, htexts.failure, htexts.visible⟩
    · refine (validate_withTexts_eq h.valid).trans ((seq_of_ok hstepOk).trans ?_)
      exact seq_of_error (require_error (mt isBoundedText_iff.mp hs))
    · refine (accepts_withTexts htimes h rfl hsome rfl).trans ?_
      simp [hstep, hfailure, hvisible]
  · have hsome : (some s).isSome = status.failureSummary.isSome := by
      rw [hold]
      rfl
    refine Contract.agreesOn_of_sizes rfl (fails_iff (fun hs => ?_) (fun hs => ?_)) ?_
    · exact ne_error_of_ok <| validate_withTexts h.valid rfl rfl hsome
        ⟨htexts.step, htexts.completion, isBoundedText_iff.mpr hs, htexts.visible⟩
    · refine (validate_withTexts_eq h.valid).trans ((seq_of_ok hstepOk).trans
        ((seq_of_ok hcompletionOk).trans ?_))
      exact seq_of_error (require_error (mt isBoundedText_iff.mp hs))
    · refine (accepts_withTexts htimes h rfl rfl hsome).trans ?_
      simp [hstep, hcompletion, hvisible]
  · refine Contract.agreesOn_of_sizes rfl (fails_iff (fun hs => ?_) (fun hs => ?_)) ?_
    · exact ne_error_of_ok <| validate_withTexts h.valid rfl rfl rfl
        ⟨htexts.step, htexts.completion, htexts.failure, isBoundedText_iff.mpr hs⟩
    · refine (validate_withTexts_eq h.valid).trans ((seq_of_ok hstepOk).trans
        ((seq_of_ok hcompletionOk).trans ((seq_of_ok hfailureOk).trans ?_)))
      exact seq_of_error (require_error (mt isBoundedText_iff.mp hs))
    · refine (accepts_withTexts htimes h rfl rfl rfl).trans ?_
      simp [hstep, hcompletion, hfailure]

end

end ExecutionStatus

/-! ## Events -/

namespace ForensicEvent

def textFields (event : ForensicEvent) : List (TextField ForensicEvent) := [
  { replace := fun s => { event with summary := s }
    message := "forensic event summary must be between 1 and 160 characters"
    maxLength := 160
    patterned := false }]

def contract : Contract ForensicEvent where
  validate := validate
  schema := ForensicEventSchema.forensicEvent
  toValue := toValue
  textFields := textFields

variable {times : TimeTexts} {event : ForensicEvent} {s : String}

/-- Of another summary only the length and the words are still open. -/
theorem validate_withSummary_eq (h : event.validate = .ok ()) :
    ForensicEvent.validate { event with summary := s } =
      (validateRequiredSummary s >>= fun _ =>
        require (!mentionsSemanticOrWorkflowNarration s)
          "forensic event summary must not narrate planner, workflow, or semantic interpretation") := by
  simp only [validate, seq_eq_ok] at h
  obtain ⟨-, hlink, hreview, hposture, hsubtype, hminimized, hhash, -, htype⟩ := h
  refine congrArg _ (funext fun _ => ?_)
  refine (seq_of_ok hlink).trans ((seq_of_ok hreview).trans ((seq_of_ok hposture).trans ?_))
  refine (seq_of_ok hsubtype).trans ((seq_of_ok hminimized).trans ((seq_of_ok hhash).trans ?_))
  exact seq_of_rest htype

theorem schema_of_accepted (h : contract.Accepted times.toDateTimes event) :
    ForensicEventSchema.forensicEvent times.toDateTimes (event.toValue times.toDateTimes) =
      true := by
  have haccepts := h.accepts
  simpa only [Contract.Accepts, contract] using haccepts

open ForensicEventSchema in
theorem accepts_withSummary (htimes : times.Rfc3339)
    (h : contract.Accepted times.toDateTimes event) :
    contract.Accepts times.toDateTimes { event with summary := s } ↔
      Schema.text 1 160 (.string s) = true := by
  have hw := writable_of_accepted htimes (schema_of_accepted h)
  have hw' : ({ event with summary := s } : ForensicEvent).Writable :=
    ⟨hw.forensicEventId, hw.correlationId, hw.requestId, hw.routeDecisionId, hw.executionPlanId,
      hw.reviewPackageId, hw.timestampUtc⟩
  obtain ⟨hfit, hlinked, hrules⟩ := (accepted_iff htimes hw).mp (schema_of_accepted h)
  have hsubtype := ((validate_iff htimes hw).mp h.valid).2.subtype
  simp only [Contract.Accepts, contract]
  rw [accepted_iff htimes hw']
  constructor
  · rintro ⟨hfit', -⟩
    exact hfit'.summary
  · intro hs
    have hfit' : PropertiesFit { event with summary := s } := ⟨hfit.hash, hs, hfit.minimized⟩
    exact ⟨hfit', hlinked, (eventRules_iff hw' hfit' hsubtype).mpr
      ((eventRules_iff hw hfit hsubtype).mp hrules)⟩

/-- The one bounded text of an event. -/
theorem agreesOnCountable (htimes : times.Rfc3339) :
    contract.AgreesOnCountable times.toDateTimes := by
  intro event h field hfield s
  simp only [contract, textFields, List.mem_singleton] at hfield
  subst hfield
  refine Contract.agreesOn_of_sizes rfl (fails_iff (fun hs => ?_) (fun hs => ?_))
    (accepts_withSummary htimes h)
  · have hfits : validateRequiredSummary s = .ok () :=
      require_eq_ok.mpr (isBoundedText_iff.mpr hs)
    have heq : ForensicEvent.validate { event with summary := s } = _ :=
      (validate_withSummary_eq h.valid).trans (seq_of_ok hfits)
    exact heq.trans_ne (require_ne_error (by simp))
  · exact (validate_withSummary_eq h.valid).trans
      (seq_of_error (require_error (mt isBoundedText_iff.mp hs)))

end ForensicEvent

/-! ## Friction payloads -/

/-- A check of every member fails with its one message. -/
theorem forM_require {β : Type} (p : β → Bool) (message : String) (l : List β) :
    l.forM (fun b => require (p b) message) = require (l.all p) message := by
  induction l with
  | nil => rfl
  | cons b l ih =>
    have hcons : (b :: l).forM (fun b => require (p b) message) =
        (require (p b) message >>= fun _ => require (l.all p) message) := by
      rw [← ih]
      rfl
    rw [hcons, List.all_cons]
    cases p b <;> rfl

/-- A member that is replaced is the only one that may fail. -/
theorem forall_mem_set {β : Type} {l : List β} {i : Nat} {b c : β} {p : β → Prop}
    (h : ∀ b ∈ l, p b) (hi : l[i]? = some b) : (∀ b ∈ l.set i c, p b) ↔ p c := by
  constructor
  · intro hall
    exact hall c (List.mem_set (List.getElem?_eq_some_iff.mp hi).1 c)
  · intro hc d hd
    rcases List.mem_or_eq_of_mem_set hd with hd | rfl
    · exact h d hd
    · exact hc

namespace FrictionPayload

def textFields (payload : FrictionPayload) : List (TextField FrictionPayload) :=
  { replace := fun s => { payload with operatorVisibleSummary := s }
    message := "friction payload operator_visible_summary must be between 1 and 160 characters"
    maxLength := 160
    patterned := false } ::
  payload.denialGuards.zipIdx.map fun entry =>
    { replace := fun s => { payload with
        denialGuards := payload.denialGuards.set entry.2 { entry.1 with summary := s } }
      message := "friction payload denial guard summaries must be between 1 and 500 characters"
      maxLength := 500
      patterned := false }

def contract : Contract FrictionPayload where
  validate := validate
  schema := FrictionPayloadSchema.frictionPayload
  toValue := toValue
  textFields := textFields

/-- The payload with other texts. -/
def withTexts (payload : FrictionPayload) (guards : List DenialGuard) (summary : String) :
    FrictionPayload :=
  { payload with denialGuards := guards, operatorVisibleSummary := summary }

section
variable {times : TimeTexts} {payload : FrictionPayload} {guards : List DenialGuard}
  {summary : String}

def guardFits (guard : DenialGuard) : Bool :=
  !guard.summary.isEmpty && guard.summary.utf8ByteSize ≤ 500

theorem guardFits_iff {guard : DenialGuard} : guardFits guard = true ↔
    1 ≤ guard.summary.utf8ByteSize ∧ guard.summary.utf8ByteSize ≤ 500 := by
  rw [guardFits, Bool.and_eq_true, decide_eq_true_eq, Bool.not_eq_true',
    Schema.isEmpty_eq_false_iff]

/-- The rules of the kind see how many guards there are, and not what they say. -/
theorem validateKind_withTexts (hlength : guards.length = payload.denialGuards.length) :
    (payload.withTexts guards summary).validateKind = payload.validateKind := by
  have hempty : guards.isEmpty = payload.denialGuards.isEmpty := by
    rw [Bool.eq_iff_iff, List.isEmpty_iff_length_eq_zero, List.isEmpty_iff_length_eq_zero, hlength]
  simp only [validateKind, withTexts, requireNonEmptyDenialGuards, requireEmptyDenialGuards,
    hempty]

/-- Of other texts only their lengths and their words are still open. -/
theorem validate_withTexts_eq (h : payload.validate = .ok ())
    (hlength : guards.length = payload.denialGuards.length) :
    (payload.withTexts guards summary).validate =
      (validateRequiredSummary summary >>= fun _ =>
        require (guards.all guardFits)
          "friction payload denial guard summaries must be between 1 and 500 characters" >>=
        fun _ => require (!mentionsSemanticOrWorkflowNarration summary)
          "friction payload summary must not narrate planner, workflow, or semantic interpretation") := by
  simp only [validate, seq_eq_ok] at h
  obtain ⟨-, hlink, hguards, hposture, hsubtype, hminimized, hhash, -, hkind⟩ := h
  have hkind' : (payload.withTexts guards summary).validateKind = .ok () :=
    (validateKind_withTexts hlength).trans hkind
  have hcount : require (decide (guards.length ≤ 5))
      "friction payload denial_guards must contain at most 5 items" = .ok () := by
    rw [validateDenialGuards, seq_eq_ok] at hguards
    rw [hlength]
    exact hguards.1
  have hall : validateDenialGuards guards = require (guards.all guardFits)
      "friction payload denial guard summaries must be between 1 and 500 characters" :=
    (seq_of_ok hcount).trans (forM_require guardFits _ guards)
  refine congrArg _ (funext fun _ => ?_)
  refine (seq_of_ok hlink).trans ((congrArg (· >>= _) hall).trans
    (congrArg _ (funext fun _ => ?_)))
  refine (seq_of_ok hposture).trans ((seq_of_ok hsubtype).trans ((seq_of_ok hminimized).trans ?_))
  exact (seq_of_ok hhash).trans (seq_of_rest hkind')

theorem schema_of_accepted (h : contract.Accepted times.toDateTimes payload) :
    FrictionPayloadSchema.frictionPayload times.toDateTimes (payload.toValue times.toDateTimes) =
      true := by
  have haccepts := h.accepts
  simpa only [Contract.Accepts, contract] using haccepts

open FrictionPayloadSchema in
theorem accepts_withTexts (htimes : times.Rfc3339)
    (h : contract.Accepted times.toDateTimes payload)
    (hlength : guards.length = payload.denialGuards.length)
    (hyears : ∀ guard ∈ guards, FourDigitYear guard.timestampUtc) :
    contract.Accepts times.toDateTimes (payload.withTexts guards summary) ↔
      (∀ guard ∈ guards, Schema.text 1 500 (.string guard.summary) = true) ∧
        Schema.text 1 160 (.string summary) = true := by
  have hw := writable_of_accepted htimes (schema_of_accepted h)
  have hw' : (payload.withTexts guards summary).Writable :=
    ⟨hw.frictionPayloadId, hw.correlationId, hw.requestId, hw.routeDecisionId, hw.executionPlanId,
      hw.reviewPackageId, hw.forensicEventId, hyears, hw.createdAtUtc⟩
  obtain ⟨hfit, hlinked, hrules⟩ := (accepted_iff htimes hw).mp (schema_of_accepted h)
  have hkind : (payload.withTexts guards summary).validateKind = .ok () :=
    (validateKind_withTexts hlength).trans ((kindRules_iff hw hfit).mp hrules)
  simp only [Contract.Accepts, contract]
  rw [accepted_iff htimes hw']
  constructor
  · rintro ⟨hfit', -⟩
    exact ⟨hfit'.guards, hfit'.summary⟩
  · rintro ⟨hguards, hsummary⟩
    have hfit' : PropertiesFit (payload.withTexts guards summary) :=
      ⟨hfit.hash, hguards, hlength.trans_le hfit.guardCount, hsummary, hfit.minimized⟩
    exact ⟨hfit', hlinked, (kindRules_iff hw' hfit').mpr hkind⟩

/-- The summary and the guards of a payload. -/
theorem agreesOnCountable (htimes : times.Rfc3339) :
    contract.AgreesOnCountable times.toDateTimes := by
  intro payload h field hfield s
  have hw := FrictionPayloadSchema.writable_of_accepted htimes (schema_of_accepted h)
  have hself : contract.Accepts times.toDateTimes payload ↔
      (∀ guard ∈ payload.denialGuards, Schema.text 1 500 (.string guard.summary) = true) ∧
        Schema.text 1 160 (.string payload.operatorVisibleSummary) = true :=
    accepts_withTexts htimes h rfl hw.denialGuards
  obtain ⟨hguards, hsummary⟩ := hself.mp h.accepts
  have hchecks := (validate_withTexts_eq h.valid rfl).symm.trans h.valid
  rw [seq_eq_ok, seq_eq_ok, require_eq_ok, List.all_eq_true] at hchecks
  obtain ⟨hsummaryOk, hguardsFit, hsilent⟩ := hchecks
  simp only [contract, textFields, List.mem_cons, List.mem_map] at hfield
  rcases hfield with rfl | ⟨⟨guard, i⟩, hentry, rfl⟩
  · refine Contract.agreesOn_of_sizes rfl (fails_iff (fun hs => ?_) (fun hs => ?_)) ?_
    · have hfits : validateRequiredSummary s = .ok () :=
        require_eq_ok.mpr (isBoundedText_iff.mpr hs)
      have hall : require (payload.denialGuards.all guardFits)
          "friction payload denial guard summaries must be between 1 and 500 characters" = .ok () :=
        require_eq_ok.mpr (List.all_eq_true.mpr hguardsFit)
      have heq : (payload.withTexts payload.denialGuards s).validate = _ :=
        (validate_withTexts_eq h.valid rfl).trans ((seq_of_ok hfits).trans (seq_of_ok hall))
      exact heq.trans_ne (require_ne_error (by simp))
    · exact (validate_withTexts_eq h.valid rfl).trans
        (seq_of_error (require_error (mt isBoundedText_iff.mp hs)))
    · exact (accepts_withTexts htimes h rfl hw.denialGuards).trans (and_iff_right hguards)
  · have hi : payload.denialGuards[i]? = some guard := List.mk_mem_zipIdx_iff_getElem?.mp hentry
    have hlength : (payload.denialGuards.set i { guard with summary := s }).length =
        payload.denialGuards.length := List.length_set
    have hyears := (forall_mem_set (c := { guard with summary := s }) hw.denialGuards hi).mpr
      (hw.denialGuards guard (List.mem_of_getElem? hi))
    have hfit := (forall_mem_set (c := { guard with summary := s }) hguardsFit hi).trans
      guardFits_iff
    have htext := forall_mem_set (c := { guard with summary := s }) hguards hi
    refine Contract.agreesOn_of_sizes rfl (fails_iff (fun hs => ?_) (fun hs => ?_)) ?_
    · have hall : require ((payload.denialGuards.set i { guard with summary := s }).all guardFits)
          "friction payload denial guard summaries must be between 1 and 500 characters" = .ok () :=
        require_eq_ok.mpr (List.all_eq_true.mpr (hfit.mpr hs))
      exact ne_error_of_ok ((validate_withTexts_eq h.valid hlength).trans
        ((seq_of_ok hsummaryOk).trans ((seq_of_ok hall).trans hsilent)))
    · refine (validate_withTexts_eq h.valid hlength).trans ((seq_of_ok hsummaryOk).trans ?_)
      exact seq_of_error (require_error fun hall => hs (hfit.mp (List.all_eq_true.mp hall)))
    · exact (accepts_withTexts htimes h hlength hyears).trans
        ((and_iff_left hsummary).trans htext)

end

end FrictionPayload

/-! ## Review packages -/

namespace ReviewPackage

/-- The package with other texts. -/
def withTexts (package : ReviewPackage) (requester proposed assessment consequences : String)
    (context : Option ReviewExecutionStatusContext) : ReviewPackage :=
  { package with
    executionStatusContext := context
    requesterSummary := requester
    proposedExecutionSummary := proposed
    sideEffectAssessment := assessment
    denialConsequencesIfDeclined := consequences }

def textFields (package : ReviewPackage) : List (TextField ReviewPackage) := [
  { replace := fun s => package.withTexts s package.proposedExecutionSummary
      package.sideEffectAssessment package.denialConsequencesIfDeclined
      package.executionStatusContext
    message := "review package requester_summary must be between 1 and 160 characters"
    maxLength := 160
    patterned := false },
  { replace := fun s => package.withTexts package.requesterSummary s
      package.sideEffectAssessment package.denialConsequencesIfDeclined
      package.executionStatusContext
    message := "review package proposed_execution_summary must be between 1 and 160 characters"
    maxLength := 160
    patterned := false },
  { replace := fun s => package.withTexts package.requesterSummary
      package.proposedExecutionSummary s package.denialConsequencesIfDeclined
      package.executionStatusContext
    message := "review package side_effect_assessment must be between 1 and 160 characters"
    maxLength := 160
    patterned := false },
  { replace := fun s => package.withTexts package.requesterSummary
      package.proposedExecutionSummary package.sideEffectAssessment s
      package.executionStatusContext
    message :=
      "review package denial_consequences_if_declined must be between 1 and 160 characters"
    maxLength := 160
    patterned := false }] ++
  package.executionStatusContext.toList.map fun context =>
    { replace := fun s => package.withTexts package.requesterSummary
        package.proposedExecutionSummary package.sideEffectAssessment
        package.denialConsequencesIfDeclined
        (some { context with truthfulUserVisibleSummary := s })
      message := "review package execution_status_context.truthful_user_visible_summary must be between 1 and 160 characters"
      maxLength := 160
      patterned := false }

def contract : Contract ReviewPackage where
  validate := validate
  schema := ReviewPackageSchema.reviewPackage
  toValue := toValue
  textFields := textFields

section
variable {times : TimeTexts} {package : ReviewPackage}
  {requester proposed assessment consequences : String}
  {context : Option ReviewExecutionStatusContext}

/-- A context of the same state, that no other rule than that of its text rejects. -/
structure SameContext (package : ReviewPackage) (context : Option ReviewExecutionStatusContext) :
    Prop where
  states : context.map (·.state) = package.executionStatusContext.map (·.state)
  years : ∀ c ∈ context, FourDigitYear c.updatedAtUtc
  subtypes : ∀ c ∈ context, c.degradedSubtype = none

def narrated (package : ReviewPackage) (proposed assessment : String) : FaLocalResult Unit :=
  require (!((mentionsDegradedOrFallback proposed || mentionsDegradedOrFallback assessment) &&
      package.degradedOrFallbackPosture.isNone))
    "review package cannot narrate degraded or fallback posture without explicit degraded_or_fallback_posture"

theorem validatePosture_withTexts (hsame : package.SameContext context) :
    (package.withTexts requester proposed assessment consequences context).validatePosture =
      package.validatePosture := by
  have hall : ∀ p : ExecutionState → Bool,
      context.all (p ·.state) = package.executionStatusContext.all (p ·.state) := by
    intro p
    have hstates := congrArg (Option.all p) hsame.states
    rwa [Option.all_map, Option.all_map] at hstates
  simp only [validatePosture, withTexts, hall (· == .reviewRequired),
    hall (· == .waitingExplicitApproval)]

/-- Of other texts their lengths and their words are still open. -/
theorem validate_withTexts_eq (h : package.validate = .ok ())
    (hsame : package.SameContext context) :
    (package.withTexts requester proposed assessment consequences context).validate =
      (validateRequiredSummary requester "requester_summary" >>= fun _ =>
        validateRequiredSummary proposed "proposed_execution_summary" >>= fun _ =>
        validateRequiredSummary assessment "side_effect_assessment" >>= fun _ =>
        validateRequiredSummary consequences "denial_consequences_if_declined" >>= fun _ =>
        package.narrated proposed assessment >>= fun _ =>
        context.forM ReviewExecutionStatusContext.validate) := by
  simp only [validate, seq_eq_ok] at h
  obtain ⟨hreview, hlink, hhash, -, -, -, -, hoptions, -, -, hposture⟩ := h
  have hposture' : (package.withTexts requester proposed assessment consequences
      context).validatePosture = .ok () := (validatePosture_withTexts hsame).trans hposture
  refine (seq_of_ok hreview).trans ((seq_of_ok hlink).trans ((seq_of_ok hhash).trans ?_))
  refine congrArg _ (funext fun _ => congrArg _ (funext fun _ => congrArg _ (funext fun _ =>
    congrArg _ (funext fun _ => ?_))))
  refine (seq_of_ok hoptions).trans (congrArg _ (funext fun _ => ?_))
  exact seq_of_rest hposture'

theorem schema_of_accepted (h : contract.Accepted times.toDateTimes package) :
    ReviewPackageSchema.reviewPackage times.toDateTimes (package.toValue times.toDateTimes) =
      true := by
  have haccepts := h.accepts
  simpa only [Contract.Accepts, contract] using haccepts

open ReviewPackageSchema in
theorem accepts_withTexts (htimes : times.Rfc3339)
    (h : contract.Accepted times.toDateTimes package) (hsame : package.SameContext context) :
    contract.Accepts times.toDateTimes
        (package.withTexts requester proposed assessment consequences context) ↔
      Schema.text 1 160 (.string requester) = true ∧
        Schema.text 1 160 (.string proposed) = true ∧
        Schema.text 1 160 (.string assessment) = true ∧
        Schema.text 1 160 (.string consequences) = true ∧
        ∀ c ∈ context, Schema.text 1 160 (.string c.truthfulUserVisibleSummary) = true := by
  have hw := writable_of_accepted htimes (schema_of_accepted h)
  have hw' : (package.withTexts requester proposed assessment consequences context).Writable :=
    ⟨hw.reviewPackageId, hw.originatingRequestId, hw.correlationId, hw.routeDecisionId,
      hw.executionPlanId, hsame.years, hw.packagedAtUtc⟩
  obtain ⟨hfit, hoptions, hexplicit, hreview⟩ := (accepted_iff htimes hw).mp (schema_of_accepted h)
  have hstate : ∀ (p : ExecutionState → Prop),
      (∀ c ∈ package.executionStatusContext, p c.state) → ∀ c ∈ context, p c.state := by
    intro p hold c hc
    have hmem : some c.state = package.executionStatusContext.map (·.state) := by
      rw [← hsame.states, hc]
      rfl
    obtain ⟨c', hc', heq⟩ := Option.map_eq_some_iff.mp hmem.symm
    rw [← heq]
    exact hold c' hc'
  simp only [Contract.Accepts, contract]
  rw [accepted_iff htimes hw']
  constructor
  · rintro ⟨hfit', -⟩
    exact ⟨hfit'.requester, hfit'.proposed, hfit'.assessment, hfit'.consequences,
      fun c hc => (hfit'.context c hc).summary⟩
  · rintro ⟨hrequester, hproposed, hassessment, hconsequences, hcontext⟩
    have hcontexts : ∀ c ∈ context, ContextFits c := fun c hc =>
      ⟨hstate (fun s => s = .reviewRequired ∨ s = .waitingExplicitApproval)
        (fun c hc => (hfit.context c hc).state) c hc, hsame.subtypes c hc, hcontext c hc⟩
    refine ⟨⟨hfit.hash, hfit.posture, hcontexts, hrequester, hproposed, hassessment,
      hfit.optionCount, hfit.optionsUnique, hconsequences⟩, hoptions, fun hp => ?_, fun hp => ?_⟩
    · obtain ⟨hid, hhash, hstates⟩ := hexplicit hp
      exact ⟨hid, hhash, hstate (· = .waitingExplicitApproval) hstates⟩
    · obtain ⟨hid, hhash, hstates⟩ := hreview hp
      exact ⟨hid, hhash, hstate (· = .reviewRequired) hstates⟩

/-- A package carries its own context. -/
theorem sameContext_self (htimes : times.Rfc3339)
    (h : contract.Accepted times.toDateTimes package) :
    package.SameContext package.executionStatusContext := by
  have hw := ReviewPackageSchema.writable_of_accepted htimes (schema_of_accepted h)
  obtain ⟨hfit, -⟩ := (ReviewPackageSchema.accepted_iff htimes hw).mp (schema_of_accepted h)
  exact ⟨rfl, hw.executionStatusContext, fun c hc => (hfit.context c hc).subtype⟩

/-- Every bounded text of a package, and of its context. -/
theorem agreesOnCountable (htimes : times.Rfc3339) :
    contract.AgreesOnCountable times.toDateTimes := by
  intro package h field hfield s
  have hself := sameContext_self htimes h
  have haccepted : contract.Accepts times.toDateTimes package ↔ _ :=
    accepts_withTexts htimes h hself
  obtain ⟨hrequester, hproposed, hassessment, hconsequences, hcontext⟩ :=
    haccepted.mp h.accepts
  have hchecks := (validate_withTexts_eq h.valid hself).symm.trans h.valid
  simp only [seq_eq_ok] at hchecks
  obtain ⟨hrequesterOk, hproposedOk, hassessmentOk, hconsequencesOk, hnarrated, hcontextOk⟩ :=
    hchecks
  have hfits : ∀ {fieldName : String}, 1 ≤ s.utf8ByteSize ∧ s.utf8ByteSize ≤ 160 →
      validateRequiredSummary s fieldName = .ok () :=
    fun hs => require_eq_ok.mpr (isBoundedText_iff.mpr hs)
  have hrejects : ∀ fieldName : String, ¬ (1 ≤ s.utf8ByteSize ∧ s.utf8ByteSize ≤ 160) →
      validateRequiredSummary s fieldName = .error (contractInvalid
        ("review package " ++ fieldName ++ " must be between 1 and 160 characters")) :=
    fun _ hs => require_error (mt isBoundedText_iff.mp hs)
  simp only [contract, textFields, List.mem_append, List.mem_cons, List.not_mem_nil, or_false,
    List.mem_map, Option.mem_toList] at hfield
  rcases hfield with (rfl | rfl | rfl | rfl) | ⟨context, hc, rfl⟩
  · refine Contract.agreesOn_of_sizes rfl (fails_iff (fun hs => ?_) (fun hs => ?_)) ?_
    · exact ne_error_of_ok ((validate_withTexts_eq h.valid hself).trans
        ((seq_of_ok (hfits hs)).trans ((seq_of_ok hproposedOk).trans
        ((seq_of_ok hassessmentOk).trans ((seq_of_ok hconsequencesOk).trans
        ((seq_of_ok hnarrated).trans hcontextOk))))))
    · exact (validate_withTexts_eq h.valid hself).trans (seq_of_error (hrejects _ hs))
    · refine (accepts_withTexts htimes h hself).trans ?_
      simp only [hproposed, hassessment, hconsequences, true_and]
      exact and_iff_left hcontext
  · refine Contract.agreesOn_of_sizes rfl (fails_iff (fun hs => ?_) (fun hs => ?_)) ?_
    · have heq : (package.withTexts package.requesterSummary s package.sideEffectAssessment
          package.denialConsequencesIfDeclined package.executionStatusContext).validate = _ :=
        (validate_withTexts_eq h.valid hself).trans ((seq_of_ok hrequesterOk).trans
          ((seq_of_ok (hfits hs)).trans ((seq_of_ok hassessmentOk).trans
          ((seq_of_ok hconsequencesOk).trans (seq_of_rest hcontextOk)))))
      exact heq.trans_ne (require_ne_error (by simp))
    · exact (validate_withTexts_eq h.valid hself).trans ((seq_of_ok hrequesterOk).trans
        (seq_of_error (hrejects _ hs)))
    · refine (accepts_withTexts htimes h hself).trans ?_
      simp only [hrequester, hassessment, hconsequences, true_and]
      exact and_iff_left hcontext
  · refine Contract.agreesOn_of_sizes rfl (fails_iff (fun hs => ?_) (fun hs => ?_)) ?_
    · have heq : (package.withTexts package.requesterSummary package.proposedExecutionSummary s
          package.denialConsequencesIfDeclined package.executionStatusContext).validate = _ :=
        (validate_withTexts_eq h.valid hself).trans ((seq_of_ok hrequesterOk).trans
          ((seq_of_ok hproposedOk).trans ((seq_of_ok (hfits hs)).trans
          ((seq_of_ok hconsequencesOk).trans (seq_of_rest hcontextOk)))))
      exact heq.trans_ne (require_ne_error (by simp))
    · exact (validate_withTexts_eq h.valid hself).trans ((seq_of_ok hrequesterOk).trans
        ((seq_of_ok hproposedOk).trans (seq_of_error (hrejects _ hs))))
    · refine (accepts_withTexts htimes h hself).trans ?_
      simp only [hrequester, hproposed, hconsequences, true_and]
      exact and_iff_left hcontext
  · refine Contract.agreesOn_of_sizes rfl (fails_iff (fun hs => ?_) (fun hs => ?_)) ?_
    · exact ne_error_of_ok ((validate_withTexts_eq h.valid hself).trans
        ((seq_of_ok hrequesterOk).trans ((seq_of_ok hproposedOk).trans
        ((seq_of_ok hassessmentOk).trans ((seq_of_ok (hfits hs)).trans
        ((seq_of_ok hnarrated).trans hcontextOk))))))
    · exact (validate_withTexts_eq h.valid hself).trans ((seq_of_ok hrequesterOk).trans
        ((seq_of_ok hproposedOk).trans ((seq_of_ok hassessmentOk).trans
        (seq_of_error (hrejects _ hs)))))
    · refine (accepts_withTexts htimes h hself).trans ?_
      simp only [hrequester, hproposed, hassessment, true_and]
      exact and_iff_left hcontext
  · have hsame : package.SameContext (some { context with truthfulUserVisibleSummary := s }) := by
      refine ⟨by rw [hc]; rfl, ?_, ?_⟩
      · rintro c ⟨⟩
        exact hself.years context hc
      · rintro c ⟨⟩
        exact hself.subtypes context hc
    have hrest : (package.withTexts package.requesterSummary package.proposedExecutionSummary
        package.sideEffectAssessment package.denialConsequencesIfDeclined
        (some { context with truthfulUserVisibleSummary := s })).validate =
          ReviewExecutionStatusContext.validate
            { context with truthfulUserVisibleSummary := s } :=
      (validate_withTexts_eq h.valid hsame).trans ((seq_of_ok hrequesterOk).trans
        ((seq_of_ok hproposedOk).trans ((seq_of_ok hassessmentOk).trans
        ((seq_of_ok hconsequencesOk).trans (seq_of_ok hnarrated)))))
    have hvalid := validateContext_eq_ok.mp hcontextOk context hc
    simp only [ReviewExecutionStatusContext.validate, seq_eq_ok] at hvalid
    obtain ⟨-, hstate, hsubtype⟩ := hvalid
    refine Contract.agreesOn_of_sizes rfl (fails_iff (fun hs => ?_) (fun hs => ?_)) ?_
    · exact ne_error_of_ok (hrest.trans ((seq_of_ok (hfits hs)).trans
        ((seq_of_ok hstate).trans hsubtype)))
    · exact hrest.trans (seq_of_error (hrejects _ hs))
    · refine (accepts_withTexts htimes h hsame).trans ?_
      simp [hrequester, hproposed, hassessment, hconsequences]

end

end ReviewPackage

/-- In each of the four contracts the length rule of the validation and that of the schema
agree exactly on the countable texts. -/
theorem textLengths_agree_iff {times : TimeTexts} (htimes : times.Rfc3339) :
    ExecutionStatus.contract.AgreesOnCountable times.toDateTimes ∧
      ForensicEvent.contract.AgreesOnCountable times.toDateTimes ∧
      ReviewPackage.contract.AgreesOnCountable times.toDateTimes ∧
      FrictionPayload.contract.AgreesOnCountable times.toDateTimes :=
  ⟨ExecutionStatus.agreesOnCountable htimes, ForensicEvent.agreesOnCountable htimes,
    ReviewPackage.agreesOnCountable htimes, FrictionPayload.agreesOnCountable htimes⟩

namespace Fixture

/-- A hundred and sixty characters of two bytes each. -/
def accented : String := String.ofList (List.replicate 160 'é')

theorem accents_size (n : Nat) : (String.ofList (List.replicate n 'é')).utf8ByteSize = n * 2 := by
  rw [utf8ByteSize_ofList, List.map_replicate, List.sum_replicate]
  rfl

theorem accents_bounded {n : Nat} :
    isBoundedText (String.ofList (List.replicate n 'é')) = true ↔ 1 ≤ n * 2 ∧ n * 2 ≤ 160 := by
  rw [isBoundedText_iff, accents_size]

theorem accents_text {n : Nat} (h : 1 ≤ n) (h' : n ≤ 160) :
    Schema.text 1 160 (.string (String.ofList (List.replicate n 'é'))) = true := by
  simp [Schema.text, h, h']

theorem inProgressStatus_accepted :
    ExecutionStatus.contract.Accepted timeTexts.toDateTimes inProgressStatus where
  valid := inProgressStatus_valid
  accepts := ((ExecutionStatusSchema.validate_iff timeTexts_rfc3339
    inProgressStatus_writable).mp inProgressStatus_valid).1

end Fixture

/-- Twenty accented characters are forty bytes, which is few enough on both sides. -/
theorem textLengths_agree_iff_accented :
    ExecutionStatus.contract.Accepted Fixture.timeTexts.toDateTimes Fixture.inProgressStatus ∧
      ∀ field ∈ Fixture.inProgressStatus.textFields,
        ExecutionStatus.contract.AgreesOn Fixture.timeTexts.toDateTimes field
          (String.ofList (List.replicate 20 'é')) := by
  refine ⟨Fixture.inProgressStatus_accepted, fun field hfield => ?_⟩
  have hagree := (textLengths_agree_iff Fixture.timeTexts_rfc3339).1 Fixture.inProgressStatus
    Fixture.inProgressStatus_accepted field hfield (String.ofList (List.replicate 20 'é'))
  refine hagree.mpr (.inr (.inl ?_))
  have hmax : ∀ field ∈ Fixture.inProgressStatus.textFields, 20 * 2 ≤ field.maxLength := by decide
  rw [Fixture.accents_size]
  exact hmax field hfield

/-- The schema takes the long text, and the validation does not. -/
theorem textLengths_disagree_accented :
    ExecutionStatus.contract.Accepted Fixture.timeTexts.toDateTimes Fixture.inProgressStatus ∧
      ExecutionStatus.contract.Accepts Fixture.timeTexts.toDateTimes
        { Fixture.inProgressStatus with truthfulUserVisibleSummary := Fixture.accented } ∧
      ({ Fixture.inProgressStatus with
          truthfulUserVisibleSummary := Fixture.accented } : ExecutionStatus).validate =
        .error (contractInvalid
          "execution status truthful_user_visible_summary must be between 1 and 160 characters") := by
  have hvisible : Schema.text 1 160 (.string Fixture.accented) = true :=
    Fixture.accents_text (by decide) (by decide)
  have hlong : ¬ isBoundedText Fixture.accented = true := fun hfits =>
    absurd (Fixture.accents_bounded.mp hfits) (by decide)
  have haccepts : ∀ visible, ExecutionStatus.contract.Accepts Fixture.timeTexts.toDateTimes
      (Fixture.inProgressStatus.withTexts Fixture.inProgressStatus.currentStep none none visible) ↔
        _ := fun visible => ExecutionStatus.accepts_withTexts Fixture.timeTexts_rfc3339
    Fixture.inProgressStatus_accepted rfl rfl rfl
  obtain ⟨hstep, hcompletion, hfailure, -⟩ :=
    (haccepts Fixture.inProgressStatus.truthfulUserVisibleSummary).mp
      Fixture.inProgressStatus_accepted.accepts
  have hstepOk : ExecutionStatus.validateOptionalStep Fixture.inProgressStatus.currentStep =
      .ok () := require_eq_ok.mpr hstep
  refine ⟨Fixture.inProgressStatus_accepted,
    (haccepts Fixture.accented).mpr ⟨hstep, hcompletion, hfailure, hvisible⟩, ?_⟩
  refine (ExecutionStatus.validate_withTexts_eq Fixture.inProgressStatus_valid).trans ?_
  have hnone : ∀ fieldName, ExecutionStatus.validateOptionalSummary none fieldName = .ok () :=
    fun _ => rfl
  refine (seq_of_ok hstepOk).trans ((seq_of_ok (hnone _)).trans ((seq_of_ok (hnone _)).trans ?_))
  exact seq_of_error (require_error hlong)

end FaLocal
