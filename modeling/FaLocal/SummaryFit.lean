import FaLocal.PlanOutcome

/-!
# Which final statuses fit

A delivery stamps every status with an admitted posture, a plan hash and ordered
times, so that only a text can make it invalid. The texts of fixed wording fit.
The list of used fallbacks, and the cause of a partial success, may not.
-/
namespace FaLocal

open ExecutionStatus (TextsFit FieldsFit validateState validateTimes requireAdmittedPosture
  requirePosture requirePlanLink requireNothingStarted requireSome requireNone)

namespace ExecutionService

/-- What a delivery stamps its statuses with. -/
structure Stampable (route : SelectedExecutionRoute) (link : ExecutionPlanId × String)
    (startedAtUtc completedAtUtc : TimestampUtc) : Prop where
  admitted : route.resolvedApprovalPosture.admitted = true
  hash : isValidHash link.2 = true
  ordered : startedAtUtc ≤ completedAtUtc

section
variable {route : SelectedExecutionRoute} {link : ExecutionPlanId × String}
  {startedAtUtc completedAtUtc : TimestampUtc}

/-! ## Fields -/

section
variable (h : Stampable route link startedAtUtc completedAtUtc)
include h

theorem Stampable.posture : route.resolvedApprovalPosture = .policyPreapproved ∨
    route.resolvedApprovalPosture = .executeAllowed := by
  have ha := h.admitted
  cases hp : route.resolvedApprovalPosture <;> simp_all [ApprovalPosture.admitted]

theorem Stampable.admittedFields (updatedAtUtc : TimestampUtc) (summary : String) :
    FieldsFit (routeStatus route link .admittedNotStarted updatedAtUtc summary) := by
  refine ⟨rfl, h.hash, rfl, ?_⟩
  simpa [validateState, requireAdmittedPosture, requirePosture, requirePlanLink,
    requireNothingStarted, requireNone, routeStatus, seq_eq_ok] using h.posture

theorem Stampable.inProgressFields (stepId : String) :
    FieldsFit (inProgressStatus route link startedAtUtc stepId) := by
  refine ⟨rfl, h.hash, ?_, ?_⟩
  · simp [validateTimes, inProgressStatus, routeStatus, seq_eq_ok]
  · simpa [validateState, requireAdmittedPosture, requirePosture, requirePlanLink, requireNone,
      requireSome, inProgressStatus, routeStatus, seq_eq_ok] using h.posture

theorem Stampable.finalFields {outcomes : List (String × StepDeliveryOutcome)}
    {record : ExecutionStatus}
    (hr : FinalRecord route link outcomes startedAtUtc completedAtUtc record) :
    FieldsFit record := by
  have ho := h.ordered
  cases hr with
  | _ =>
    refine ⟨rfl, h.hash, ?_, ?_⟩
    · simp [validateTimes, completedStatus, constrainedStatus, failedStatus,
        partialSuccessStatus, canceledStatus, unavailableDependencyStatus, routeStatus, seq_eq_ok,
        ho]
    · simpa [validateState, requireAdmittedPosture, requirePosture, requirePlanLink, requireNone,
        requireSome, completedStatus, constrainedStatus, failedStatus, partialSuccessStatus,
        canceledStatus, unavailableDependencyStatus, routeStatus, ExecutionStatus.validateDegraded,
        seq_eq_ok] using h.posture

end

/-! ## Texts -/

theorem toString_size : ∀ n ≤ 16, (toString n).utf8ByteSize ≤ 2 := by decide +kernel

/-- The bytes that the used fallbacks take in the summary, with a separator
behind each. -/
def pairsSize (outcomes : List (String × StepDeliveryOutcome)) : Nat :=
  (outcomes.filterMap fun outcome => outcome.2.fallbackUsed.map fun fallbackStepId =>
    outcome.1.utf8ByteSize + fallbackStepId.utf8ByteSize + 6).sum

theorem intercalate_size (l : List String) (hne : l ≠ []) :
    (String.intercalate ", " l).utf8ByteSize + 2 = (l.map fun s => s.utf8ByteSize + 2).sum := by
  have hsep : ", ".utf8ByteSize = 2 := utf8ByteSize_of_chars (by decide)
  induction l with
  | nil => exact absurd rfl hne
  | cons s l ih =>
    by_cases hl : l = []
    · simp [hl]
    · have h := ih hl
      rw [String.intercalate_cons_of_ne_nil hl, String.utf8ByteSize_append,
        String.utf8ByteSize_append, hsep, List.map_cons, List.sum_cons]
      omega

theorem fallbackPairs_size {outcomes : List (String × StepDeliveryOutcome)}
    (h : ∃ q ∈ outcomes, q.2.fallbackUsed.isSome = true) :
    (fallbackPairs outcomes).utf8ByteSize + 2 = pairsSize outcomes := by
  have harrow : " -> ".utf8ByteSize = 4 := utf8ByteSize_of_chars (by decide)
  rw [fallbackPairs, intercalate_size]
  · rw [pairsSize, List.map_filterMap]
    congr 2
    funext q
    cases q.2.fallbackUsed with
    | none => rfl
    | some f =>
      simp only [Option.map_some, String.utf8ByteSize_append, harrow]
      congr 1
      omega
  · obtain ⟨q, hq, hf⟩ := h
    obtain ⟨f, hf⟩ := Option.isSome_iff_exists.mp hf
    refine List.ne_nil_of_mem (a := q.1 ++ " -> " ++ f) ?_
    exact List.mem_filterMap.mpr ⟨q, hq, by simp [hf]⟩

/-- The aggregated texts fit: the used fallbacks of a plan that completed take
at most 99 bytes, and the first uncompleted step of a plan that partly
completed, together with its detail, at most 136. -/
structure SummaryFits (outcomes : List (String × StepDeliveryOutcome)) : Prop where
  pairs : (∀ q ∈ outcomes, q.2.counts = true) →
    (∃ q ∈ outcomes, q.2.fallbackUsed.isSome = true) → pairsSize outcomes ≤ 99
  cause : (∃ q ∈ outcomes, q.2.counts = true) → ∀ q detail,
    (outcomes.find? fun q => !q.2.counts) = some q → q.2.incompleteDetail = some detail →
      q.1.utf8ByteSize + detail.utf8ByteSize ≤ 136

theorem usedFallback_size :
    "all declared plan steps completed; used declared fallback for: ".utf8ByteSize = 63 :=
  utf8ByteSize_of_chars (by decide)

theorem usedFallbackSummary_fits {outcomes : List (String × StepDeliveryOutcome)}
    (h : ∃ q ∈ outcomes, q.2.fallbackUsed.isSome = true) :
    isBoundedText (usedFallbackSummary outcomes) = true ↔ pairsSize outcomes ≤ 99 := by
  have hpairs := fallbackPairs_size h
  refine (isBoundedText_append usedFallback_size (by omega)).trans ?_
  omega

theorem partialSuccessFailure_fits {stepId detail : String} :
    isBoundedText (partialSuccessFailure stepId detail) = true ↔
      stepId.utf8ByteSize + detail.utf8ByteSize ≤ 136 := by
  have hstep : "step ".utf8ByteSize = 5 := utf8ByteSize_of_chars (by decide)
  have hmid : " did not complete: ".utf8ByteSize = 19 := utf8ByteSize_of_chars (by decide)
  rw [partialSuccessFailure, isBoundedText_iff]
  simp only [String.utf8ByteSize_append, hstep, hmid]
  omega

theorem completedOf_fits {m n : Nat} (hm : m ≤ 16) (hn : n ≤ 16) :
    isBoundedText (completedOf m n) = true := by
  have hof : " of ".utf8ByteSize = 4 := utf8ByteSize_of_chars (by decide)
  have htail : " declared plan steps completed".utf8ByteSize = 30 :=
    utf8ByteSize_of_chars (by decide)
  have h₁ := toString_size m hm
  have h₂ := toString_size n hn
  rw [completedOf, isBoundedText_iff]
  simp only [String.utf8ByteSize_append, hof, htail]
  omega

theorem inProgress_texts {stepId : String} :
    TextsFit (inProgressStatus route link startedAtUtc stepId) ↔ isValidStepId stepId = true := by
  have hsize : "executing externally delivered step ".utf8ByteSize = 36 :=
    utf8ByteSize_of_chars (by decide)
  refine ⟨fun h => by simpa [inProgressStatus] using h.step, fun h => ⟨?_, rfl, rfl, ?_⟩⟩
  · simpa [inProgressStatus] using h
  · have := isValidStepId_size h
    exact (isBoundedText_append hsize (by omega)).mpr (by omega)

/-- What is known of the outcomes of a plan within the schema's bounds. -/
structure Bounded (outcomes : List (String × StepDeliveryOutcome)) : Prop where
  few : outcomes.length ≤ 16
  stepIds : ∀ q ∈ outcomes, isValidStepId q.1 = true
  summaries : ∀ q ∈ outcomes, ∀ summary, q.2 = .failed summary → isBoundedText summary = true

/-- Only the two aggregated texts can fail to fit. -/
theorem FinalRecord.texts_iff {outcomes : List (String × StepDeliveryOutcome)}
    {record : ExecutionStatus} (hb : Bounded outcomes)
    (hr : FinalRecord route link outcomes startedAtUtc completedAtUtc record) :
    TextsFit record ↔ SummaryFits outcomes := by
  have hnone : ∀ {p : Prop}, (∀ q ∈ outcomes, q.2.counts = false) →
      (∃ q ∈ outcomes, q.2.counts = true) → p := by
    rintro p hn ⟨q, hq, hc⟩
    simp [hn q hq] at hc
  cases hr with
  | viaFallback hall hvia =>
    have hfind : (outcomes.find? fun q => !q.2.counts) = none := by
      simpa using hall
    constructor
    · intro h
      refine ⟨fun _ _ => (usedFallbackSummary_fits hvia).mp h.visible, fun _ q detail hf => ?_⟩
      rw [hfind] at hf
      cases hf
    · intro h
      have hfit := (usedFallbackSummary_fits hvia).mpr (h.pairs hall hvia)
      exact ⟨rfl, hfit, rfl, hfit⟩
  | completed hall hown =>
    have hsize : allStepsSummary.utf8ByteSize = 55 := utf8ByteSize_of_chars (by decide)
    have hfit : isBoundedText allStepsSummary = true := isBoundedText_iff.mpr (by omega)
    refine iff_of_true ⟨rfl, hfit, rfl, hfit⟩ ⟨fun _ ⟨q, hq, hu⟩ => ?_, fun _ q detail hf => ?_⟩
    · simp [hown q hq] at hu
    · have hc := hall q (List.mem_of_find?_eq_some hf)
      simpa [hc] using List.find?_some hf
  | @partialSuccess pre post stepId detail outcome hsome he hpre hd =>
    have hc : outcome.counts = false := by
      have hi := StepDeliveryOutcome.incompleteDetail_isSome outcome
      simpa [hd] using hi
    have hfind : (outcomes.find? fun q => !q.2.counts) = some (stepId, outcome) := by
      rw [List.find?_eq_some_iff_append]
      exact ⟨by simp [hc], pre, post, he, by simpa using hpre⟩
    have hcount : completedCount outcomes ≤ outcomes.length := List.length_filter_le _ _
    have hfit := completedOf_fits (hcount.trans hb.few) hb.few
    constructor
    · intro h
      refine ⟨fun hall => ?_, fun _ q detail' hf hd' => ?_⟩
      · simp [hall (stepId, outcome) (he ▸ by simp)] at hc
      · cases hfind.symm.trans hf
        cases hd.symm.trans hd'
        exact partialSuccessFailure_fits.mp h.failure
    · intro h
      exact ⟨rfl, hfit, partialSuccessFailure_fits.mpr (h.cause hsome _ _ hfind hd), hfit⟩
  | @failed stepId summary hn hm =>
    have hfit := hb.summaries _ hm summary rfl
    refine iff_of_true ⟨rfl, rfl, hfit, hfit⟩ ⟨fun hall => ?_, hnone hn⟩
    exact hnone hn ⟨_, hm, hall _ hm⟩
  | @canceled stepId hn hf hm =>
    have hsize : "external delivery canceled during declared step ".utf8ByteSize = 48 :=
      utf8ByteSize_of_chars (by decide)
    have hid := isValidStepId_size (hb.stepIds _ hm)
    refine iff_of_true ⟨rfl, rfl, rfl, ?_⟩ ⟨fun hall => ?_, hnone hn⟩
    · exact (isBoundedText_append hsize (by omega)).mpr (by simp only at hid; omega)
    · exact hnone hn ⟨_, hm, hall _ hm⟩
  | unavailable hn hne hf hc =>
    have hsize : noneRegisteredSummary.utf8ByteSize = 52 := utf8ByteSize_of_chars (by decide)
    have hfit : isBoundedText noneRegisteredSummary = true := isBoundedText_iff.mpr (by omega)
    refine iff_of_true ⟨rfl, rfl, rfl, hfit⟩ ⟨fun hall => ?_, hnone hn⟩
    obtain ⟨q, hq⟩ := List.exists_mem_of_ne_nil _ hne
    exact hnone hn ⟨q, hq, hall q hq⟩

/-- The aggregated status of a bounded plan is built exactly when its texts fit. -/
theorem buildPlanOutcome_returns_iff {outcomes : List (String × StepDeliveryOutcome)}
    (h : Stampable route link startedAtUtc completedAtUtc) (hl : planLink route = .ok link)
    (hne : outcomes ≠ []) (hb : Bounded outcomes) :
    (∃ final, buildPlanOutcomeStatusFromRoute route outcomes startedAtUtc completedAtUtc =
      .ok final) ↔ SummaryFits outcomes := by
  obtain ⟨record, hr, he⟩ := buildPlanOutcome_record startedAtUtc completedAtUtc hl hne
  rw [he, ← hr.texts_iff hb]
  constructor
  · rintro ⟨final, hf⟩
    have hv := final.valid
    rw [emitStatus_eq_ok.mp hf] at hv
    exact (ExecutionStatus.validate_eq_ok.mp hv).1
  · intro ht
    exact ⟨_, emitStatus_of_valid (ExecutionStatus.validate_eq_ok.mpr ⟨ht, h.finalFields hr⟩)⟩

/-- The first status of a delivery is always built. -/
theorem buildAdmitted_returns (h : Stampable route link startedAtUtc completedAtUtc)
    (hl : planLink route = .ok link) (updatedAtUtc : TimestampUtc) :
    ∃ admitted, buildAdmittedNotStartedStatusFromRoute route updatedAtUtc = .ok admitted := by
  have hsize : "execution admitted for external bounded delivery".utf8ByteSize = 48 :=
    utf8ByteSize_of_chars (by decide)
  have hfit : isBoundedText "execution admitted for external bounded delivery" = true :=
    isBoundedText_iff.mpr (by omega)
  have hv := ExecutionStatus.validate_eq_ok.mpr ⟨⟨rfl, rfl, rfl, hfit⟩,
    h.admittedFields updatedAtUtc "execution admitted for external bounded delivery"⟩
  exact ⟨_, by rw [buildAdmittedNotStartedStatusFromRoute, hl]; exact emitStatus_of_valid hv⟩

/-- A step is put in progress exactly when its identifier is valid. -/
theorem buildInProgress_returns_iff (h : Stampable route link startedAtUtc completedAtUtc)
    (hl : planLink route = .ok link) {stepId : String} :
    (∃ statuses, buildInProgressStatusesFromRoute route [stepId] startedAtUtc = .ok statuses) ↔
      isValidStepId stepId = true := by
  have hv : ExecutionStatus.validate (inProgressStatus route link startedAtUtc stepId) = .ok () ↔
      isValidStepId stepId = true := by
    rw [ExecutionStatus.validate_eq_ok, inProgress_texts]
    exact ⟨fun hi => hi.1, fun hi => ⟨hi, h.inProgressFields stepId⟩⟩
  rw [← hv]
  constructor
  · rintro ⟨statuses, hb⟩
    simp only [buildInProgressStatusesFromRoute, hl, bind, Except.bind, List.mapM_cons] at hb
    cases he : emitStatus (inProgressStatus route link startedAtUtc stepId) with
    | error e => simp [he] at hb
    | ok s => exact emitStatus_eq_ok.mp he ▸ s.valid
  · intro hi
    refine ⟨[⟨_, hi⟩], ?_⟩
    simp [buildInProgressStatusesFromRoute, hl, bind, Except.bind, emitStatus_of_valid hi, pure,
      Except.pure]

end

end ExecutionService

end FaLocal
