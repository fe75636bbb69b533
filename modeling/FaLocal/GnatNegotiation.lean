import FaLocal.GnatAdmission

/-!
# What a negotiation decides

`GnatDispatchValidator::negotiate` answers in one of three ways, and the envelope and the
capability state alone decide which.
-/
namespace FaLocal
namespace GnatDispatchValidator

/-- What `validate_plan_surface` asks of an envelope. -/
structure PlanSurface (envelope : GnatDispatchEnvelope) : Prop where
  envelopeVersion : envelope.contractVersion = "GnatDispatchEnvelope.v1"
  requester : envelope.requesterService = "cortex"
  planVersion : envelope.plan.contractVersion = "GnatRunPlan.v1"
  operation : envelope.plan.operation = "syntax_extract"
  receiptSchema : envelope.plan.expectedReceiptSchema = "gnat-worker-receipt.schema.json"
  shardCount : envelope.plan.shardCount.toNat = envelope.plan.shards.length
  routing : envelope.routePolicy.faLocalOwnsExecutionRouting = true
  receipts : envelope.routePolicy.cortexValidatesReceipts = true
  retry : envelope.routePolicy.retryPolicy = .infrastructureOnly
  deadlines : envelope.requiredCapabilities.deadlineEnforced = true
  shards : ∀ shard ∈ envelope.plan.shards,
    shard.workerType ∈ envelope.requiredCapabilities.workerTypes

/-- What FA Local has to bring for a dispatch of its own. -/
structure Dispatchable (envelope : GnatDispatchEnvelope)
    (faLocalCapabilities : GnatFaLocalCapabilityState) : Prop where
  ready : faLocalCapabilities.faLocalState = .ready
  contracts : ∀ required ∈ envelope.requiredCapabilities.supportedContractVersions,
    required ∈ faLocalCapabilities.supportedContractVersions
  workers : ∀ workerType ∈ envelope.requiredCapabilities.workerTypes,
    workerType ∈ faLocalCapabilities.admittedWorkerTypes
  cancellation : faLocalCapabilities.cancellationSupported = true

/-- What leaves the run to the serial fallback of Cortex. -/
structure FallsBack (envelope : GnatDispatchEnvelope)
    (faLocalCapabilities : GnatFaLocalCapabilityState) : Prop where
  unready : faLocalCapabilities.faLocalState ≠ .ready
  allowed : envelope.plan.serialFallbackAllowed = true

/-- What a dispatch of FA Local's own is admitted with. -/
structure DispatchTerms (envelope : GnatDispatchEnvelope)
    (faLocalCapabilities : GnatFaLocalCapabilityState) (admission : GnatDispatchAdmission) :
    Prop where
  sorted : admission.admittedWorkerTypes.Pairwise (·.ctorIdx < ·.ctorIdx)
  required : ∀ workerType, workerType ∈ admission.admittedWorkerTypes ↔
    workerType ∈ envelope.requiredCapabilities.workerTypes
  shards : ∀ shard ∈ envelope.plan.shards, shard.workerType ∈ admission.admittedWorkerTypes
  admitted : ∀ workerType ∈ admission.admittedWorkerTypes,
    workerType ∈ faLocalCapabilities.admittedWorkerTypes
  concurrency : 1 ≤ envelope.plan.executionLimits.requestedConcurrency →
    1 ≤ envelope.plan.executionLimits.maxConcurrency → 1 ≤ faLocalCapabilities.maxConcurrency →
    admission.effectiveConcurrency = min (min envelope.plan.executionLimits.requestedConcurrency
      envelope.plan.executionLimits.maxConcurrency) faLocalCapabilities.maxConcurrency

section
variable {utcNow : TimestampUtc} {envelope : GnatDispatchEnvelope}
  {faLocalCapabilities : GnatFaLocalCapabilityState} {admission : GnatDispatchAdmission}

theorem check_eq_ok {condition : Bool} {denial : DenialGuard} {u : Unit} :
    check condition denial = .ok u ↔ condition = true := by
  cases condition <;> simp [check]

theorem validatePlanSurface_eq_ok {u : Unit} :
    validatePlanSurface utcNow envelope = .ok u ↔ PlanSurface envelope := by
  simp only [validatePlanSurface, bind_eq_ok, check_eq_ok, exists_const, beq_iff_eq,
    List.all_eq_true, List.contains_iff_mem]
  constructor
  · rintro ⟨h₁, h₂, h₃, h₄, h₅, h₆, h₇, h₈, h₉, h₁₀, h₁₁⟩
    exact ⟨h₁, h₂, h₃, h₄, h₅, h₆, h₇, h₈, h₉, h₁₀, h₁₁⟩
  · rintro ⟨h₁, h₂, h₃, h₄, h₅, h₆, h₇, h₈, h₉, h₁₀, h₁₁⟩
    exact ⟨h₁, h₂, h₃, h₄, h₅, h₆, h₇, h₈, h₉, h₁₀, h₁₁⟩

/-! ## The worker types -/

theorem mem_sortedWorkerTypes {workerTypes : List GnatWorkerType} {workerType : GnatWorkerType} :
    workerType ∈ sortedWorkerTypes workerTypes ↔ workerType ∈ workerTypes := by
  rw [sortedWorkerTypes, List.mem_filter, List.contains_iff_mem]
  cases workerType <;> simp

theorem sortedWorkerTypes_sorted (workerTypes : List GnatWorkerType) :
    (sortedWorkerTypes workerTypes).Pairwise (·.ctorIdx < ·.ctorIdx) := by
  refine List.Pairwise.filter _ ?_
  decide

/-- `.max(1)` of a limit that is at least 1. -/
theorem max_one {limit : UInt8} (h : 1 ≤ limit) : max limit 1 = limit := by
  change (if limit ≤ 1 then 1 else limit) = limit
  split
  · exact UInt8.le_antisymm h ‹_›
  · rfl

/-! ## The three answers -/

/-- What a negotiation has found out before it admits. -/
theorem negotiate_eq_ok (h : negotiate utcNow envelope faLocalCapabilities = .ok admission) :
    PlanSurface envelope ∧
      (Dispatchable envelope faLocalCapabilities ∧ admission.state = .readyForFaLocalDispatch ∧
          admission.admittedWorkerTypes =
            sortedWorkerTypes envelope.requiredCapabilities.workerTypes ∧
          admission.effectiveConcurrency =
            max (min (min envelope.plan.executionLimits.requestedConcurrency
              envelope.plan.executionLimits.maxConcurrency) faLocalCapabilities.maxConcurrency) 1 ∨
        FallsBack envelope faLocalCapabilities ∧ admission.state = .serialFallbackPermitted ∧
          admission.admittedWorkerTypes = [] ∧ admission.effectiveConcurrency = 1) := by
  rw [negotiate, bind_eq_ok] at h
  obtain ⟨u, hsurface, h⟩ := h
  refine ⟨validatePlanSurface_eq_ok.mp hsurface, ?_⟩
  cases hstate : faLocalCapabilities.faLocalState with
  | ready =>
    simp only [hstate, bind_eq_ok, validateSupportedContracts, validateWorkerAdmission,
      validateCancellation, check_eq_ok, exists_const, List.all_eq_true,
      List.contains_iff_mem] at h
    obtain ⟨hcontracts, hworkers, hcancellation, h⟩ := h
    cases h
    exact .inl ⟨⟨hstate, hcontracts, hworkers, hcancellation⟩, rfl, rfl, rfl⟩
  | degraded | unavailable =>
    simp only [hstate] at h
    split at h
    · cases h
      exact .inr ⟨⟨by rw [hstate]; decide, ‹_›⟩, rfl, rfl, rfl⟩
    · cases h

theorem negotiate_of_dispatchable (hsurface : PlanSurface envelope)
    (h : Dispatchable envelope faLocalCapabilities) :
    ∃ admission, negotiate utcNow envelope faLocalCapabilities = .ok admission ∧
      admission.state = .readyForFaLocalDispatch := by
  simp only [negotiate, bind_eq_ok, validatePlanSurface_eq_ok, exists_const, h.ready,
    validateSupportedContracts, validateWorkerAdmission, validateCancellation, check_eq_ok,
    List.all_eq_true, List.contains_iff_mem]
  exact ⟨_, ⟨hsurface, h.contracts, h.workers, h.cancellation, rfl⟩, rfl⟩

theorem negotiate_of_fallsBack (hsurface : PlanSurface envelope)
    (h : FallsBack envelope faLocalCapabilities) :
    ∃ admission, negotiate utcNow envelope faLocalCapabilities = .ok admission ∧
      admission.state = .serialFallbackPermitted := by
  simp only [negotiate, bind_eq_ok, validatePlanSurface_eq_ok, exists_const]
  cases hstate : faLocalCapabilities.faLocalState with
  | ready => exact absurd hstate h.unready
  | degraded | unavailable =>
    simp only [h.allowed, if_true]
    exact ⟨_, ⟨hsurface, rfl⟩, rfl⟩

theorem dispatchTerms_of_sorted (hsurface : PlanSurface envelope)
    (h : Dispatchable envelope faLocalCapabilities)
    (htypes : admission.admittedWorkerTypes =
      sortedWorkerTypes envelope.requiredCapabilities.workerTypes)
    (hconcurrency : admission.effectiveConcurrency =
      max (min (min envelope.plan.executionLimits.requestedConcurrency
        envelope.plan.executionLimits.maxConcurrency) faLocalCapabilities.maxConcurrency) 1) :
    DispatchTerms envelope faLocalCapabilities admission where
  sorted := by
    rw [htypes]
    exact sortedWorkerTypes_sorted _
  required := by
    intro workerType
    rw [htypes, mem_sortedWorkerTypes]
  shards := by
    intro shard hmem
    rw [htypes, mem_sortedWorkerTypes]
    exact hsurface.shards shard hmem
  admitted := by
    intro workerType hmem
    rw [htypes, mem_sortedWorkerTypes] at hmem
    exact h.workers workerType hmem
  concurrency := by
    intro hrequested hplan hmaximum
    rw [hconcurrency]
    exact max_one (Std.le_min_iff.mpr ⟨Std.le_min_iff.mpr ⟨hrequested, hplan⟩, hmaximum⟩)

/-- The envelope and the capability state decide the answer, and a denial is what is left.
Every shard runs on a worker type that FA Local admits, also where lists repeat entries. -/
theorem negotiate_classified (utcNow : TimestampUtc) (envelope : GnatDispatchEnvelope)
    (faLocalCapabilities : GnatFaLocalCapabilityState) :
    ((∃ admission, negotiate utcNow envelope faLocalCapabilities = .ok admission ∧
        admission.state = .readyForFaLocalDispatch) ↔
      PlanSurface envelope ∧ Dispatchable envelope faLocalCapabilities) ∧
    ((∃ admission, negotiate utcNow envelope faLocalCapabilities = .ok admission ∧
        admission.state = .serialFallbackPermitted) ↔
      PlanSurface envelope ∧ FallsBack envelope faLocalCapabilities) ∧
    ((∃ denial, negotiate utcNow envelope faLocalCapabilities = .error denial) ↔
      ¬ (PlanSurface envelope ∧ Dispatchable envelope faLocalCapabilities) ∧
        ¬ (PlanSurface envelope ∧ FallsBack envelope faLocalCapabilities)) ∧
    ∀ admission, negotiate utcNow envelope faLocalCapabilities = .ok admission →
      (admission.state = .readyForFaLocalDispatch →
        DispatchTerms envelope faLocalCapabilities admission) ∧
      (admission.state = .serialFallbackPermitted →
        admission.admittedWorkerTypes = [] ∧ admission.effectiveConcurrency = 1) := by
  refine ⟨⟨?_, ?_⟩, ⟨?_, ?_⟩, ⟨?_, ?_⟩, ?_⟩
  · rintro ⟨admission, h, hstate⟩
    obtain ⟨hsurface, ⟨hdispatchable, -⟩ | ⟨-, hfallback, -⟩⟩ := negotiate_eq_ok h
    · exact ⟨hsurface, hdispatchable⟩
    · rw [hstate] at hfallback
      cases hfallback
  · rintro ⟨hsurface, hdispatchable⟩
    exact negotiate_of_dispatchable hsurface hdispatchable
  · rintro ⟨admission, h, hstate⟩
    obtain ⟨hsurface, ⟨-, hready, -⟩ | ⟨hfallsBack, -⟩⟩ := negotiate_eq_ok h
    · rw [hstate] at hready
      cases hready
    · exact ⟨hsurface, hfallsBack⟩
  · rintro ⟨hsurface, hfallsBack⟩
    exact negotiate_of_fallsBack hsurface hfallsBack
  · rintro ⟨denial, h⟩
    constructor
    · rintro ⟨hsurface, hdispatchable⟩
      obtain ⟨admission, hadmission, -⟩ := negotiate_of_dispatchable hsurface hdispatchable
      rw [h] at hadmission
      cases hadmission
    · rintro ⟨hsurface, hfallsBack⟩
      obtain ⟨admission, hadmission, -⟩ := negotiate_of_fallsBack hsurface hfallsBack
      rw [h] at hadmission
      cases hadmission
  · rintro ⟨hdispatchable, hfallsBack⟩
    cases h : negotiate utcNow envelope faLocalCapabilities with
    | error denial => exact ⟨denial, rfl⟩
    | ok admission =>
      obtain ⟨hsurface, ⟨hd, -⟩ | ⟨hf, -⟩⟩ := negotiate_eq_ok h
      · exact absurd ⟨hsurface, hd⟩ hdispatchable
      · exact absurd ⟨hsurface, hf⟩ hfallsBack
  · intro admission h
    obtain ⟨hsurface, ⟨hdispatchable, hstate, htypes, hconcurrency⟩ |
      ⟨hfallsBack, hstate, htypes, hconcurrency⟩⟩ := negotiate_eq_ok h
    · refine ⟨fun _ => dispatchTerms_of_sorted hsurface hdispatchable htypes hconcurrency, ?_⟩
      rw [hstate]
      rintro ⟨⟩
    · refine ⟨?_, fun _ => ⟨htypes, hconcurrency⟩⟩
      rw [hstate]
      rintro ⟨⟩

end

end GnatDispatchValidator
end FaLocal
