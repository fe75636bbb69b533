import FaLocal.Contracts

/-!
# Execution plan validation

`ExecutionPlanValidator::validate` and the canonical form behind the stable plan
hash. `Accepted` lists what an accepted plan has shown; in particular its step
identifiers are distinct and every fallback lies behind the step it stands for.
-/
namespace FaLocal

structure CanonicalExecutionPlanStep where
  stepId : String
  capabilityId : String
  declaredSideEffectClass : String
  timeoutBudgetMs : UInt64
  deriving DecidableEq

structure CanonicalFallbackReference where
  stepId : String
  fallbackStepId : String
  deriving DecidableEq

structure CanonicalExecutionPlan where
  steps : List CanonicalExecutionPlanStep
  referencedCapabilities : List String
  declaredMaxStepCount : UInt32
  declaredSideEffectClasses : List String
  fallbackReferences : List CanonicalFallbackReference
  cancellationPolicy : CancellationPolicy
  completionPolicy : CompletionPolicy
  maxDurationBudgetMs : UInt64
  deriving DecidableEq

/-- The lower-case hexadecimal SHA-256 of a canonical plan's JSON. -/
structure PlanDigest where
  hex : CanonicalExecutionPlan → String
  wellFormed : ∀ canonical, isValidHash (hex canonical) = true

def sideEffectClassLabel : SideEffectClass → String
  | .none => "none"
  | .localFileWrite => "local_file_write"
  | .localDbMutation => "local_db_mutation"
  | .localProcessSpawn => "local_process_spawn"
  | .externalNetworkDeniedByDefault => "external_network_denied_by_default"
  | .otherGoverned => "other_governed"

namespace CanonicalFallbackReference

/-- By step, then by fallback step. -/
def Before (left right : CanonicalFallbackReference) : Prop :=
  left.stepId < right.stepId ∨
    left.stepId = right.stepId ∧ left.fallbackStepId ≤ right.fallbackStepId

instance : DecidableRel Before := fun left right =>
  inferInstanceAs (Decidable (left.stepId < right.stepId ∨
    left.stepId = right.stepId ∧ left.fallbackStepId ≤ right.fallbackStepId))

end CanonicalFallbackReference

namespace ExecutionPlanValidator

/-- The canonical content that `compute_stable_plan_hash` serialises. -/
def canonical (plan : ExecutionPlan) : CanonicalExecutionPlan where
  steps := plan.steps.map fun step =>
    { stepId := step.stepId
      capabilityId := step.capabilityId.display
      declaredSideEffectClass := sideEffectClassLabel step.declaredSideEffectClass
      timeoutBudgetMs := step.timeoutBudgetMs }
  referencedCapabilities :=
    (plan.referencedCapabilities.map UuidId.display).insertionSort (· ≤ ·)
  declaredMaxStepCount := plan.declaredMaxStepCount
  declaredSideEffectClasses :=
    (plan.declaredSideEffectClasses.map sideEffectClassLabel).insertionSort (· ≤ ·)
  fallbackReferences := (plan.fallbackReferences.map fun fallbackReference =>
    { stepId := fallbackReference.stepId
      fallbackStepId := fallbackReference.fallbackStepId : CanonicalFallbackReference }).insertionSort
        CanonicalFallbackReference.Before
  cancellationPolicy := plan.cancellationPolicy
  completionPolicy := plan.completionPolicy
  maxDurationBudgetMs := plan.maxDurationBudgetMs

def computeStablePlanHash (digest : PlanDigest) (plan : ExecutionPlan) : String :=
  digest.hex (canonical plan)

def contractDenial (utcNow : TimestampUtc) (summary : String) : DenialGuard :=
  deny utcNow .contractInvalid .operation .contract summary

def capabilityDenial (utcNow : TimestampUtc) (reasonClass : DenialReasonClass)
    (summary : String) : DenialGuard :=
  deny utcNow reasonClass .capability .policy summary

def checkReferencedCapability (utcNow : TimestampUtc) (registry : CapabilityRegistry)
    (capabilityId : CapabilityId) : Except DenialGuard Unit :=
  match registry.capabilityFor capabilityId with
  | none => .error (capabilityDenial utcNow .capabilityNotAdmitted
      "execution plan references unregistered capability")
  | some capability =>
    if capability.enabledState = .disabled then
      .error (capabilityDenial utcNow .disabledByOperator
        "execution plan references disabled capability")
    else if capability.revocationState = .revoked then
      .error (capabilityDenial utcNow .capabilityNotAdmitted
        "execution plan references revoked capability")
    else if capability.ownerService ≠ serviceId then
      .error (capabilityDenial utcNow .capabilityNotAdmitted
        "execution plan references capability outside fa-local ownership")
    else .ok ()

/-- What the loop over the steps has gathered. -/
structure StepScan where
  index : Nat
  stepIndexById : String → Option Nat
  totalTimeoutBudgetMs : UInt64

def StepScan.start : StepScan := ⟨0, fun _ => none, 0⟩

def checkedAdd (a b : UInt64) : Option UInt64 :=
  if a.toNat + b.toNat < UInt64.size then some (a + b) else none

def scanStep (utcNow : TimestampUtc) (plan : ExecutionPlan) (registry : CapabilityRegistry)
    (scan : StepScan) (step : ExecutionPlanStep) : Except DenialGuard StepScan :=
  if (scan.stepIndexById step.stepId).isSome then
    .error (contractDenial utcNow "execution plan contains duplicate step ids")
  else if step.capabilityId ∉ plan.referencedCapabilities then
    .error (contractDenial utcNow "execution plan step references undeclared capability")
  else if sideEffectClassLabel step.declaredSideEffectClass ∉
      plan.declaredSideEffectClasses.map sideEffectClassLabel then
    .error (contractDenial utcNow "execution plan step uses undeclared side effect class")
  else
    match registry.capabilityFor step.capabilityId with
    | none => .error (capabilityDenial utcNow .capabilityNotAdmitted
        "execution plan references unregistered capability")
    | some capability =>
      if capability.sideEffectClass ≠ step.declaredSideEffectClass then
        .error (contractDenial utcNow
          "execution plan step side effect does not match capability")
      else if capability.timeoutBudgetMs < step.timeoutBudgetMs then
        .error (contractDenial utcNow
          "execution plan step timeout exceeds capability timeout budget")
      else
        match checkedAdd scan.totalTimeoutBudgetMs step.timeoutBudgetMs with
        | none => .error (contractDenial utcNow "execution plan timeout budget overflowed")
        | some total => .ok
            { index := scan.index + 1
              stepIndexById := Function.update scan.stepIndexById step.stepId (some scan.index)
              totalTimeoutBudgetMs := total }

def checkFallbackReference (utcNow : TimestampUtc) (stepIndexById : String → Option Nat)
    (fallbackReference : FallbackReference) : Except DenialGuard Unit :=
  match stepIndexById fallbackReference.stepId with
  | none => .error (contractDenial utcNow
      "execution plan fallback references undeclared primary step")
  | some stepIndex =>
    match stepIndexById fallbackReference.fallbackStepId with
    | none => .error (contractDenial utcNow
        "execution plan fallback references undeclared fallback step")
    | some fallbackIndex =>
      if fallbackReference.stepId = fallbackReference.fallbackStepId then
        .error (contractDenial utcNow "execution plan fallback cannot target the same step")
      else if fallbackIndex ≤ stepIndex then
        .error (contractDenial utcNow
          "execution plan fallback must target a later declared step")
      else .ok ()

def validate (digest : PlanDigest) (utcNow : TimestampUtc) (plan : ExecutionPlan)
    (registry : CapabilityRegistry) : Except DenialGuard ValidatedExecutionPlan :=
  if plan.steps.isEmpty then
    .error (contractDenial utcNow "execution plan must declare at least one step")
  else if plan.declaredMaxStepCount.toNat < plan.steps.length then
    .error (contractDenial utcNow "execution plan exceeds declared max step count")
  else do
    plan.referencedCapabilities.forM (checkReferencedCapability utcNow registry)
    let scan ← plan.steps.foldlM (scanStep utcNow plan registry) .start
    if plan.maxDurationBudgetMs < scan.totalTimeoutBudgetMs then
      .error (contractDenial utcNow "execution plan timeout sum exceeds max duration budget")
    else if plan.fallbackReferences ≠ [] ∧
        plan.completionPolicy ≠ .allowDeclaredFallbackCompletion then
      .error (contractDenial utcNow
        "execution plan fallback references require fallback-aware completion policy")
    else do
      plan.fallbackReferences.forM (checkFallbackReference utcNow scan.stepIndexById)
      let stablePlanHash := computeStablePlanHash digest plan
      if plan.stablePlanHash ≠ stablePlanHash then
        .error (deny utcNow .integrityFailed .artifact .contract
          "execution plan hash does not match canonical plan content")
      else .ok { plan := plan, stablePlanHash := stablePlanHash }

/-! ## What an accepted plan has shown -/

theorem forM_eq_ok {β ε : Type} {f : β → Except ε Unit} {l : List β} :
    l.forM f = .ok () ↔ ∀ x ∈ l, f x = .ok () := by
  induction l with
  | nil => simp [pure, Except.pure]
  | cons x l ih =>
    cases hx : f x with
    | error e => simp [bind, Except.bind, hx]
    | ok u => simpa [bind, Except.bind, hx] using ih

theorem sideEffectClassLabel_inj {a b : SideEffectClass}
    (h : sideEffectClassLabel a = sideEffectClassLabel b) : a = b := by
  cases a <;> cases b <;> simp [sideEffectClassLabel] at h ⊢

structure CapabilityUsable (registry : CapabilityRegistry) (capabilityId : CapabilityId)
    (capability : CapabilityRecord) : Prop where
  registered : registry.capabilityFor capabilityId = some capability
  enabled : capability.enabledState ≠ .disabled
  unrevoked : capability.revocationState ≠ .revoked
  owned : capability.ownerService = serviceId

theorem checkReferencedCapability_eq_ok {utcNow : TimestampUtc} {registry : CapabilityRegistry}
    {capabilityId : CapabilityId} :
    checkReferencedCapability utcNow registry capabilityId = .ok () ↔
      ∃ capability, CapabilityUsable registry capabilityId capability := by
  cases hc : registry.capabilityFor capabilityId with
  | none =>
    simp only [checkReferencedCapability, hc, reduceCtorEq, false_iff, not_exists]
    intro capability h
    simpa [hc] using h.registered
  | some capability =>
    simp only [checkReferencedCapability, hc]
    constructor
    · intro h
      split_ifs at h with h₁ h₂ h₃
      exact ⟨capability, hc, h₁, h₂, not_not.mp h₃⟩
    · rintro ⟨capability', h⟩
      cases hc.symm.trans h.registered
      simp [h.enabled, h.unrevoked, h.owned]

/-- What a step has shown on its own. -/
structure StepFits (plan : ExecutionPlan) (registry : CapabilityRegistry)
    (step : ExecutionPlanStep) : Prop where
  declared : step.capabilityId ∈ plan.referencedCapabilities
  effectDeclared : step.declaredSideEffectClass ∈ plan.declaredSideEffectClasses
  capability : ∃ capability, registry.capabilityFor step.capabilityId = some capability ∧
    capability.sideEffectClass = step.declaredSideEffectClass ∧
    step.timeoutBudgetMs ≤ capability.timeoutBudgetMs

def StepScan.advance (scan : StepScan) (step : ExecutionPlanStep) : StepScan where
  index := scan.index + 1
  stepIndexById := Function.update scan.stepIndexById step.stepId (some scan.index)
  totalTimeoutBudgetMs := scan.totalTimeoutBudgetMs + step.timeoutBudgetMs

section
variable {utcNow : TimestampUtc} {plan : ExecutionPlan} {registry : CapabilityRegistry}
  {scan scan' : StepScan} {step : ExecutionPlanStep} {steps : List ExecutionPlanStep}

theorem label_mem_iff {c : SideEffectClass} {l : List SideEffectClass} :
    sideEffectClassLabel c ∈ l.map sideEffectClassLabel ↔ c ∈ l := by
  constructor
  · intro h
    obtain ⟨c', hc', he⟩ := List.mem_map.mp h
    exact sideEffectClassLabel_inj he ▸ hc'
  · exact List.mem_map_of_mem

theorem scanStep_eq_ok :
    scanStep utcNow plan registry scan step = .ok scan' ↔
      scan.stepIndexById step.stepId = none ∧ StepFits plan registry step ∧
      scan.totalTimeoutBudgetMs.toNat + step.timeoutBudgetMs.toNat < UInt64.size ∧
      scan' = scan.advance step := by
  constructor
  · intro h
    simp only [scanStep, label_mem_iff] at h
    split at h
    · cases h
    rename_i hid
    split at h
    · cases h
    rename_i hdecl
    split at h
    · cases h
    rename_i heff
    split at h
    · cases h
    rename_i capability hc
    split at h
    · cases h
    rename_i hclass
    split at h
    · cases h
    rename_i htime
    split at h
    · cases h
    rename_i total htotal
    cases h
    rw [checkedAdd] at htotal
    split at htotal
    · rename_i hlt
      cases htotal
      exact ⟨by simpa using hid, ⟨not_not.mp hdecl, not_not.mp heff, capability, hc,
        not_not.mp hclass, UInt64.not_lt.mp htime⟩, hlt, rfl⟩
    · cases htotal
  · rintro ⟨hid, ⟨hdecl, heff, capability, hc, hclass, htime⟩, hlt, rfl⟩
    have ht : ¬ capability.timeoutBudgetMs < step.timeoutBudgetMs := UInt64.not_lt.mpr htime
    simp only [scanStep, label_mem_iff, hid, hdecl, heff, hc, hclass, ht, checkedAdd, hlt,
      Option.isSome_none, Bool.false_eq_true, not_true_eq_false, ne_eq, if_false, if_true]
    rfl

/-- The total of the declared timeouts. -/
def timeoutSum (steps : List ExecutionPlanStep) : Nat :=
  (steps.map fun step => step.timeoutBudgetMs.toNat).sum

theorem advance_total
    (h : scan.totalTimeoutBudgetMs.toNat + step.timeoutBudgetMs.toNat < UInt64.size) :
    (scan.advance step).totalTimeoutBudgetMs.toNat =
      scan.totalTimeoutBudgetMs.toNat + step.timeoutBudgetMs.toNat := by
  simp only [StepScan.advance, UInt64.toNat_add]
  exact Nat.mod_eq_of_lt h

/-- The loop over the steps returns exactly when the identifiers are new, each
step fits and the budget does not overflow. -/
theorem scan_eq_ok :
    steps.foldlM (scanStep utcNow plan registry) scan = .ok scan' ↔
      (steps.map (·.stepId)).Nodup ∧ (∀ s ∈ steps, scan.stepIndexById s.stepId = none) ∧
      (∀ s ∈ steps, StepFits plan registry s) ∧
      scan.totalTimeoutBudgetMs.toNat + timeoutSum steps < UInt64.size ∧
      scan' = steps.foldl StepScan.advance scan := by
  induction steps generalizing scan with
  | nil =>
    have ht := scan.totalTimeoutBudgetMs.toNat_lt
    simp [pure, Except.pure, timeoutSum, eq_comm, UInt64.size, ht]
  | cons s steps ih =>
    have hsum : timeoutSum (s :: steps) = s.timeoutBudgetMs.toNat + timeoutSum steps := by
      simp [timeoutSum]
    rw [List.foldlM_cons, hsum]
    constructor
    · intro h
      cases hs : scanStep utcNow plan registry scan s with
      | error e => simp [hs, bind, Except.bind] at h
      | ok mid =>
        obtain ⟨hid, hfit, hlt, rfl⟩ := scanStep_eq_ok.mp hs
        simp only [hs, bind, Except.bind] at h
        obtain ⟨hnd, hnew, hfits, hbound, rfl⟩ := ih.mp h
        rw [advance_total hlt] at hbound
        have hne : ∀ t ∈ steps, t.stepId ≠ s.stepId := by
          intro t ht he
          simpa [StepScan.advance, he] using hnew t ht
        refine ⟨?_, ?_, List.forall_mem_cons.mpr ⟨hfit, hfits⟩, by omega, rfl⟩
        · simpa [hnd] using hne
        · refine List.forall_mem_cons.mpr ⟨hid, fun t ht => ?_⟩
          simpa [StepScan.advance, hne t ht] using hnew t ht
    · rintro ⟨hnd, hnew, hfits, hbound, rfl⟩
      obtain ⟨hid, hnew⟩ := List.forall_mem_cons.mp hnew
      obtain ⟨hfit, hfits⟩ := List.forall_mem_cons.mp hfits
      have hlt : scan.totalTimeoutBudgetMs.toNat + s.timeoutBudgetMs.toNat < UInt64.size := by omega
      rw [scanStep_eq_ok.mpr ⟨hid, hfit, hlt, rfl⟩]
      simp only [List.map_cons, List.nodup_cons, List.mem_map, not_exists, not_and] at hnd
      refine ih.mpr ⟨hnd.2, fun t ht => ?_, hfits, by rw [advance_total hlt]; omega, rfl⟩
      simpa [StepScan.advance, hnd.1 t ht] using hnew t ht

/-- The gathered index of an identifier is its position. -/
theorem advance_index (hnd : (steps.map (·.stepId)).Nodup) (id : String) :
    (steps.foldl StepScan.advance scan).stepIndexById id =
      match (steps.map (·.stepId)).idxOf? id with
      | some i => some (scan.index + i)
      | none => scan.stepIndexById id := by
  induction steps generalizing scan with
  | nil => rfl
  | cons s steps ih =>
    simp only [List.map_cons, List.nodup_cons] at hnd
    rw [List.foldl_cons, ih hnd.2, List.map_cons, List.idxOf?_cons]
    by_cases hs : s.stepId = id
    · subst hs
      simp [List.idxOf?_eq_none_iff.mpr hnd.1, StepScan.advance]
    · have hne : id ≠ s.stepId := fun he => hs he.symm
      cases hi : (steps.map (·.stepId)).idxOf? id with
      | none => simp [hs, hne, StepScan.advance]
      | some i =>
        simp only [StepScan.advance, beq_iff_eq, hs, if_false, Option.map_some]
        congr 1
        omega

theorem advance_totals (h : scan.totalTimeoutBudgetMs.toNat + timeoutSum steps < UInt64.size) :
    (steps.foldl StepScan.advance scan).totalTimeoutBudgetMs.toNat =
      scan.totalTimeoutBudgetMs.toNat + timeoutSum steps := by
  induction steps generalizing scan with
  | nil => simp [timeoutSum]
  | cons s steps ih =>
    have hsum : timeoutSum (s :: steps) = s.timeoutBudgetMs.toNat + timeoutSum steps := by
      simp [timeoutSum]
    have hs : (scan.advance s).totalTimeoutBudgetMs.toNat =
        scan.totalTimeoutBudgetMs.toNat + s.timeoutBudgetMs.toNat := advance_total (by omega)
    rw [List.foldl_cons, ih (by omega), hs]
    omega

end

/-- What an accepted plan has shown. -/
structure Accepted (digest : PlanDigest) (plan : ExecutionPlan) (registry : CapabilityRegistry) :
    Prop where
  nonempty : plan.steps ≠ []
  bounded : plan.steps.length ≤ plan.declaredMaxStepCount.toNat
  usable : ∀ c ∈ plan.referencedCapabilities, ∃ capability, CapabilityUsable registry c capability
  distinct : (plan.steps.map (·.stepId)).Nodup
  fits : ∀ s ∈ plan.steps, StepFits plan registry s
  budget : timeoutSum plan.steps ≤ plan.maxDurationBudgetMs.toNat
  aware : plan.fallbackReferences ≠ [] → plan.completionPolicy = .allowDeclaredFallbackCompletion
  later : ∀ r ∈ plan.fallbackReferences, ∃ i j,
    (plan.steps.map (·.stepId)).idxOf? r.stepId = some i ∧
    (plan.steps.map (·.stepId)).idxOf? r.fallbackStepId = some j ∧ i < j
  hashed : plan.stablePlanHash = computeStablePlanHash digest plan

section
variable {digest : PlanDigest} {utcNow : TimestampUtc} {plan : ExecutionPlan}
  {registry : CapabilityRegistry} {v : ValidatedExecutionPlan}

theorem checkFallbackReference_eq_ok {index : String → Option Nat} {r : FallbackReference} :
    checkFallbackReference utcNow index r = .ok () ↔
      ∃ i j, index r.stepId = some i ∧ index r.fallbackStepId = some j ∧ i < j := by
  cases hi : index r.stepId with
  | none => simp [checkFallbackReference, hi]
  | some i =>
    cases hj : index r.fallbackStepId with
    | none => simp [checkFallbackReference, hi, hj]
    | some j =>
      simp only [checkFallbackReference, hi, hj, Option.some.injEq, exists_eq_left', exists_and_left]
      constructor
      · intro h
        split_ifs at h with h₁ h₂
        omega
      · intro h
        have hne : r.stepId ≠ r.fallbackStepId := by
          intro he
          rw [he, hj] at hi
          cases hi
          omega
        simp [hne, h]

/-- The index gathered for a plan with distinct identifiers. -/
theorem start_index (hnd : (plan.steps.map (·.stepId)).Nodup) :
    (plan.steps.foldl StepScan.advance .start).stepIndexById =
      fun id => (plan.steps.map (·.stepId)).idxOf? id := by
  funext id
  rw [advance_index hnd]
  cases (plan.steps.map (·.stepId)).idxOf? id with
  | none => rfl
  | some i => simp [StepScan.start]

/-- The validator accepts exactly these plans, and hands them on unchanged. -/
theorem validate_eq_ok :
    validate digest utcNow plan registry = .ok v ↔
      Accepted digest plan registry ∧ v = ⟨plan, computeStablePlanHash digest plan⟩ := by
  have hzero : StepScan.start.totalTimeoutBudgetMs.toNat = 0 := rfl
  constructor
  · intro h
    simp only [validate, ite_error_eq_ok, bind_eq_ok] at h
    obtain ⟨hne, hlen, _, hu, scan, hs, hbudget, haware, _, hf, hhash, hv⟩ := h
    cases hv
    obtain ⟨hnd, -, hfits, hbound, rfl⟩ := scan_eq_ok.mp hs
    have hle : (plan.steps.foldl StepScan.advance .start).totalTimeoutBudgetMs ≤
      plan.maxDurationBudgetMs := UInt64.not_lt.mp hbudget
    have hle' := UInt64.le_iff_toNat_le.mp hle
    rw [advance_totals hbound, hzero] at hle'
    rw [start_index hnd] at hf
    exact ⟨{
      nonempty := by simpa using hne
      bounded := by omega
      usable := fun c hc => checkReferencedCapability_eq_ok.mp (forM_eq_ok.mp hu c hc)
      distinct := hnd
      fits := hfits
      budget := by omega
      aware := fun hr => by_contra fun hc => haware ⟨hr, hc⟩
      later := fun r hr => checkFallbackReference_eq_ok.mp (forM_eq_ok.mp hf r hr)
      hashed := not_not.mp hhash }, rfl⟩
  · rintro ⟨h, rfl⟩
    have hmax := plan.maxDurationBudgetMs.toNat_lt
    have hbudget := h.budget
    have hbound : StepScan.start.totalTimeoutBudgetMs.toNat + timeoutSum plan.steps <
        UInt64.size := by
      simp only [hzero, UInt64.size] at hmax ⊢
      omega
    have hu : plan.referencedCapabilities.forM (checkReferencedCapability utcNow registry) =
        .ok () := forM_eq_ok.mpr fun c hc => checkReferencedCapability_eq_ok.mpr (h.usable c hc)
    have hs : plan.steps.foldlM (scanStep utcNow plan registry) .start =
        .ok (plan.steps.foldl StepScan.advance .start) :=
      scan_eq_ok.mpr ⟨h.distinct, fun _ _ => rfl, h.fits, hbound, rfl⟩
    have hf : plan.fallbackReferences.forM (checkFallbackReference utcNow
        (plan.steps.foldl StepScan.advance .start).stepIndexById) = .ok () := by
      rw [start_index h.distinct]
      exact forM_eq_ok.mpr fun r hr => checkFallbackReference_eq_ok.mpr (h.later r hr)
    have hle : ¬ plan.maxDurationBudgetMs <
        (plan.steps.foldl StepScan.advance .start).totalTimeoutBudgetMs := by
      rw [UInt64.not_lt, UInt64.le_iff_toNat_le, advance_totals hbound, hzero]
      omega
    have haware : ¬ (plan.fallbackReferences ≠ [] ∧
        plan.completionPolicy ≠ .allowDeclaredFallbackCompletion) := fun hc => hc.2 (h.aware hc.1)
    have hlen := h.bounded
    simp only [validate, List.isEmpty_eq_false_iff.mpr h.nonempty, hu, hs, hf, hle, bind,
      Except.bind, Bool.false_eq_true, if_false, if_neg haware, ne_eq, h.hashed,
      not_true_eq_false, Nat.not_lt.mpr hlen]

theorem accepted_of_validate (h : validate digest utcNow plan registry = .ok v) :
    v.plan = plan ∧ Accepted digest v.plan registry := by
  obtain ⟨hacc, rfl⟩ := validate_eq_ok.mp h
  exact ⟨rfl, hacc⟩

/-- A declared fallback lies behind the step it stands for. -/
theorem Accepted.behind (h : Accepted digest plan registry) {r : FallbackReference}
    (hr : r ∈ plan.fallbackReferences) {pre post : List ExecutionPlanStep} {s : ExecutionPlanStep}
    (hs : plan.steps = pre ++ s :: post) (he : r.stepId = s.stepId) :
    r.fallbackStepId ∈ post.map (·.stepId) := by
  obtain ⟨i, j, hi, hj, hij⟩ := h.later r hr
  obtain ⟨hilt, hig, -⟩ := List.idxOf?_eq_some_iff.mp hi
  obtain ⟨hjlt, hjg, -⟩ := List.idxOf?_eq_some_iff.mp hj
  have hpos : i = pre.length := by
    have hlt : pre.length < (plan.steps.map (·.stepId)).length := by simp [hs]
    have hpg : (plan.steps.map (·.stepId))[pre.length] = s.stepId := by simp [hs]
    exact h.distinct.getElem_inj_iff.mp (hig.trans (he.trans hpg.symm))
  rw [List.mem_iff_getElem]
  refine ⟨j - (pre.length + 1), ?_, ?_⟩
  · simp only [hs, List.map_append, List.map_cons, List.length_append, List.length_cons,
      List.length_map] at hjlt ⊢
    omega
  · rw [← hjg]
    simp only [hs, List.map_append, List.map_cons, List.getElem_append, List.getElem_cons,
      List.length_map]
    split
    · omega
    · split
      · omega
      · congr 1

end

end ExecutionPlanValidator

end FaLocal
