import FaLocal.PlanValidation
import FaLocal.RegistryLookup

/-!
# What the plan validator accepts

The rules of an execution plan in terms of its own lists: positions of steps,
first records of a registry and a sum of natural numbers. The validator accepts
exactly the plans that conform to them.
-/
namespace FaLocal

namespace ExecutionPlanValidator

/-- The first record of a referenced capability may be used. -/
structure ReferenceConforms (registry : CapabilityRegistry) (capabilityId : CapabilityId)
    (record : CapabilityRecord) : Prop where
  first : registry.FirstRecord capabilityId record
  enabled : record.enabledState ≠ .disabled
  unrevoked : record.revocationState ≠ .revoked
  owned : record.ownerService = "fa-local"

/-- A step stays within its plan and within the first record of its capability. -/
structure StepConforms (plan : ExecutionPlan) (registry : CapabilityRegistry)
    (step : ExecutionPlanStep) (record : CapabilityRecord) : Prop where
  referenced : step.capabilityId ∈ plan.referencedCapabilities
  declared : step.declaredSideEffectClass ∈ plan.declaredSideEffectClasses
  first : registry.FirstRecord step.capabilityId record
  sideEffect : record.sideEffectClass = step.declaredSideEffectClass
  timeout : step.timeoutBudgetMs.toNat ≤ record.timeoutBudgetMs.toNat

/-- A step stands at a position of a plan. -/
def StandsAt (plan : ExecutionPlan) (stepId : String) (i : Nat) : Prop :=
  ∃ step, plan.steps[i]? = some step ∧ step.stepId = stepId

/-- The rules of a plan against a registry. -/
structure Conforms (digest : PlanDigest) (plan : ExecutionPlan)
    (registry : CapabilityRegistry) : Prop where
  counted : 1 ≤ plan.steps.length ∧ plan.steps.length ≤ plan.declaredMaxStepCount.toNat
  references : ∀ capabilityId ∈ plan.referencedCapabilities,
    ∃ record, ReferenceConforms registry capabilityId record
  distinct : ∀ stepId i j, StandsAt plan stepId i → StandsAt plan stepId j → i = j
  steps : ∀ step ∈ plan.steps, ∃ record, StepConforms plan registry step record
  budget : (plan.steps.map fun step => step.timeoutBudgetMs.toNat).sum ≤
    plan.maxDurationBudgetMs.toNat
  policy : plan.fallbackReferences ≠ [] →
    plan.completionPolicy = .allowDeclaredFallbackCompletion
  later : ∀ reference ∈ plan.fallbackReferences, ∃ i j, StandsAt plan reference.stepId i ∧
    StandsAt plan reference.fallbackStepId j ∧ i < j
  hashed : plan.stablePlanHash = computeStablePlanHash digest plan

section
variable {plan : ExecutionPlan} {registry : CapabilityRegistry}

theorem standsAt_iff {stepId : String} {i : Nat} :
    StandsAt plan stepId i ↔ (plan.steps.map (·.stepId))[i]? = some stepId := by
  rw [StandsAt, List.getElem?_map, Option.map_eq_some_iff]

theorem nodup_iff_standsAt :
    (plan.steps.map (·.stepId)).Nodup ↔
      ∀ stepId i j, StandsAt plan stepId i → StandsAt plan stepId j → i = j := by
  simp only [standsAt_iff]
  constructor
  · intro h stepId i j hi hj
    obtain ⟨hlt, -⟩ := List.getElem?_eq_some_iff.mp hi
    exact (List.getElem?_inj hlt h).mp (hi.trans hj.symm)
  · intro h
    rw [List.nodup_iff_getElem?_ne_getElem?]
    intro i j hij hj he
    have hget := List.getElem?_eq_getElem hj
    exact Nat.ne_of_lt hij (h _ i j (he.trans hget) hget)

/-- The index of a declared step is its position. -/
theorem idxOf_eq_some_iff (hnd : (plan.steps.map (·.stepId)).Nodup) {stepId : String} {i : Nat} :
    (plan.steps.map (·.stepId)).idxOf? stepId = some i ↔ StandsAt plan stepId i := by
  rw [standsAt_iff, List.idxOf?_eq_some_iff]
  constructor
  · rintro ⟨hlt, he, -⟩
    exact List.getElem?_eq_some_iff.mpr ⟨hlt, he⟩
  · intro h
    obtain ⟨hlt, he⟩ := List.getElem?_eq_some_iff.mp h
    refine ⟨hlt, he, fun j hj hej => ?_⟩
    have := (hnd.getElem_inj_iff).mp (hej.trans he.symm)
    omega

theorem capabilityUsable_iff {capabilityId : CapabilityId} {record : CapabilityRecord} :
    CapabilityUsable registry capabilityId record ↔
      ReferenceConforms registry capabilityId record := by
  constructor
  · rintro ⟨hfirst, henabled, hrevoked, howned⟩
    exact ⟨CapabilityRegistry.capabilityFor_eq_some.mp hfirst, henabled, hrevoked, howned⟩
  · rintro ⟨hfirst, henabled, hrevoked, howned⟩
    exact ⟨CapabilityRegistry.capabilityFor_eq_some.mpr hfirst, henabled, hrevoked, howned⟩

theorem stepFits_iff {step : ExecutionPlanStep} :
    StepFits plan registry step ↔ ∃ record, StepConforms plan registry step record := by
  constructor
  · rintro ⟨hreferenced, hdeclared, record, hfirst, heffect, htimeout⟩
    exact ⟨record, hreferenced, hdeclared, CapabilityRegistry.capabilityFor_eq_some.mp hfirst,
      heffect, UInt64.le_iff_toNat_le.mp htimeout⟩
  · rintro ⟨record, hreferenced, hdeclared, hfirst, heffect, htimeout⟩
    exact ⟨hreferenced, hdeclared, record, CapabilityRegistry.capabilityFor_eq_some.mpr hfirst,
      heffect, UInt64.le_iff_toNat_le.mpr htimeout⟩

end

variable (digest : PlanDigest) (utcNow : TimestampUtc) (plan : ExecutionPlan)
  (registry : CapabilityRegistry)

theorem accepted_iff_conforms : Accepted digest plan registry ↔ Conforms digest plan registry := by
  constructor
  · intro h
    refine ⟨⟨List.length_pos_iff.mpr h.nonempty, h.bounded⟩, fun capabilityId hmem => ?_,
      nodup_iff_standsAt.mp h.distinct, fun step hmem => stepFits_iff.mp (h.fits step hmem),
      h.budget, h.aware, fun reference hmem => ?_, h.hashed⟩
    · obtain ⟨record, hrecord⟩ := h.usable capabilityId hmem
      exact ⟨record, capabilityUsable_iff.mp hrecord⟩
    · obtain ⟨i, j, hi, hj, hlt⟩ := h.later reference hmem
      exact ⟨i, j, (idxOf_eq_some_iff h.distinct).mp hi, (idxOf_eq_some_iff h.distinct).mp hj, hlt⟩
  · intro h
    have hnd := nodup_iff_standsAt.mpr h.distinct
    refine ⟨List.length_pos_iff.mp h.counted.1, h.counted.2, fun capabilityId hmem => ?_, hnd,
      fun step hmem => stepFits_iff.mpr (h.steps step hmem), h.budget, h.policy,
      fun reference hmem => ?_, h.hashed⟩
    · obtain ⟨record, hrecord⟩ := h.references capabilityId hmem
      exact ⟨record, capabilityUsable_iff.mpr hrecord⟩
    · obtain ⟨i, j, hi, hj, hlt⟩ := h.later reference hmem
      exact ⟨i, j, (idxOf_eq_some_iff hnd).mpr hi, (idxOf_eq_some_iff hnd).mpr hj, hlt⟩

/-- The validator returns a plan exactly when the plan conforms, and then it
returns the same plan with its computed hash. -/
theorem validate_returns_iff :
    ((∃ v, validate digest utcNow plan registry = .ok v) ↔ Conforms digest plan registry) ∧
      ∀ v, validate digest utcNow plan registry = .ok v →
        v.plan = plan ∧ v.stablePlanHash = computeStablePlanHash digest plan := by
  rw [← accepted_iff_conforms]
  constructor
  · constructor
    · rintro ⟨v, h⟩
      exact (validate_eq_ok.mp h).1
    · intro h
      exact ⟨_, validate_eq_ok.mpr ⟨h, rfl⟩⟩
  · intro v h
    obtain ⟨-, rfl⟩ := validate_eq_ok.mp h
    exact ⟨rfl, rfl⟩

end ExecutionPlanValidator

end FaLocal
