import FaLocal.DeliveryLaws
import FaLocal.Library.Delimited

/-!
# The preimage of the stable plan hash

The canonical form of a plan keeps the steps in their order and forgets the order
of three lists, and nothing else that it reads. Its JSON text can be read back.
-/
namespace FaLocal

open Delimited (SelfDelimiting array quoted)

/-! ## The text of a canonical plan -/

def CancellationPolicy.serdeName : CancellationPolicy → String
  | .cancelRemainingSteps => "cancel_remaining_steps"
  | .finishInFlightOnly => "finish_in_flight_only"

def CompletionPolicy.serdeName : CompletionPolicy → String
  | .allStepsMustSucceed => "all_steps_must_succeed"
  | .allowDeclaredFallbackCompletion => "allow_declared_fallback_completion"

/-- A key with its colon, in compact JSON. -/
def jsonKey (key : String) : List Char := quoted key ++ [':']

/-- A number with the character behind it. -/
def jsonNumber (n : Nat) (close : Char) : List Char := Nat.toDigits 10 n ++ [close]

def CanonicalExecutionPlanStep.json (step : CanonicalExecutionPlanStep) : List Char :=
  '{' :: (jsonKey "step_id" ++ quoted step.stepId ++ [','] ++
    jsonKey "capability_id" ++ quoted step.capabilityId ++ [','] ++
    jsonKey "declared_side_effect_class" ++ quoted step.declaredSideEffectClass ++ [','] ++
    jsonKey "timeout_budget_ms" ++ jsonNumber step.timeoutBudgetMs.toNat '}')

def CanonicalFallbackReference.json (reference : CanonicalFallbackReference) : List Char :=
  '{' :: (jsonKey "step_id" ++ quoted reference.stepId ++ [','] ++
    jsonKey "fallback_step_id" ++ quoted reference.fallbackStepId ++ ['}'])

/-- The compact JSON of a canonical plan, member by member. -/
def CanonicalExecutionPlan.json (plan : CanonicalExecutionPlan) : List Char :=
  '{' :: (jsonKey "steps" ++ array CanonicalExecutionPlanStep.json plan.steps ++ [','] ++
    jsonKey "referenced_capabilities" ++ array quoted plan.referencedCapabilities ++ [','] ++
    jsonKey "declared_max_step_count" ++ jsonNumber plan.declaredMaxStepCount.toNat ',' ++
    jsonKey "declared_side_effect_classes" ++ array quoted plan.declaredSideEffectClasses ++
    [','] ++ jsonKey "fallback_references" ++
    array CanonicalFallbackReference.json plan.fallbackReferences ++ [','] ++
    jsonKey "cancellation_policy" ++ quoted plan.cancellationPolicy.serdeName ++ [','] ++
    jsonKey "completion_policy" ++ quoted plan.completionPolicy.serdeName ++ [','] ++
    jsonKey "max_duration_budget_ms" ++ jsonNumber plan.maxDurationBudgetMs.toNat '}')

theorem jsonNumber_cancel {m n : Nat} {t : Char} (ht : t.isDigit = false) {x y : List Char}
    (h : jsonNumber m t ++ x = jsonNumber n t ++ y) : m = n ∧ x = y :=
  (Delimited.decimal_selfDelimiting ht).cancel h

theorem quoted_array_selfDelimiting : SelfDelimiting (array quoted) :=
  SelfDelimiting.array Delimited.quoted_selfDelimiting fun _ => ⟨'"', _, rfl, by decide⟩

theorem stepJson_selfDelimiting : SelfDelimiting CanonicalExecutionPlanStep.json := by
  intro s t x y h
  simp only [CanonicalExecutionPlanStep.json, List.cons_append, List.nil_append,
    List.append_assoc, List.cons.injEq, true_and, List.append_cancel_left_eq] at h
  obtain ⟨hid, h₁⟩ := Delimited.quoted_selfDelimiting.cancel h
  simp only [List.cons.injEq, true_and, List.append_cancel_left_eq] at h₁
  obtain ⟨hcapability, h₂⟩ := Delimited.quoted_selfDelimiting.cancel h₁
  simp only [List.cons.injEq, true_and, List.append_cancel_left_eq] at h₂
  obtain ⟨heffect, h₃⟩ := Delimited.quoted_selfDelimiting.cancel h₂
  simp only [List.cons.injEq, true_and, List.append_cancel_left_eq] at h₃
  obtain ⟨htimeout, hxy⟩ := jsonNumber_cancel rfl h₃
  refine ⟨?_, hxy⟩
  cases s
  cases t
  simp only at hid hcapability heffect htimeout
  rw [hid, hcapability, heffect, UInt64.toNat_inj.mp htimeout]

theorem referenceJson_selfDelimiting : SelfDelimiting CanonicalFallbackReference.json := by
  intro r s x y h
  simp only [CanonicalFallbackReference.json, List.cons_append, List.nil_append,
    List.append_assoc, List.cons.injEq, true_and, List.append_cancel_left_eq] at h
  obtain ⟨hid, h₁⟩ := Delimited.quoted_selfDelimiting.cancel h
  simp only [List.cons.injEq, true_and, List.append_cancel_left_eq] at h₁
  obtain ⟨hfallback, h₂⟩ := Delimited.quoted_selfDelimiting.cancel h₁
  simp only [List.cons.injEq, true_and] at h₂
  refine ⟨?_, h₂⟩
  cases r
  cases s
  simp only at hid hfallback
  rw [hid, hfallback]

theorem cancellation_serdeName_inj : Function.Injective CancellationPolicy.serdeName := by
  intro p q h
  cases p <;> cases q <;> first | rfl | exact absurd h (by decide)

theorem completion_serdeName_inj : Function.Injective CompletionPolicy.serdeName := by
  intro p q h
  cases p <;> cases q <;> first | rfl | exact absurd h (by decide)

theorem canonicalJson_injective : Function.Injective CanonicalExecutionPlan.json := by
  intro p q h
  have hsteps : SelfDelimiting (array CanonicalExecutionPlanStep.json) :=
    SelfDelimiting.array stepJson_selfDelimiting fun _ => ⟨'{', _, rfl, by decide⟩
  have hreferences : SelfDelimiting (array CanonicalFallbackReference.json) :=
    SelfDelimiting.array referenceJson_selfDelimiting fun _ => ⟨'{', _, rfl, by decide⟩
  simp only [CanonicalExecutionPlan.json, List.append_assoc, List.cons.injEq, true_and,
    List.append_cancel_left_eq] at h
  obtain ⟨hplanSteps, h₁⟩ := hsteps.cancel h
  simp only [List.append_cancel_left_eq] at h₁
  obtain ⟨hcapabilities, h₂⟩ := quoted_array_selfDelimiting.cancel h₁
  simp only [List.append_cancel_left_eq] at h₂
  obtain ⟨hcount, h₃⟩ := jsonNumber_cancel rfl h₂
  simp only [List.append_cancel_left_eq] at h₃
  obtain ⟨heffects, h₄⟩ := quoted_array_selfDelimiting.cancel h₃
  simp only [List.append_cancel_left_eq] at h₄
  obtain ⟨hfallbacks, h₅⟩ := hreferences.cancel h₄
  simp only [List.append_cancel_left_eq] at h₅
  obtain ⟨hcancellation, h₆⟩ := Delimited.quoted_selfDelimiting.cancel h₅
  simp only [List.append_cancel_left_eq] at h₆
  obtain ⟨hcompletion, h₇⟩ := Delimited.quoted_selfDelimiting.cancel h₆
  simp only [List.append_cancel_left_eq] at h₇
  obtain ⟨hbudget, -⟩ := jsonNumber_cancel (x := []) (y := []) rfl (by simpa using h₇)
  cases p
  cases q
  simp only at hplanSteps hcapabilities hcount heffects hfallbacks hcancellation hcompletion hbudget
  rw [hplanSteps, hcapabilities, UInt32.toNat_inj.mp hcount, heffects, hfallbacks,
    cancellation_serdeName_inj hcancellation, completion_serdeName_inj hcompletion,
    UInt64.toNat_inj.mp hbudget]

/-- The bytes of the text. -/
def CanonicalExecutionPlan.jsonBytes (plan : CanonicalExecutionPlan) : ByteArray :=
  (String.ofList plan.json).toUTF8

theorem jsonBytes_injective : Function.Injective CanonicalExecutionPlan.jsonBytes := by
  intro p q h
  exact canonicalJson_injective (String.ofList_injective (String.toByteArray_inj.mp h))

/-! ## The canonical form -/

namespace ExecutionPlanValidator

/-- What two plans with one preimage declare alike: the order counts in the list
of steps only. -/
structure SameDeclared (p q : ExecutionPlan) : Prop where
  steps : p.steps = q.steps
  capabilities : p.referencedCapabilities.Perm q.referencedCapabilities
  sideEffects : p.declaredSideEffectClasses.Perm q.declaredSideEffectClasses
  fallbacks : p.fallbackReferences.Perm q.fallbackReferences
  cancellation : p.cancellationPolicy = q.cancellationPolicy
  completion : p.completionPolicy = q.completionPolicy
  stepCount : p.declaredMaxStepCount = q.declaredMaxStepCount
  budget : p.maxDurationBudgetMs = q.maxDurationBudgetMs

/-- Sorting forgets the order of a list and nothing else. -/
theorem insertionSort_eq_iff {β : Type} (r : β → β → Prop) [DecidableRel r] [Std.Total r]
    [IsTrans β r] [Std.Antisymm r] {l m : List β} :
    l.insertionSort r = m.insertionSort r ↔ l.Perm m := by
  constructor
  · intro h
    exact (List.perm_insertionSort r l).symm.trans (h ▸ List.perm_insertionSort r m)
  · intro h
    have hperm : (l.insertionSort r).Perm (m.insertionSort r) :=
      (List.perm_insertionSort r l).trans (h.trans (List.perm_insertionSort r m).symm)
    exact hperm.eq_of_pairwise' (List.pairwise_insertionSort r l) (List.pairwise_insertionSort r m)

instance : Std.Total CanonicalFallbackReference.Before := ⟨by
  intro r s
  rcases lt_trichotomy r.stepId s.stepId with h | h | h
  · exact .inl (.inl h)
  · rcases le_total r.fallbackStepId s.fallbackStepId with hle | hle
    · exact .inl (.inr ⟨h, hle⟩)
    · exact .inr (.inr ⟨h.symm, hle⟩)
  · exact .inr (.inl h)⟩

instance : IsTrans CanonicalFallbackReference CanonicalFallbackReference.Before := ⟨by
  intro r s t hrs hst
  rcases hrs with hrs | ⟨hrs, hle⟩
  · rcases hst with hst | ⟨hst, -⟩
    · exact .inl (hrs.trans hst)
    · exact .inl (hst ▸ hrs)
  · rcases hst with hst | ⟨hst, hle'⟩
    · exact .inl (hrs ▸ hst)
    · exact .inr ⟨hrs.trans hst, hle.trans hle'⟩⟩

instance : Std.Antisymm CanonicalFallbackReference.Before := ⟨by
  intro r s hrs hsr
  rcases hrs with hrs | ⟨hid, hle⟩
  · rcases hsr with hsr | ⟨hid, -⟩
    · exact absurd hsr hrs.asymm
    · exact absurd (hid ▸ hrs) (lt_irrefl _)
  · rcases hsr with hsr | ⟨-, hle'⟩
    · exact absurd (hid ▸ hsr) (lt_irrefl _)
    · cases r
      cases s
      simp only at hid hle hle'
      rw [hid, hle.antisymm hle']⟩

theorem canonicalStep_inj {s t : ExecutionPlanStep}
    (h : (⟨s.stepId, s.capabilityId.display, sideEffectClassLabel s.declaredSideEffectClass,
        s.timeoutBudgetMs⟩ : CanonicalExecutionPlanStep) =
      ⟨t.stepId, t.capabilityId.display, sideEffectClassLabel t.declaredSideEffectClass,
        t.timeoutBudgetMs⟩) : s = t := by
  simp only [CanonicalExecutionPlanStep.mk.injEq] at h
  obtain ⟨hid, hcapability, heffect, htimeout⟩ := h
  cases s
  cases t
  simp only [ExecutionPlanStep.mk.injEq]
  exact ⟨hid, UuidId.display_inj hcapability, sideEffectClassLabel_inj heffect, htimeout⟩

theorem canonicalReference_inj {r s : FallbackReference}
    (h : (⟨r.stepId, r.fallbackStepId⟩ : CanonicalFallbackReference) =
      ⟨s.stepId, s.fallbackStepId⟩) : r = s := by
  cases r
  cases s
  simpa using h

theorem canonical_eq_iff {p q : ExecutionPlan} : canonical p = canonical q ↔ SameDeclared p q := by
  simp only [canonical, CanonicalExecutionPlan.mk.injEq, insertionSort_eq_iff,
    List.map_perm_map_iff fun _ _ => UuidId.display_inj,
    List.map_perm_map_iff fun _ _ => sideEffectClassLabel_inj,
    List.map_perm_map_iff fun _ _ => canonicalReference_inj,
    (List.map_injective_iff.mpr fun _ _ => canonicalStep_inj).eq_iff]
  constructor
  · rintro ⟨hsteps, hcaps, hcount, heffects, hfall, hcancel, hcomplete, hbudget⟩
    exact ⟨hsteps, hcaps, heffects, hfall, hcancel, hcomplete, hcount, hbudget⟩
  · intro h
    exact ⟨h.steps, h.capabilities, h.stepCount, h.sideEffects, h.fallbacks, h.cancellation,
      h.completion, h.budget⟩

/-- Two plans have one preimage exactly when they declare the same up to the order
of three lists, whatever injective serialiser writes it; then every digest agrees. -/
theorem preimage_eq_iff (toVec : CanonicalExecutionPlan → ByteArray)
    (htoVec : Function.Injective toVec) (p q : ExecutionPlan) :
    (toVec (canonical p) = toVec (canonical q) ↔ SameDeclared p q) ∧
      (SameDeclared p q → ∀ digest : PlanDigest,
        computeStablePlanHash digest p = computeStablePlanHash digest q) := by
  refine ⟨htoVec.eq_iff.trans canonical_eq_iff, fun h digest => ?_⟩
  rw [computeStablePlanHash, computeStablePlanHash, canonical_eq_iff.mpr h]

theorem preimage_of_reordered :
    (canonical (Fixture.planOf [Fixture.step "step_a" 4, Fixture.step "step_b" 8]
        [⟨"step_a", "step_b"⟩, ⟨"step_b", "step_a"⟩] Fixture.fallbackHash)).jsonBytes =
      (canonical (Fixture.planOf [Fixture.step "step_a" 4, Fixture.step "step_b" 8]
        [⟨"step_b", "step_a"⟩, ⟨"step_a", "step_b"⟩] Fixture.fallbackHash)).jsonBytes ∧
    (canonical (Fixture.planOf [Fixture.step "step_a" 4, Fixture.step "step_b" 8] []
        Fixture.fallbackHash)).jsonBytes ≠
      (canonical (Fixture.planOf [Fixture.step "step_b" 8, Fixture.step "step_a" 4] []
        Fixture.fallbackHash)).jsonBytes := by
  constructor
  · exact (preimage_eq_iff _ jsonBytes_injective _ _).1.mpr
      ⟨rfl, .refl _, .refl _, .swap _ _ _, rfl, rfl, rfl, rfl⟩
  · intro h
    have hsteps := ((preimage_eq_iff _ jsonBytes_injective _ _).1.mp h).steps
    exact absurd hsteps (by decide)

end ExecutionPlanValidator

end FaLocal
