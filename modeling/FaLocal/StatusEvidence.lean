import FaLocal.DenialEvidence
import FaLocal.DeliveredWork

/-!
# Words of status summaries

The summaries of fixed wording use none of the words that the recorder forbids
in their state. Step identifiers, numbers and names of capabilities are put into
them without forming one.
-/
namespace FaLocal

open Words (mentionsAny mentionsAny_append mentionsAny_mono mentionsAny_separated
  mentionsAny_intercalate mentionsAny_of_alphabet)
open ForensicService (disallowedWords Recordable)

namespace ExecutionService

theorem disallowedWords_subset (executionState : ExecutionState)
    (degradedSubtype : Option DegradedSubtype) :
    ∀ w ∈ disallowedWords executionState degradedSubtype, w ∈ disallowedWords .inProgress none := by
  intro w
  simp only [disallowedWords, List.mem_append]
  cases executionState <;> cases degradedSubtype <;> simp <;> tauto

/-- A step identifier without any of the recorder's words. -/
def PlainStepId (stepId : String) : Prop :=
  mentionsAny stepId (disallowedWords .inProgress none) = false

instance : DecidablePred PlainStepId := fun stepId =>
  inferInstanceAs (Decidable (mentionsAny stepId (disallowedWords .inProgress none) = false))

theorem PlainStepId.plain {stepId : String} (h : PlainStepId stepId)
    (executionState : ExecutionState) (degradedSubtype : Option DegradedSubtype) :
    mentionsAny stepId (disallowedWords executionState degradedSubtype) = false :=
  mentionsAny_mono (disallowedWords_subset executionState degradedSubtype) h

theorem inProgress_plain_iff {stepId : String} :
    mentionsAny ("executing externally delivered step " ++ stepId)
      (disallowedWords .inProgress none) = false ↔ PlainStepId stepId := by
  rw [mentionsAny_append (by decide) (by decide)]
  rfl

theorem canceled_plain {stepId : String} (h : PlainStepId stepId) :
    mentionsAny ("external delivery canceled during declared step " ++ stepId)
      (disallowedWords .canceled none) = false := by
  rw [mentionsAny_append (by decide) (by decide)]
  exact h.plain _ _

/-- The summaries of fixed wording, with the state that they are used in. -/
def fixedSummaries : List (String × ExecutionState × Option DegradedSubtype) := [
  ("execution admitted for external bounded delivery", .admittedNotStarted, none),
  (allStepsSummary, .completed, none),
  ("external delivery completed with declared fallback path", .completedWithConstraints,
    some .degradedFallbackLimited),
  ("external delivery completed with declared fallback path", .completedWithConstraints,
    some .degradedFallbackEquivalent),
  (noneRegisteredSummary, .degraded, some .unavailableDependencyBlock)]

theorem fixedSummaries_plain :
    ∀ q ∈ fixedSummaries, mentionsAny q.1 (disallowedWords q.2.1 q.2.2) = false := by
  decide +kernel

/-- The characters of identifiers and of numbers. -/
def codeChars : List Char := '-' :: hexDigits

theorem codeChars_lower : ∀ c ∈ codeChars, c.toLower ∈ codeChars :=
  forall_mem_of_all (by decide)

/-- Identifiers and numbers spell none of the words. -/
theorem code_plain {value : String} (h : ∀ c ∈ value.toList, c ∈ codeChars)
    (executionState : ExecutionState) (degradedSubtype : Option DegradedSubtype) :
    mentionsAny value (disallowedWords executionState degradedSubtype) = false := by
  have hwords : ∀ w ∈ disallowedWords .inProgress none,
      (w.toList.any fun c => !codeChars.contains c) = true := by
    decide +kernel
  refine PlainStepId.plain ?_ executionState degradedSubtype
  exact mentionsAny_of_alphabet hwords fun c hc => codeChars_lower c (h c hc)

theorem display_chars {k : IdKind} (i : UuidId k) : ∀ c ∈ i.display.toList, c ∈ codeChars := by
  intro c hc
  refine List.mem_cons.mpr (mem_hyphenated (u := i.uuid) ?_)
  simpa [UuidId.display] using hc

theorem isDigit_code {c : Char} (h : c.isDigit = true) : c ∈ codeChars := by
  have hbounds : 48 ≤ c.toNat ∧ c.toNat ≤ 57 := by
    simpa [Char.isDigit, UInt32.le_iff_toNat_le] using h
  have hdigits : ∀ n < 58, 48 ≤ n → Char.ofNat n ∈ codeChars := by decide
  rw [← Char.ofNat_toNat c]
  exact hdigits c.toNat (by omega) hbounds.1

theorem toString_chars (n : Nat) : ∀ c ∈ (toString n).toList, c ∈ codeChars := by
  intro c hc
  have hdigits : c ∈ Nat.toDigits 10 n := by
    simpa [Nat.toString_eq_ofList_toDigits] using hc
  exact isDigit_code (Nat.isDigit_of_mem_toDigits (by decide) (by decide) hdigits)

theorem noAdapterSummary_plain (capabilityId : CapabilityId) :
    mentionsAny (noAdapterSummary capabilityId)
      (disallowedWords .degraded (some .unavailableDependencyBlock)) = false := by
  have hp : noAdapterSummary capabilityId =
      "no delivery adapter registered for capability " ++ capabilityId.display := rfl
  rw [hp, mentionsAny_append (by decide) (by decide)]
  exact code_plain (display_chars capabilityId) _ _

theorem usedFallbackSummary_plain {outcomes : List (String × StepDeliveryOutcome)}
    (h : ∀ q ∈ outcomes, ∀ f, q.2.fallbackUsed = some f → PlainStepId q.1 ∧ PlainStepId f) :
    mentionsAny (usedFallbackSummary outcomes)
      (disallowedWords .completedWithConstraints (some .degradedFallbackLimited)) = false := by
  have hp : usedFallbackSummary outcomes =
      "all declared plan steps completed; used declared fallback for: " ++
        fallbackPairs outcomes := rfl
  rw [hp, mentionsAny_append (by decide) (by decide), fallbackPairs]
  refine mentionsAny_intercalate (by decide) fun text ht => ?_
  obtain ⟨q, hq, he⟩ := List.mem_filterMap.mp ht
  obtain ⟨f, hf, rfl⟩ := Option.map_eq_some_iff.mp he
  obtain ⟨h₁, h₂⟩ := h q hq f hf
  rw [mentionsAny_separated (by decide), h₁.plain, h₂.plain]
  rfl

theorem completedOf_plain (completedCount totalCount : Nat) :
    mentionsAny (completedOf completedCount totalCount)
      (disallowedWords .partialSuccess (some .degradedPartial)) = false := by
  have hp : completedOf completedCount totalCount = toString completedCount ++ " of " ++
      (toString totalCount ++ " declared plan steps completed" ++ "") := by
    simp only [completedOf, String.append_assoc, String.append_empty]
  rw [hp, mentionsAny_separated (by decide), mentionsAny_separated (by decide),
    code_plain (toString_chars completedCount), code_plain (toString_chars totalCount)]
  decide +kernel

end ExecutionService

end FaLocal
