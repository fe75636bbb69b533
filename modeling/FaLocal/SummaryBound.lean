import FaLocal.ExecutionGate

/-!
# The bound of a decision's summary

`bounded_summary` counts code points and cuts at a byte. When it returns, what it
keeps of the text, and what that means for the decisions of the resolver.
-/
namespace FaLocal

namespace ApprovalPostureResolver

/-! ## Cutting at a byte -/

/-- The size of a text in UTF-8. -/
def byteSize (l : List Char) : Nat := (l.map Char.utf8Size).sum

@[simp] theorem byteSize_nil : byteSize [] = 0 := rfl

@[simp] theorem byteSize_cons (c : Char) (l : List Char) :
    byteSize (c :: l) = c.utf8Size + byteSize l := by
  simp [byteSize]

theorem length_le_byteSize (l : List Char) : l.length ≤ byteSize l := by
  induction l with
  | nil => simp
  | cons c l ih =>
    have hc := c.utf8Size_pos
    simp only [List.length_cons, byteSize_cons]
    omega

theorem byteSize_of_ascii {l : List Char} (h : ∀ c ∈ l, c.utf8Size = 1) :
    byteSize l = l.length := by
  induction l with
  | nil => rfl
  | cons c l ih =>
    obtain ⟨hc, hl⟩ := List.forall_mem_cons.mp h
    rw [byteSize_cons, hc, ih hl, List.length_cons, Nat.add_comm]

/-- Of a text that is longer, exactly a beginning of `n` bytes is kept. -/
theorem truncate_eq_some {l kept : List Char} {n : Nat} (hn : n < byteSize l) :
    truncate n l = some kept ↔ kept <+: l ∧ byteSize kept = n := by
  induction l generalizing n kept with
  | nil => simp at hn
  | cons c l ih =>
    rw [byteSize_cons] at hn
    have hc := c.utf8Size_pos
    rw [truncate]
    by_cases h0 : n = 0
    · rw [if_pos h0, h0, Option.some.injEq]
      constructor
      · rintro rfl
        exact ⟨List.nil_prefix, rfl⟩
      · rintro ⟨-, hk⟩
        have hlen := length_le_byteSize kept
        rw [hk, Nat.le_zero] at hlen
        exact (List.length_eq_zero_iff.mp hlen).symm
    rw [if_neg h0]
    by_cases hle : c.utf8Size ≤ n
    · rw [if_pos hle, Option.map_eq_some_iff]
      constructor
      · rintro ⟨rest, hr, rfl⟩
        obtain ⟨hp, hs⟩ := (ih (by omega)).mp hr
        refine ⟨List.cons_prefix_cons.mpr ⟨rfl, hp⟩, ?_⟩
        rw [byteSize_cons, hs]
        omega
      · rintro ⟨hp, hs⟩
        cases kept with
        | nil => exact absurd hs.symm h0
        | cons c' rest =>
          obtain ⟨rfl, hrest⟩ := List.cons_prefix_cons.mp hp
          rw [byteSize_cons] at hs
          exact ⟨rest, (ih (by omega)).mpr ⟨hrest, by omega⟩, rfl⟩
    · rw [if_neg hle]
      refine iff_of_false (by simp) ?_
      rintro ⟨hp, hs⟩
      cases kept with
      | nil => exact h0 hs.symm
      | cons c' rest =>
        obtain ⟨rfl, -⟩ := List.cons_prefix_cons.mp hp
        rw [byteSize_cons] at hs
        omega

/-! ## Bounded summaries -/

/-- A summary that stands for a text: the text itself, or its first 157 bytes
and an ellipsis where it has more than 160 characters. -/
def BoundedAs (text summary : String) : Prop :=
  (text.toList.length ≤ 160 ∧ summary = text) ∨
    (160 < text.toList.length ∧ ∃ kept, kept <+: text.toList ∧ byteSize kept = 157 ∧
      summary = String.ofList (kept ++ ['.', '.', '.']))

theorem boundedSummary_eq_ok {text summary : String} :
    boundedSummary text = .ok summary ↔ BoundedAs text summary := by
  rw [BoundedAs]
  by_cases hlen : text.toList.length ≤ 160
  · rw [boundedSummary_short hlen, Except.ok.injEq]
    simp [hlen, Nat.not_lt.mpr hlen, eq_comm]
  have hlong : 160 < text.toList.length := by omega
  have hsize : 157 < byteSize (text.toList.take 160) := by
    have h := length_le_byteSize (text.toList.take 160)
    rw [List.length_take_of_le (by omega)] at h
    omega
  rw [or_iff_right fun h => hlen h.1, and_iff_right hlong]
  simp only [boundedSummary, if_pos hlong]
  constructor
  · intro h
    split at h
    · rename_i kept hk
      obtain ⟨hp, hs⟩ := (truncate_eq_some hsize).mp hk
      exact ⟨kept, hp.trans (List.take_prefix 160 _), hs, (Except.ok.inj h).symm⟩
    · cases h
  · rintro ⟨kept, hp, hs, rfl⟩
    have hkept : kept.length ≤ 160 := by
      have h := length_le_byteSize kept
      omega
    have htake : kept <+: text.toList.take 160 :=
      List.prefix_take_iff.mpr ⟨hp, hkept⟩
    rw [(truncate_eq_some hsize).mpr ⟨htake, hs⟩]

/-- A text that fits, or whose byte 157 is on a character boundary. -/
def CutFits (text : String) : Prop :=
  text.toList.length ≤ 160 ∨ ∃ kept, kept <+: text.toList ∧ byteSize kept = 157

theorem boundedSummary_returns_iff {text : String} :
    (∃ summary, boundedSummary text = .ok summary) ↔ CutFits text := by
  simp only [boundedSummary_eq_ok, BoundedAs]
  constructor
  · rintro ⟨summary, ⟨h, -⟩ | ⟨-, kept, hp, hs, -⟩⟩
    · exact .inl h
    · exact .inr ⟨kept, hp, hs⟩
  · intro h
    by_cases hlen : text.toList.length ≤ 160
    · exact ⟨text, .inl ⟨hlen, rfl⟩⟩
    · obtain ⟨kept, hp, hs⟩ := h.resolve_left hlen
      exact ⟨_, .inr ⟨by omega, kept, hp, hs, rfl⟩⟩

theorem BoundedAs.length {text summary : String} (h : BoundedAs text summary)
    (hne : text.toList ≠ []) : 1 ≤ summary.toList.length ∧ summary.toList.length ≤ 160 := by
  rcases h with ⟨hlen, rfl⟩ | ⟨-, kept, -, hs, rfl⟩
  · exact ⟨List.length_pos_iff.mpr hne, hlen⟩
  · have h := length_le_byteSize kept
    simp only [String.toList_ofList, List.length_append, List.length_cons, List.length_nil]
    omega

/-- A text of one-byte characters can be cut anywhere. -/
theorem cutFits_of_ascii {text : String} (h : ∀ c ∈ text.toList, c.utf8Size = 1) :
    CutFits text := by
  by_cases hlen : text.toList.length ≤ 160
  · exact .inl hlen
  refine .inr ⟨text.toList.take 157, List.take_prefix 157 _, ?_⟩
  rw [byteSize_of_ascii fun c hc => h c (List.mem_of_mem_take hc)]
  exact List.length_take_of_le (by omega)

/-! ## Summaries of decisions -/

variable {input : RouteResolutionInput} {context : RouteResolutionContext} {d : RouteDecision}

/-- The text of the first gate that refused. -/
def leadingRefusal (input : RouteResolutionInput) : Option String :=
  match input.requesterTrustOutcome, input.policyOutcome, input.capabilityAdmissionOutcome with
  | .error denial, _, _ => some denial.summary
  | .ok _, .error denial, _ => some denial.summary
  | .ok _, .ok _, .error denial => some denial.summary
  | .ok _, .ok _, .ok _ => none

/-- What `operator_summary` bounds. -/
def operatorText (posture : ApprovalPosture) (capabilityId : String) : String :=
  match posture with
  | .denied => "request denied for capability " ++ capabilityId
  | .reviewRequired => "request requires review for capability " ++ capabilityId
  | .explicitOperatorApproval =>
    "request requires explicit operator approval for capability " ++ capabilityId
  | .policyPreapproved => "request is policy preapproved for capability " ++ capabilityId
  | .executeAllowed => "request is execute allowed for capability " ++ capabilityId

/-- The summary of a decision before it is bounded. -/
def summaryText (d : RouteDecision) : String :=
  if d.resolvedApprovalPosture = .denied then
    "request denied: " ++ firstDenialSummary d.denialGuards
  else operatorText d.resolvedApprovalPosture
    d.capabilityDecisionSummary.requestedCapabilityId.display

theorem toList_append_ne_nil {text : String} (h : text ≠ "") (rest : String) :
    (text ++ rest).toList ≠ [] := by
  rw [String.toList_append]
  exact List.append_ne_nil_of_left_ne_nil (fun hnil => h (String.toList_eq_nil_iff.mp hnil)) _

theorem summaryText_ne_nil (d : RouteDecision) : (summaryText d).toList ≠ [] := by
  rw [summaryText]
  split
  · exact toList_append_ne_nil (by decide) _
  · cases d.resolvedApprovalPosture <;> exact toList_append_ne_nil (by decide) _

/-- A decision whose summary keeps its text as far as it fits. -/
structure SummaryKept (input : RouteResolutionInput) (d : RouteDecision) : Prop where
  kept : BoundedAs (summaryText d) d.operatorVisibleSummary
  nonempty : 1 ≤ d.operatorVisibleSummary.toList.length
  short : d.operatorVisibleSummary.toList.length ≤ 160
  refused : ∀ text, leadingRefusal input = some text →
    d.resolvedApprovalPosture = .denied ∧ firstDenialSummary d.denialGuards = text

theorem leadingRefusal_eq_none (h : leadingRefusal input = none) :
    ∃ requester policy capability, input.requesterTrustOutcome = .ok requester ∧
      input.policyOutcome = .ok policy ∧ input.capabilityAdmissionOutcome = .ok capability := by
  cases ht : input.requesterTrustOutcome <;> cases hp : input.policyOutcome <;>
    cases hc : input.capabilityAdmissionOutcome <;> simp [leadingRefusal, ht, hp, hc] at h
  exact ⟨_, _, _, rfl, rfl, rfl⟩

/-- A refusal is the first of the guards. -/
theorem leadingRefusal_first (context : RouteResolutionContext) {text : String} (h : leadingRefusal input = some text) :
    collectedDenials input context ≠ [] ∧
      firstDenialSummary (collectedDenials input context) = text := by
  cases ht : input.requesterTrustOutcome <;> cases hp : input.policyOutcome <;>
    cases hc : input.capabilityAdmissionOutcome <;>
    simp [leadingRefusal, ht, hp, hc] at h <;>
    simp [collectedDenials, ht, hp, hc, denialsOf, firstDenialSummary, h]

/-- Where no gate refused, a decision is returned. -/
theorem resolve_returns_of_accepted (h : leadingRefusal input = none) :
    ∃ d, resolve input context = .ok d := by
  obtain ⟨requester, policy, capability, ht, hp, hc⟩ := leadingRefusal_eq_none h
  have hdenials : collectedDenials input context =
      validateConsistency input.request requester policy capability context.decidedAtUtc := by
    simp [collectedDenials, ht, hp, hc, denialsOf, Except.toOption]
  by_cases hv : validateConsistency input.request requester policy capability
      context.decidedAtUtc = []
  · obtain ⟨reference, summary, -, hr⟩ := resolve_of_clean ht hp hc hv
    rw [hr]
    exact DecisionService.resolveFactors_total hv
  · obtain ⟨reference, summary, -, hr⟩ := resolve_of_denials (hdenials ▸ hv)
    rw [hr]
    refine DecisionService.deniedDecision_fixed
      (DecisionService.firstDenialSummary_mem (hdenials ▸ hv) fun g hg => ?_)
    exact validateConsistency_mem (hdenials ▸ hg)

theorem deniedDecision_returns_iff {request : ExecutionRequest} {reference : Option PolicyReference}
    {summary : CapabilityDecisionSummary} {guards : List DenialGuard} :
    (∃ d, deniedDecision request reference summary guards context = .ok d) ↔
      CutFits ("request denied: " ++ firstDenialSummary guards) := by
  rw [← boundedSummary_returns_iff, deniedDecision]
  cases boundedSummary ("request denied: " ++ firstDenialSummary guards) <;>
    simp [bind, Except.bind, pure, Except.pure]

/-- A decision is returned exactly when the text of the first refusal can be cut. -/
theorem resolve_returns_iff (context : RouteResolutionContext) :
    (∃ d, resolve input context = .ok d) ↔
      ∀ text, leadingRefusal input = some text → CutFits ("request denied: " ++ text) := by
  cases hl : leadingRefusal input with
  | none => exact iff_of_true (resolve_returns_of_accepted hl) (by rintro _ ⟨⟩)
  | some text =>
    obtain ⟨hne, hf⟩ := leadingRefusal_first context hl
    obtain ⟨reference, summary, -, hr⟩ := resolve_of_denials hne
    rw [hr, deniedDecision_returns_iff, hf]
    simp

/-- A decision that does not deny has no guards and the operator's text. -/
theorem resolveFactors_undenied {request : ExecutionRequest} {requester : RequesterTrustEnvelope}
    {policy : PolicyArtifact} {capability : CapabilityRecord} {reference : Option PolicyReference}
    {summary : CapabilityDecisionSummary}
    (h : resolveFactors request requester policy capability reference summary context = .ok d)
    (hp : d.resolvedApprovalPosture ≠ .denied) :
    d.denialGuards = [] ∧ boundedSummary (operatorText d.resolvedApprovalPosture
      request.requestedCapabilityId.display) = .ok d.operatorVisibleSummary := by
  simp only [resolveFactors, bind, Except.bind] at h
  split at h
  · cases h
  split at h
  · cases h
  split at h
  · cases h
  rename_i posture hmin
  split at h
  · simp only [deniedDecision, bind, Except.bind] at h
    split at h
    · cases h
    · cases h
      exact absurd rfl hp
  · split at h
    · cases h
    · rename_i text ht
      cases h
      exact ⟨rfl, ht⟩

/-- A returned decision keeps its summary. -/
theorem resolve_kept (h : resolve input context = .ok d) : SummaryKept input d := by
  have hkept : BoundedAs (summaryText d) d.operatorVisibleSummary := by
    obtain ⟨hst, -, hde, hcl⟩ := resolve_spec h
    rw [summaryText]
    split
    · rename_i hp
      exact boundedSummary_eq_ok.mp (hde hp).summary
    · rename_i hp
      obtain ⟨requester, policy, capability, ht, hpo, hc, hv⟩ := collectedDenials_eq_nil (hcl hp)
      obtain ⟨reference, summary, -, hr⟩ := resolve_of_clean ht hpo hc hv
      rw [hst.capability]
      exact boundedSummary_eq_ok.mp (resolveFactors_undenied (hr ▸ h) hp).2
  obtain ⟨hpos, hle⟩ := hkept.length (summaryText_ne_nil d)
  refine ⟨hkept, hpos, hle, fun text hl => ?_⟩
  obtain ⟨hne, hf⟩ := leadingRefusal_first context hl
  obtain ⟨reference, summary, hs, hr⟩ := resolve_of_denials hne
  obtain ⟨-, -, hde, hg⟩ := deniedDecision_spec hs hne (hr ▸ h)
  exact ⟨hde.posture, hg ▸ hf⟩

/-- The resolver returns a decision that keeps its summary exactly when the text of
the first refusal can be cut. -/
theorem resolve_summary_iff (input : RouteResolutionInput) (context : RouteResolutionContext) :
    (∃ d, resolve input context = .ok d ∧ SummaryKept input d) ↔
      ∀ text, leadingRefusal input = some text → CutFits ("request denied: " ++ text) := by
  rw [← resolve_returns_iff context]
  constructor
  · rintro ⟨d, h, -⟩
    exact ⟨d, h⟩
  · rintro ⟨d, h⟩
    exact ⟨d, h, resolve_kept h⟩

end ApprovalPostureResolver

/-! An envelope whose error text quotes 150 letters of two bytes each. -/

namespace Fixture

def accentedText : String :=
  "malformed requester envelope: " ++ String.ofList (List.replicate 150 'é')

def accentedRefusal : RouteResolutionInput where
  request := request
  requesterTrustOutcome :=
    .error (deny (at2030 600) .contractInvalid .request .contract accentedText)
  policyOutcome := .ok policy
  capabilityAdmissionOutcome := .ok record

theorem toList_appended (a b : String) (l : List Char) :
    (a ++ (b ++ String.ofList l)).toList = a.toList ++ (b.toList ++ l) := by
  rw [String.toList_append, String.toList_append, String.toList_ofList]

theorem accentedText_uncut : boundedSummary ("request denied: " ++ accentedText) =
    .error (.panicked "assertion failed: self.is_char_boundary(new_len)") := by
  have htext : ("request denied: " ++ accentedText).toList =
      "request denied: ".toList ++
        ("malformed requester envelope: ".toList ++ List.replicate 150 'é') :=
    toList_appended _ _ _
  rw [boundedSummary, htext]
  decide +kernel

end Fixture

/-- The denial of that envelope is not returned: the cut falls inside a letter. -/
theorem ApprovalPostureResolver.resolve_panics :
    resolve Fixture.accentedRefusal Fixture.context =
      .error (.panicked "assertion failed: self.is_char_boundary(new_len)") := by
  have hne : collectedDenials Fixture.accentedRefusal Fixture.context ≠ [] := by
    simp [collectedDenials, Fixture.accentedRefusal, denialsOf]
  obtain ⟨reference, summary, -, hr⟩ := resolve_of_denials hne
  have hfirst : firstDenialSummary (collectedDenials Fixture.accentedRefusal Fixture.context) =
      Fixture.accentedText := rfl
  rw [hr, deniedDecision, hfirst, Fixture.accentedText_uncut]
  rfl

end FaLocal
