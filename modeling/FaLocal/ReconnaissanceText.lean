import FaLocal.JsonText
import FaLocal.ReconnaissanceEvidence

/-!
# The texts of a reconnaissance

The text of a result determines the result. So does the text of a document of the corpus
determine what the document says, when it is written as `serde_json` reads it.
-/
namespace FaLocal

/-! ## Plain values -/

@[simp] theorem numberValue_plain (n : ℕ) : (Value.number n.repr).Plain := by
  constructor
  · rw [Nat.toList_repr]
    exact Nat.toDigits_ne_nil
  · intro c hc
    rw [Nat.toList_repr] at hc
    exact .inl (Nat.isDigit_of_mem_toDigits (by decide) (by decide) hc)

theorem arrayValue_plain {β : Type} {write : β → Value} (h : ∀ b, (write b).Plain) (l : List β) :
    (Value.array (l.map write)).Plain := by
  constructor
  intro value hvalue
  obtain ⟨b, -, rfl⟩ := List.mem_map.mp hvalue
  exact h b

theorem optionValue_plain {β : Type} {write : β → Value} (h : ∀ b, (write b).Plain)
    (o : Option β) : (optionValue write o).Plain := by
  cases o with
  | none => exact .null
  | some b => exact h b

@[simp] theorem optionalId_plain {kind : IdKind} (o : Option (UuidId kind)) :
    (optionValue UuidId.toValue o).Plain :=
  optionValue_plain (fun i => .string (UuidId.display i)) o

@[simp] theorem textsValue_plain (texts : List String) : (textsValue texts).Plain :=
  arrayValue_plain Value.Plain.string texts

@[simp] theorem object_plain {members : List (String × Value)} :
    (Value.object members).Plain ↔ ∀ member ∈ members, member.2.Plain := by
  constructor
  · intro h
    cases h with
    | object items => exact items
  · exact Value.Plain.object

attribute [simp] Value.Plain.string Value.Plain.bool

/-! ## Results -/

theorem DonorCandidateDecision.toValue_plain (donor : DonorCandidateDecision) :
    donor.toValue.Plain := by
  simp [toValue]

theorem TopologyAssessment.toValue_plain (topology : TopologyAssessment) :
    topology.toValue.Plain := by
  simp [toValue]

theorem AuthorityBoundaryResult.toValue_plain (authority : AuthorityBoundaryResult) :
    authority.toValue.Plain := by
  simp [toValue]

theorem DraftAssemblyBlueprint.toValue_plain (blueprint : DraftAssemblyBlueprint) :
    blueprint.toValue.Plain := by
  simp [toValue]

theorem ReuseReconnaissanceResult.toValue_plain (result : ReuseReconnaissanceResult) :
    result.toValue.Plain := by
  simp [toValue, AuthorityBoundaryResult.toValue_plain, DraftAssemblyBlueprint.toValue_plain,
    arrayValue_plain DonorCandidateDecision.toValue_plain,
    arrayValue_plain TopologyAssessment.toValue_plain]

/-- The bytes that are hashed determine the result. -/
theorem toVec_injective : Function.Injective ReuseReconnaissanceResult.toVec := by
  intro result result' h
  apply ReuseReconnaissanceResult.toValue_injective
  apply compact_injective result.toValue_plain result'.toValue_plain
  exact String.ofList_injective (String.toByteArray_inj.mp h)

/-! ## Documents of the corpus -/

def TargetAuthorityDocument.toValue (authority : TargetAuthorityDocument) : Value := .object [
  ("topology_owner", .string authority.topologyOwner),
  ("operator_surface", .string authority.operatorSurface),
  ("execution_owner", .string authority.executionOwner),
  ("mutation_owner", .string authority.mutationOwner),
  ("final_decision_owner", .string authority.finalDecisionOwner)]

def modesValue (modes : List ReuseMode) : Value :=
  .array (modes.map fun mode => .string (reuseModeLabel mode))

def DonorEvidenceRecord.toValue (donor : DonorEvidenceRecord) : Value := .object [
  ("capability_id", .string donor.capabilityId),
  ("source_repo", .string donor.sourceRepo),
  ("source_commit", .string donor.sourceCommit),
  ("source_paths", textsValue donor.sourcePaths),
  ("behavior_proven", .bool donor.behaviorProven),
  ("evidence_class", .string donor.evidenceClass.serdeName),
  ("allowed_modes", modesValue donor.allowedModes),
  ("prohibited_modes", modesValue donor.prohibitedModes),
  ("blockers", textsValue donor.blockers),
  ("preserved_tests", textsValue donor.preservedTests)]

def TopologyOptionRecord.toValue (option : TopologyOptionRecord) : Value := .object [
  ("topology_id", .string option.topologyId),
  ("repository_posture", .string option.repositoryPosture),
  ("supports_new_application", .bool option.supportsNewApplication),
  ("separate_trust_actors", .bool option.separateTrustActors),
  ("complexity_rank", .number option.complexityRank.toNat.repr),
  ("deployables", textsValue option.deployables),
  ("hard_blockers", textsValue option.hardBlockers)]

/-- A document of the corpus with its kind. -/
def EvidenceDocument.toValue : EvidenceDocument → Value
  | .targetBrief document => .object [
    ("kind", .string "target_brief"),
    ("application", .string document.application),
    ("repository_posture", .string document.repositoryPosture),
    ("separate_trust_actors_required", .bool document.separateTrustActorsRequired),
    ("required_capabilities", textsValue document.requiredCapabilities),
    ("authority", document.authority.toValue)]
  | .donorEvidence document => .object [
    ("kind", .string "donor_evidence"),
    ("donors", .array (document.donors.map (·.toValue)))]
  | .topologyOptions document => .object [
    ("kind", .string "topology_options"),
    ("options", .array (document.options.map (·.toValue)))]
  | .constraints document => .object [
    ("kind", .string "constraints"),
    ("critical_blockers", textsValue document.criticalBlockers),
    ("verification_obligations", textsValue document.verificationObligations)]

theorem modesValue_inj {modes modes' : List ReuseMode} :
    modesValue modes = modesValue modes' ↔ modes = modes' := by
  have hlabel : Function.Injective fun mode => Value.string (reuseModeLabel mode) := by
    intro mode mode' h
    exact reuseModeLabel_inj.mp (Value.string.inj h)
  rw [modesValue, modesValue, Value.array.injEq, List.map_inj_right hlabel]

theorem TargetAuthorityDocument.toValue_injective : Function.Injective toValue := by
  rintro ⟨⟩ ⟨⟩ h
  simpa [toValue] using h

theorem DonorEvidenceRecord.toValue_injective : Function.Injective toValue := by
  rintro ⟨⟩ ⟨⟩ h
  simpa [toValue, textsValue_inj, modesValue_inj, EvidenceClass.serdeName_inj] using h

theorem TopologyOptionRecord.toValue_injective : Function.Injective toValue := by
  rintro ⟨topologyId, repositoryPosture, application, actors, rank, deployables, blockers⟩
    ⟨topologyId', repositoryPosture', application', actors', rank', deployables', blockers'⟩ h
  simp only [toValue, Value.object.injEq, List.cons.injEq, Prod.mk.injEq, Value.string.injEq,
    Value.number.injEq, Value.bool.injEq, textsValue_inj, true_and, and_true] at h
  obtain ⟨rfl, rfl, rfl, rfl, hrank, rfl, rfl⟩ := h
  rw [UInt32.toNat_inj.mp (Nat.repr_injective hrank)]

theorem EvidenceDocument.toValue_injective : Function.Injective toValue := by
  rintro (⟨⟨⟩⟩ | ⟨⟨⟩⟩ | ⟨⟨⟩⟩ | ⟨⟨⟩⟩) (⟨⟨⟩⟩ | ⟨⟨⟩⟩ | ⟨⟨⟩⟩ | ⟨⟨⟩⟩) h <;>
    first
    | (simp [toValue] at h; done)
    | simpa [toValue, textsValue_inj, TargetAuthorityDocument.toValue_injective.eq_iff,
        List.map_inj_right DonorEvidenceRecord.toValue_injective,
        List.map_inj_right TopologyOptionRecord.toValue_injective] using h

theorem EvidenceDocument.toValue_plain (evidence : EvidenceDocument) : evidence.toValue.Plain := by
  have hauthority : ∀ authority : TargetAuthorityDocument, authority.toValue.Plain := by
    simp [TargetAuthorityDocument.toValue]
  have hmodes : ∀ modes, (modesValue modes).Plain := arrayValue_plain fun _ => .string _
  have hdonor : ∀ donor : DonorEvidenceRecord, donor.toValue.Plain := by
    simp [DonorEvidenceRecord.toValue, hmodes]
  have hoption : ∀ option : TopologyOptionRecord, option.toValue.Plain := by
    simp [TopologyOptionRecord.toValue]
  cases evidence <;>
    simp [toValue, hauthority, arrayValue_plain hdonor, arrayValue_plain hoption]

end FaLocal
