import FaLocal.CapabilitySchema
import FaLocal.ReconnaissanceSelection
import FaLocal.ReconnaissanceText

/-!
# Loading a frozen result

A result that the engine returns is loaded from what it is serialised to, and its hash stands
for all of its fields.
-/
namespace FaLocal

/-! ## Reading a result -/

def EvidenceClass.variants : List EvidenceClass :=
  [.pinnedCiAndSourceReview, .sourceReviewAndTests, .sourceReviewOnly, .unproven]

def ReuseMode.variants : List ReuseMode :=
  [.directDependency, .vendoring, .boundedExtraction, .interfaceReuse, .testVectorReuse,
    .patternReimplementation, .serviceConsumption, .hold, .reject]

def DonorDisposition.variants : List DonorDisposition := [.qualifiedCandidate, .held, .rejected]

def DonorCandidateDecision.fromValue : Decoder DonorCandidateDecision := fun value => do
  let capabilityId ← Decoder.field "capability_id" .string value
  let sourceRepo ← Decoder.field "source_repo" .string value
  let sourceCommit ← Decoder.field "source_commit" .string value
  let sourcePaths ← Decoder.field "source_paths" (.list .string) value
  let evidenceClass ← Decoder.field "evidence_class"
    (.variant EvidenceClass.serdeName EvidenceClass.variants) value
  let reuseMode ← Decoder.field "reuse_mode" (.variant reuseModeLabel ReuseMode.variants) value
  let disposition ← Decoder.field "disposition"
    (.variant DonorDisposition.serdeName DonorDisposition.variants) value
  let blockers ← Decoder.field "blockers" (.list .string) value
  let preservedTests ← Decoder.field "preserved_tests" (.list .string) value
  let rationale ← Decoder.field "rationale" .string value
  return { capabilityId, sourceRepo, sourceCommit, sourcePaths, evidenceClass, reuseMode,
           disposition, blockers, preservedTests, rationale }

def TopologyAssessment.fromValue : Decoder TopologyAssessment := fun value => do
  let topologyId ← Decoder.field "topology_id" .string value
  let repositoryPosture ← Decoder.field "repository_posture" .string value
  let hardBlockers ← Decoder.field "hard_blockers" (.list .string) value
  let complexityRank ← Decoder.field "complexity_rank" .u32 value
  let selected ← Decoder.field "selected" .bool value
  return { topologyId, repositoryPosture, hardBlockers, complexityRank, selected }

def AuthorityBoundaryResult.fromValue : Decoder AuthorityBoundaryResult := fun value => do
  let topologyOwner ← Decoder.field "topology_owner" .string value
  let operatorSurface ← Decoder.field "operator_surface" .string value
  let executionOwner ← Decoder.field "execution_owner" .string value
  let mutationOwner ← Decoder.field "mutation_owner" .string value
  let finalDecisionOwner ← Decoder.field "final_decision_owner" .string value
  let networkAllowed ← Decoder.field "network_allowed" .bool value
  let modelAllowed ← Decoder.field "model_allowed" .bool value
  let repositoryMutationAllowed ← Decoder.field "repository_mutation_allowed" .bool value
  return { topologyOwner, operatorSurface, executionOwner, mutationOwner, finalDecisionOwner,
           networkAllowed, modelAllowed, repositoryMutationAllowed }

def DraftAssemblyBlueprint.fromValue : Decoder DraftAssemblyBlueprint := fun value => do
  let repositoryPosture ← Decoder.field "repository_posture" .string value
  let deployables ← Decoder.field "deployables" (.list .string) value
  let donorCapabilityIds ← Decoder.field "donor_capability_ids" (.list .string) value
  let verificationObligations ← Decoder.field "verification_obligations" (.list .string) value
  let prohibitedEffects ← Decoder.field "prohibited_effects" (.list .string) value
  return { repositoryPosture, deployables, donorCapabilityIds, verificationObligations,
           prohibitedEffects }

def ReuseReconnaissanceResult.fromValue : Decoder ReuseReconnaissanceResult := fun value => do
  let schemaVersion ← Decoder.field "schema_version" .string value
  let runId ← Decoder.field "run_id" .string value
  let corpusAggregateSha256 ← Decoder.field "corpus_aggregate_sha256" .string value
  let donorCandidates ← Decoder.field "donor_candidates"
    (.list DonorCandidateDecision.fromValue) value
  let criticalBlockers ← Decoder.field "critical_blockers" (.list .string) value
  let topologyAlternatives ← Decoder.field "topology_alternatives"
    (.list TopologyAssessment.fromValue) value
  let selectedTopology ← Decoder.field "selected_topology" .string value
  let authorityBoundary ← Decoder.field "authority_boundary"
    AuthorityBoundaryResult.fromValue value
  let draftBlueprint ← Decoder.field "draft_blueprint" DraftAssemblyBlueprint.fromValue value
  let resultHash ← Decoder.field "result_hash" .string value
  return { schemaVersion, runId, corpusAggregateSha256, donorCandidates, criticalBlockers,
           topologyAlternatives, selectedTopology, authorityBoundary, draftBlueprint,
           resultHash }

/-! ## What is written is read back -/

open Decoder (bind_field list_map string_string bool_bool variant_name u32_toString)

theorem texts_read (texts : List String) : Decoder.list .string (textsValue texts) = some texts :=
  list_map fun _ _ => rfl

theorem evidenceClass_read (evidenceClass : EvidenceClass) :
    Decoder.variant EvidenceClass.serdeName EvidenceClass.variants
      (.string evidenceClass.serdeName) = some evidenceClass :=
  variant_name (by decide) (by cases evidenceClass <;> decide)

theorem reuseMode_read (mode : ReuseMode) :
    Decoder.variant reuseModeLabel ReuseMode.variants (.string (reuseModeLabel mode)) =
      some mode :=
  variant_name (by decide) (by cases mode <;> decide)

theorem disposition_read (disposition : DonorDisposition) :
    Decoder.variant DonorDisposition.serdeName DonorDisposition.variants
      (.string disposition.serdeName) = some disposition :=
  variant_name (by decide) (by cases disposition <;> decide)

theorem DonorCandidateDecision.fromValue_toValue (donor : DonorCandidateDecision) :
    fromValue donor.toValue = some donor := by
  refine (bind_field rfl (string_string _)).trans ?_
  refine (bind_field rfl (string_string _)).trans ?_
  refine (bind_field rfl (string_string _)).trans ?_
  refine (bind_field rfl (texts_read _)).trans ?_
  refine (bind_field rfl (evidenceClass_read _)).trans ?_
  refine (bind_field rfl (reuseMode_read _)).trans ?_
  refine (bind_field rfl (disposition_read _)).trans ?_
  refine (bind_field rfl (texts_read _)).trans ?_
  refine (bind_field rfl (texts_read _)).trans ?_
  exact bind_field rfl (string_string _)

theorem TopologyAssessment.fromValue_toValue (topology : TopologyAssessment) :
    fromValue topology.toValue = some topology := by
  refine (bind_field rfl (string_string _)).trans ?_
  refine (bind_field rfl (string_string _)).trans ?_
  refine (bind_field rfl (texts_read _)).trans ?_
  refine (bind_field rfl (u32_toString _)).trans ?_
  exact bind_field rfl (bool_bool _)

theorem AuthorityBoundaryResult.fromValue_toValue (authority : AuthorityBoundaryResult) :
    fromValue authority.toValue = some authority := by
  refine (bind_field rfl (string_string _)).trans ?_
  refine (bind_field rfl (string_string _)).trans ?_
  refine (bind_field rfl (string_string _)).trans ?_
  refine (bind_field rfl (string_string _)).trans ?_
  refine (bind_field rfl (string_string _)).trans ?_
  refine (bind_field rfl (bool_bool _)).trans ?_
  refine (bind_field rfl (bool_bool _)).trans ?_
  exact bind_field rfl (bool_bool _)

theorem DraftAssemblyBlueprint.fromValue_toValue (blueprint : DraftAssemblyBlueprint) :
    fromValue blueprint.toValue = some blueprint := by
  refine (bind_field rfl (string_string _)).trans ?_
  refine (bind_field rfl (texts_read _)).trans ?_
  refine (bind_field rfl (texts_read _)).trans ?_
  refine (bind_field rfl (texts_read _)).trans ?_
  exact bind_field rfl (texts_read _)

theorem ReuseReconnaissanceResult.fromValue_toValue (result : ReuseReconnaissanceResult) :
    fromValue result.toValue = some result := by
  refine (bind_field rfl (string_string _)).trans ?_
  refine (bind_field rfl (string_string _)).trans ?_
  refine (bind_field rfl (string_string _)).trans ?_
  refine (bind_field rfl (list_map fun donor _ => donor.fromValue_toValue)).trans ?_
  refine (bind_field rfl (texts_read _)).trans ?_
  refine (bind_field rfl (list_map fun topology _ => topology.fromValue_toValue)).trans ?_
  refine (bind_field rfl (string_string _)).trans ?_
  refine (bind_field rfl result.authorityBoundary.fromValue_toValue).trans ?_
  refine (bind_field rfl result.draftBlueprint.fromValue_toValue).trans ?_
  exact bind_field rfl (string_string _)

/-! ## The hash -/

/-- `serde_json` reads a result as the derived `Deserialize` does. -/
def FraaTools.Derives (tools : FraaTools) : Prop :=
  ∀ value result, ReuseReconnaissanceResult.fromValue value = some result →
    tools.reconnaissanceResult value = .ok result

section
variable {tools : FraaTools} {value value' : Value} {result result' : ReuseReconnaissanceResult}

theorem FraaTools.Derives.readsBack (h : tools.Derives) : tools.ReadsBack := by
  intro result
  exact h _ _ result.fromValue_toValue

theorem verifyHash_eq_ok :
    result.verifyHash tools = .ok () ↔ result.resultHash = result.computeHash tools := by
  rw [ReuseReconnaissanceResult.verifyHash, require_eq_ok, beq_iff_eq]

theorem loadContractValue_eq_ok :
    ReuseReconnaissanceResult.loadContractValue tools value = .ok result ↔
      validateFraaContract tools .reconnaissanceResult value = .ok () ∧
        tools.reconnaissanceResult value = .ok result ∧
        result.resultHash = result.computeHash tools := by
  rw [ReuseReconnaissanceResult.loadContractValue, seq_eq_ok, bind_eq_ok]
  refine and_congr_right fun _ => ?_
  constructor
  · rintro ⟨loaded, hloaded, h⟩
    obtain ⟨hverify, ⟨⟩⟩ := seq_eq_ok.mp h
    exact ⟨deserialized_eq_ok.mp hloaded, verifyHash_eq_ok.mp hverify⟩
  · rintro ⟨hloaded, hhash⟩
    exact ⟨result, deserialized_eq_ok.mpr hloaded,
      seq_eq_ok.mpr ⟨verifyHash_eq_ok.mpr hhash, rfl⟩⟩

/-- The hash of the content determines the content. -/
theorem eq_of_computeHash (hsha : Function.Injective tools.sha256Hex)
    (hhash : result.resultHash = result'.resultHash)
    (h : result.computeHash tools = result'.computeHash tools) : result = result' := by
  have hcontent := toVec_injective (hsha h)
  cases result
  cases result'
  simp only [ReuseReconnaissanceResult.mk.injEq] at hcontent hhash ⊢
  simp only [hcontent, hhash, and_self]

theorem loaded_eq (hsha : Function.Injective tools.sha256Hex)
    (h : ReuseReconnaissanceResult.loadContractValue tools value = .ok result)
    (h' : ReuseReconnaissanceResult.loadContractValue tools value' = .ok result')
    (hhash : result.resultHash = result'.resultHash) : result = result' := by
  obtain ⟨-, -, hown⟩ := loadContractValue_eq_ok.mp h
  obtain ⟨-, -, hown'⟩ := loadContractValue_eq_ok.mp h'
  exact eq_of_computeHash hsha hhash (hown.symm.trans (hhash.trans hown'))

/-- A change that keeps the hash is rejected. -/
theorem changed_rejected (hderives : tools.Derives) (hsha : Function.Injective tools.sha256Hex)
    (h : ReuseReconnaissanceResult.loadContractValue tools value = .ok result)
    (hhash : result'.resultHash = result.resultHash) (hne : result' ≠ result) :
    ∃ e, ReuseReconnaissanceResult.loadContractValue tools result'.toValue = .error e := by
  cases hload : ReuseReconnaissanceResult.loadContractValue tools result'.toValue with
  | error e => exact ⟨e, rfl⟩
  | ok reloaded =>
    obtain ⟨-, hread, -⟩ := loadContractValue_eq_ok.mp hload
    rw [hderives.readsBack result'] at hread
    cases hread
    exact absurd (loaded_eq hsha hload h hhash) hne

end

/-- Every returned result is loaded again from its serialisation, results that are loaded with
one hash are equal, and a result that was changed under its hash is rejected. -/
theorem frozen_results {tools : FraaTools} (hderives : tools.Derives)
    (hsha : Function.Injective tools.sha256Hex) :
    (∀ input corpusAggregateSha256 documents result,
      analyze tools input corpusAggregateSha256 documents = .ok result →
      ReuseReconnaissanceResult.loadContractValue tools result.toValue = .ok result) ∧
    (∀ value value' result result',
      ReuseReconnaissanceResult.loadContractValue tools value = .ok result →
      ReuseReconnaissanceResult.loadContractValue tools value' = .ok result' →
      result.resultHash = result'.resultHash → result = result') ∧
    ∀ value result changed,
      ReuseReconnaissanceResult.loadContractValue tools value = .ok result →
      changed.resultHash = result.resultHash → changed ≠ result →
      ∃ e, ReuseReconnaissanceResult.loadContractValue tools changed.toValue = .error e := by
  refine ⟨?_, ?_, ?_⟩
  · intro input corpusAggregateSha256 documents result h
    obtain ⟨-, draft, hfreeze, -⟩ := analyze_eq_ok h
    exact freeze_reloads hderives.readsBack hfreeze
  · intro value value' result result' h h' hhash
    exact loaded_eq hsha h h' hhash
  · intro value result changed h hhash hne
    exact changed_rejected hderives hsha h hhash hne

/-! A reader of results, and a digest that tells all contents apart. -/

namespace Fixture

/-- The characters with these codes. -/
def latin (bytes : ByteArray) : String := String.ofList ('-' :: bytes.data.toList.map Char.ofUInt8)

theorem latin_injective : Function.Injective latin := by
  have hchar : Function.Injective Char.ofUInt8 := by
    intro byte byte' h
    exact UInt8.toUInt32_inj.mp (congrArg Char.val h)
  intro bytes bytes' h
  have hlist := (List.cons.inj (String.ofList_injective h)).2
  exact ByteArray.ext (Array.toList_inj.mp (List.map_injective_iff.mpr hchar hlist))

/-- `serde` as it is derived, and the SHA-256 of the one result. -/
noncomputable def reloadTools : FraaTools :=
  { fraaTools with
    reconnaissanceResult := fun value =>
      (ReuseReconnaissanceResult.fromValue value).elim (.error "invalid type") .ok
    sha256Hex := fun bytes => if bytes = (twinDraft [freeOption]).toVec then
      "6d5fc131a5c19a72ff21198d6f7d8884b2d7f005d09ef02cbfd02371d3992366" else latin bytes }

theorem reloadTools_derives : reloadTools.Derives := by
  intro value result h
  simp only [reloadTools, h, Option.elim_some]

theorem reloadTools_injective : Function.Injective reloadTools.sha256Hex := by
  have hdigest : ∀ bytes,
      latin bytes ≠ "6d5fc131a5c19a72ff21198d6f7d8884b2d7f005d09ef02cbfd02371d3992366" := by
    intro bytes h
    have hfirst := congrArg (fun text => text.toList.head?) h
    rw [latin, String.toList_ofList] at hfirst
    cases hfirst
  intro bytes bytes' h
  simp only [reloadTools] at h
  split at h <;> split at h
  · rw [‹bytes = _›, ‹bytes' = _›]
  · exact absurd h.symm (hdigest bytes')
  · exact absurd h (hdigest bytes)
  · exact latin_injective h

theorem corpus_reloaded : ∃ result, analyze reloadTools reconnaissanceInput
    corpusReceipt.aggregateSha256 corpusReceipt.documents = .ok result := by
  obtain ⟨result, hresult⟩ := exists_of_isOk corpus_analyzed
  obtain ⟨target, donors, topologies, constraints, selected, h, -⟩ := analyze_iff.mp hresult
  refine ⟨_, analyze_iff.mpr ⟨target, donors, topologies, constraints, selected,
    ⟨h.authority, h.aggregate, h.gathered, h.application, h.posture, h.selected⟩,
    freeze_eq_ok.mpr ⟨rfl, contract_accepts rfl ?_ rfl⟩⟩⟩
  have hschema : schemaValue ∈ jsonValues := by simp [jsonValues]
  exact fraaTools_fromStr hschema

end Fixture

theorem frozen_results_fixture : ∃ result,
    analyze Fixture.reloadTools Fixture.reconnaissanceInput Fixture.corpusReceipt.aggregateSha256
      Fixture.corpusReceipt.documents = .ok result ∧
    ReuseReconnaissanceResult.loadContractValue Fixture.reloadTools result.toValue =
      .ok result := by
  obtain ⟨result, hresult⟩ := Fixture.corpus_reloaded
  obtain ⟨hreloads, -, -⟩ :=
    frozen_results Fixture.reloadTools_derives Fixture.reloadTools_injective
  exact ⟨result, hresult, hreloads _ _ _ _ hresult⟩

end FaLocal
