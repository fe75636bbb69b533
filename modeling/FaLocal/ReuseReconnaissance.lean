import FaLocal.DecisionSchema

/-!
# Reuse reconnaissance

The sealed evidence documents, the engine that classifies donors and selects a topology,
and the frozen result. JSON texts, `serde`, the schema validators and SHA-256 are
parameters.
-/
namespace FaLocal

/-! ## The input -/

inductive TargetRepositoryPosture where
  | newPrivateApplication | existingRepositoryRefactor
  deriving DecidableEq

inductive ReuseMode where
  | directDependency | vendoring | boundedExtraction | interfaceReuse | testVectorReuse
  | patternReimplementation | serviceConsumption | hold | reject
  deriving DecidableEq

inductive DonorDisposition where
  | qualifiedCandidate | held | rejected
  deriving DecidableEq

inductive EvidenceClass where
  | pinnedCiAndSourceReview | sourceReviewAndTests | sourceReviewOnly | unproven
  deriving DecidableEq

/-- `FRAA_CP1_STEP_IDS` -/
def fraaCp1StepIds : List String := [
  "validate_sealed_manifest",
  "read_candidate_visible",
  "normalize_evidence",
  "classify_donor_capabilities",
  "select_topology",
  "freeze_reconnaissance_result"]

structure ReconnaissanceAuthority where
  executionOwner : String
  networkAllowed : Bool
  modelAllowed : Bool
  repositoryMutationAllowed : Bool
  hiddenOracleAllowed : Bool
  deriving DecidableEq

structure ReuseReconnaissanceInput where
  schemaVersion : String
  runId : String
  capabilityId : CapabilityId
  corpusManifestPath : String
  expectedCorpusAggregateSha256 : String
  targetApplication : String
  targetRepositoryPosture : TargetRepositoryPosture
  requiredCapabilities : List String
  prohibitedEffects : List String
  authority : ReconnaissanceAuthority
  deriving DecidableEq

def ReuseReconnaissanceInput.validateAuthorityBoundary (input : ReuseReconnaissanceInput) :
    FaLocalResult Unit := do
  require (input.authority.executionOwner == "fa-local-operator")
    "FRAA CP1 execution owner must be fa-local-operator"
  require (!(input.authority.networkAllowed || input.authority.modelAllowed ||
      input.authority.repositoryMutationAllowed || input.authority.hiddenOracleAllowed))
    "FRAA CP1 authority boundary must deny network, model, mutation, and oracle access"

structure CorpusDocument where
  relativePath : String
  sha256 : String
  sizeBytes : UInt64
  content : String
  deriving DecidableEq

/-! ## The evidence documents -/

structure TargetAuthorityDocument where
  topologyOwner : String
  operatorSurface : String
  executionOwner : String
  mutationOwner : String
  finalDecisionOwner : String

structure TargetBriefDocument where
  application : String
  repositoryPosture : String
  separateTrustActorsRequired : Bool
  requiredCapabilities : List String
  authority : TargetAuthorityDocument

structure DonorEvidenceRecord where
  capabilityId : String
  sourceRepo : String
  sourceCommit : String
  sourcePaths : List String
  behaviorProven : Bool
  evidenceClass : EvidenceClass
  allowedModes : List ReuseMode
  prohibitedModes : List ReuseMode
  blockers : List String
  preservedTests : List String

structure DonorEvidenceDocument where
  donors : List DonorEvidenceRecord

structure TopologyOptionRecord where
  topologyId : String
  repositoryPosture : String
  supportsNewApplication : Bool
  separateTrustActors : Bool
  complexityRank : UInt32
  deployables : List String
  hardBlockers : List String

structure TopologyOptionsDocument where
  options : List TopologyOptionRecord

structure ConstraintsDocument where
  criticalBlockers : List String
  verificationObligations : List String

/-! ## The result -/

structure DonorCandidateDecision where
  capabilityId : String
  sourceRepo : String
  sourceCommit : String
  sourcePaths : List String
  evidenceClass : EvidenceClass
  reuseMode : ReuseMode
  disposition : DonorDisposition
  blockers : List String
  preservedTests : List String
  rationale : String
  deriving DecidableEq

structure TopologyAssessment where
  topologyId : String
  repositoryPosture : String
  hardBlockers : List String
  complexityRank : UInt32
  selected : Bool
  deriving DecidableEq

structure AuthorityBoundaryResult where
  topologyOwner : String
  operatorSurface : String
  executionOwner : String
  mutationOwner : String
  finalDecisionOwner : String
  networkAllowed : Bool
  modelAllowed : Bool
  repositoryMutationAllowed : Bool
  deriving DecidableEq

structure DraftAssemblyBlueprint where
  repositoryPosture : String
  deployables : List String
  donorCapabilityIds : List String
  verificationObligations : List String
  prohibitedEffects : List String
  deriving DecidableEq

structure ReuseReconnaissanceResult where
  schemaVersion : String
  runId : String
  corpusAggregateSha256 : String
  donorCandidates : List DonorCandidateDecision
  criticalBlockers : List String
  topologyAlternatives : List TopologyAssessment
  selectedTopology : String
  authorityBoundary : AuthorityBoundaryResult
  draftBlueprint : DraftAssemblyBlueprint
  resultHash : String
  deriving DecidableEq

/-! ## Serialised results -/

def repositoryPostureLabel : TargetRepositoryPosture → String
  | .newPrivateApplication => "new_private_application"
  | .existingRepositoryRefactor => "existing_repository_refactor"

def reuseModeLabel : ReuseMode → String
  | .directDependency => "direct_dependency"
  | .vendoring => "vendoring"
  | .boundedExtraction => "bounded_extraction"
  | .interfaceReuse => "interface_reuse"
  | .testVectorReuse => "test_vector_reuse"
  | .patternReimplementation => "pattern_reimplementation"
  | .serviceConsumption => "service_consumption"
  | .hold => "hold"
  | .reject => "reject"

def EvidenceClass.serdeName : EvidenceClass → String
  | .pinnedCiAndSourceReview => "pinned_ci_and_source_review"
  | .sourceReviewAndTests => "source_review_and_tests"
  | .sourceReviewOnly => "source_review_only"
  | .unproven => "unproven"

def DonorDisposition.serdeName : DonorDisposition → String
  | .qualifiedCandidate => "qualified_candidate"
  | .held => "held"
  | .rejected => "rejected"

/-- A list of texts. -/
def textsValue (texts : List String) : Value := .array (texts.map .string)

def DonorCandidateDecision.toValue (donor : DonorCandidateDecision) : Value := .object [
  ("capability_id", .string donor.capabilityId),
  ("source_repo", .string donor.sourceRepo),
  ("source_commit", .string donor.sourceCommit),
  ("source_paths", textsValue donor.sourcePaths),
  ("evidence_class", .string donor.evidenceClass.serdeName),
  ("reuse_mode", .string (reuseModeLabel donor.reuseMode)),
  ("disposition", .string donor.disposition.serdeName),
  ("blockers", textsValue donor.blockers),
  ("preserved_tests", textsValue donor.preservedTests),
  ("rationale", .string donor.rationale)]

def TopologyAssessment.toValue (topology : TopologyAssessment) : Value := .object [
  ("topology_id", .string topology.topologyId),
  ("repository_posture", .string topology.repositoryPosture),
  ("hard_blockers", textsValue topology.hardBlockers),
  ("complexity_rank", .number (toString topology.complexityRank.toNat)),
  ("selected", .bool topology.selected)]

def AuthorityBoundaryResult.toValue (authority : AuthorityBoundaryResult) : Value := .object [
  ("topology_owner", .string authority.topologyOwner),
  ("operator_surface", .string authority.operatorSurface),
  ("execution_owner", .string authority.executionOwner),
  ("mutation_owner", .string authority.mutationOwner),
  ("final_decision_owner", .string authority.finalDecisionOwner),
  ("network_allowed", .bool authority.networkAllowed),
  ("model_allowed", .bool authority.modelAllowed),
  ("repository_mutation_allowed", .bool authority.repositoryMutationAllowed)]

def DraftAssemblyBlueprint.toValue (blueprint : DraftAssemblyBlueprint) : Value := .object [
  ("repository_posture", .string blueprint.repositoryPosture),
  ("deployables", textsValue blueprint.deployables),
  ("donor_capability_ids", textsValue blueprint.donorCapabilityIds),
  ("verification_obligations", textsValue blueprint.verificationObligations),
  ("prohibited_effects", textsValue blueprint.prohibitedEffects)]

/-- The members in the order of the fields, in which `to_vec` writes them. -/
def ReuseReconnaissanceResult.toValue (result : ReuseReconnaissanceResult) : Value := .object [
  ("schema_version", .string result.schemaVersion),
  ("run_id", .string result.runId),
  ("corpus_aggregate_sha256", .string result.corpusAggregateSha256),
  ("donor_candidates", .array (result.donorCandidates.map (·.toValue))),
  ("critical_blockers", textsValue result.criticalBlockers),
  ("topology_alternatives", .array (result.topologyAlternatives.map (·.toValue))),
  ("selected_topology", .string result.selectedTopology),
  ("authority_boundary", result.authorityBoundary.toValue),
  ("draft_blueprint", result.draftBlueprint.toValue),
  ("result_hash", .string result.resultHash)]

/-! ## The serialised result determines the result -/

theorem textsValue_inj {texts texts' : List String} :
    textsValue texts = textsValue texts' ↔ texts = texts' := by
  simp [textsValue, List.map_inj_right]

theorem reuseModeLabel_inj {mode mode' : ReuseMode} :
    reuseModeLabel mode = reuseModeLabel mode' ↔ mode = mode' := by
  cases mode <;> cases mode' <;> simp [reuseModeLabel]

theorem EvidenceClass.serdeName_inj {evidenceClass evidenceClass' : EvidenceClass} :
    evidenceClass.serdeName = evidenceClass'.serdeName ↔ evidenceClass = evidenceClass' := by
  cases evidenceClass <;> cases evidenceClass' <;> simp [serdeName]

theorem DonorDisposition.serdeName_inj {disposition disposition' : DonorDisposition} :
    disposition.serdeName = disposition'.serdeName ↔ disposition = disposition' := by
  cases disposition <;> cases disposition' <;> simp [serdeName]

theorem DonorCandidateDecision.toValue_injective : Function.Injective toValue := by
  rintro ⟨⟩ ⟨⟩ h
  simpa [toValue, textsValue_inj, reuseModeLabel_inj, EvidenceClass.serdeName_inj,
    DonorDisposition.serdeName_inj] using h

theorem TopologyAssessment.toValue_injective : Function.Injective toValue := by
  rintro ⟨topologyId, repositoryPosture, hardBlockers, complexityRank, selected⟩
    ⟨topologyId', repositoryPosture', hardBlockers', complexityRank', selected'⟩ h
  simp only [toValue, Value.object.injEq, List.cons.injEq, Prod.mk.injEq, Value.string.injEq,
    Value.number.injEq, Value.bool.injEq, textsValue_inj, true_and, and_true] at h
  obtain ⟨rfl, rfl, rfl, hrank, rfl⟩ := h
  rw [UInt32.toNat_inj.mp (Nat.repr_injective hrank)]

theorem AuthorityBoundaryResult.toValue_injective : Function.Injective toValue := by
  rintro ⟨⟩ ⟨⟩ h
  simpa [toValue] using h

theorem DraftAssemblyBlueprint.toValue_injective : Function.Injective toValue := by
  rintro ⟨⟩ ⟨⟩ h
  simpa [toValue, textsValue_inj] using h

theorem ReuseReconnaissanceResult.toValue_injective : Function.Injective toValue := by
  rintro ⟨⟩ ⟨⟩ h
  simpa [toValue, textsValue_inj, List.map_inj_right DonorCandidateDecision.toValue_injective,
    List.map_inj_right TopologyAssessment.toValue_injective,
    AuthorityBoundaryResult.toValue_injective.eq_iff,
    DraftAssemblyBlueprint.toValue_injective.eq_iff] using h

end FaLocal
