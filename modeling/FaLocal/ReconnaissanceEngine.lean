import FaLocal.ReuseReconnaissance
import FaLocal.SqliteForensicStore

/-!
# The reconnaissance engine

`DeterministicReuseReconnaissanceEngine::analyze`: the loop over the documents, donors,
topologies and blockers, and the freezing of the result. A frozen result carries its own
hash and loads again.
-/
namespace FaLocal

inductive FraaSchemaName where
  | reconnaissanceInput | reconnaissanceResult
  deriving DecidableEq

def FraaSchemaName.fileName : FraaSchemaName → String
  | .reconnaissanceInput => "fraa-reconnaissance-input.v0.schema.json"
  | .reconnaissanceResult => "fraa-reconnaissance-result.v0.schema.json"

/-- `serde_json::from_str` and `from_value` for each document, the schema files and their
validators, and the hexadecimal SHA-256. -/
structure FraaTools where
  fromStr : String → Except String Value
  targetBrief : Value → Except String TargetBriefDocument
  donorEvidence : Value → Except String DonorEvidenceDocument
  topologyOptions : Value → Except String TopologyOptionsDocument
  constraints : Value → Except String ConstraintsDocument
  reconnaissanceResult : Value → Except String ReuseReconnaissanceResult
  schemaFile : FraaSchemaName → Except String String
  build : Value → Except String (Value → List String)
  sha256Hex : ByteArray → String

/-- `?` on an answer of `serde_json`. -/
def deserialized {β : Type} (x : Except String β) : FaLocalResult β :=
  loaded (x.mapError .serialization)

/-! ## Freezing -/

def validateFraaContract (tools : FraaTools) (schemaName : FraaSchemaName) (value : Value) :
    FaLocalResult Unit := do
  let raw ← loaded ((tools.schemaFile schemaName).mapError .io)
  let schema ← deserialized (tools.fromStr raw)
  let validator ← loaded ((tools.build schema).mapError (.schemaCompile schemaName.fileName))
  let errors := validator value
  if errors.isEmpty then .ok ()
  else .error (.returned (.schemaValidation schemaName.fileName errors))

namespace ReuseReconnaissanceResult

/-- `serde_json::to_vec` -/
def toVec (result : ReuseReconnaissanceResult) : ByteArray :=
  (String.ofList result.toValue.compact).toUTF8

def computeHash (tools : FraaTools) (result : ReuseReconnaissanceResult) : String :=
  tools.sha256Hex { result with resultHash := "" }.toVec

def verifyHash (tools : FraaTools) (result : ReuseReconnaissanceResult) : FaLocalResult Unit :=
  require (result.resultHash == result.computeHash tools)
    "FRAA reconnaissance result hash does not match canonical result content"

def loadContractValue (tools : FraaTools) (value : Value) :
    FaLocalResult ReuseReconnaissanceResult := do
  validateFraaContract tools .reconnaissanceResult value
  let result ← deserialized (tools.reconnaissanceResult value)
  result.verifyHash tools
  return result

def freeze (tools : FraaTools) (result : ReuseReconnaissanceResult) :
    FaLocalResult ReuseReconnaissanceResult := do
  let result := { result with resultHash := result.computeHash tools }
  validateFraaContract tools .reconnaissanceResult result.toValue
  result.verifyHash tools
  return result

end ReuseReconnaissanceResult

/-! ## The documents -/

/-- `values.collect::<BTreeSet<_>>()` -/
def sortedUnique (values : List String) : List String := (values.insertionSort (· ≤ ·)).dedup

/-- What the loop over the documents has gathered. -/
structure EvidenceSlots where
  targetBrief : Option TargetBriefDocument
  donorEvidence : Option DonorEvidenceDocument
  topologyOptions : Option TopologyOptionsDocument
  constraints : Option ConstraintsDocument

def EvidenceSlots.start : EvidenceSlots := ⟨none, none, none, none⟩

def setOnce {β : Type} (slot : Option β) (value : β) (kind : String) :
    FaLocalResult (Option β) :=
  if slot.isSome then
    .error (contractInvalid ("duplicate candidate-visible document kind " ++ kind))
  else .ok (some value)

/-- `value.get("kind").and_then(Value::as_str)` -/
def documentKind (value : Value) : Option String :=
  match value.get "kind" with
  | some (.string kind) => some kind
  | _ => none

def readDocument (tools : FraaTools) (slots : EvidenceSlots) (document : CorpusDocument) :
    FaLocalResult EvidenceSlots := do
  let value ← deserialized (tools.fromStr document.content)
  match documentKind value with
  | none => .error (contractInvalid
      ("candidate-visible document " ++ (document.relativePath ++ " has no kind")))
  | some kind =>
    if kind = "target_brief" then do
      let targetBrief ← deserialized (tools.targetBrief value)
      let slot ← setOnce slots.targetBrief targetBrief "target_brief"
      return { slots with targetBrief := slot }
    else if kind = "donor_evidence" then do
      let donorEvidence ← deserialized (tools.donorEvidence value)
      let slot ← setOnce slots.donorEvidence donorEvidence "donor_evidence"
      return { slots with donorEvidence := slot }
    else if kind = "topology_options" then do
      let topologyOptions ← deserialized (tools.topologyOptions value)
      let slot ← setOnce slots.topologyOptions topologyOptions "topology_options"
      return { slots with topologyOptions := slot }
    else if kind = "constraints" then do
      let constraints ← deserialized (tools.constraints value)
      let slot ← setOnce slots.constraints constraints "constraints"
      return { slots with constraints := slot }
    else .error (contractInvalid ("unsupported candidate-visible document kind " ++ kind))

def requireDocument {β : Type} (slot : Option β) (message : String) : FaLocalResult β :=
  match slot with
  | none => .error (contractInvalid message)
  | some document => .ok document

/-! ## Donors and topologies -/

/-- The modes from the first choice to the last. -/
def reuseModePriority : List ReuseMode := [
  .serviceConsumption,
  .interfaceReuse,
  .boundedExtraction,
  .testVectorReuse,
  .patternReimplementation,
  .directDependency,
  .vendoring]

def selectReuseMode (donor : DonorEvidenceRecord) : ReuseMode :=
  if !donor.behaviorProven then .reject
  else
    let allowed := donor.allowedModes.filter fun mode => !donor.prohibitedModes.contains mode
    (reuseModePriority.find? allowed.contains).getD .reject

def donorRationale (reuseMode : ReuseMode) (blockers : List String) : DonorDisposition → String
  | .rejected => "No admitted reuse mode remains after evidence and prohibition checks."
  | .held => "Behavior is proven, but " ++ (toString blockers.length ++
      (" blocker(s) require resolution before " ++ (reuseModeLabel reuseMode ++ ".")))
  | .qualifiedCandidate => "Behavior is proven and " ++ (reuseModeLabel reuseMode ++
      " is the highest-priority compatible reuse mode.")

def classifyDonor (donor : DonorEvidenceRecord) : DonorCandidateDecision :=
  let reuseMode := selectReuseMode donor
  let blockers := sortedUnique donor.blockers
  let disposition := if reuseMode = .reject then DonorDisposition.rejected
    else if blockers.isEmpty then .qualifiedCandidate
    else .held
  { capabilityId := donor.capabilityId
    sourceRepo := donor.sourceRepo
    sourceCommit := donor.sourceCommit
    sourcePaths := sortedUnique donor.sourcePaths
    evidenceClass := donor.evidenceClass
    reuseMode := reuseMode
    disposition := disposition
    blockers := blockers
    preservedTests := sortedUnique donor.preservedTests
    rationale := donorRationale reuseMode blockers disposition }

/-- `sort_by` on the capability identifiers. -/
def DonorCandidateDecision.Before (left right : DonorCandidateDecision) : Prop :=
  left.capabilityId ≤ right.capabilityId

instance : DecidableRel DonorCandidateDecision.Before := fun left right =>
  inferInstanceAs (Decidable (left.capabilityId ≤ right.capabilityId))

/-- By rank, then by identifier. -/
def TopologyOptionRecord.Before (left right : TopologyOptionRecord) : Prop :=
  left.complexityRank < right.complexityRank ∨
    left.complexityRank = right.complexityRank ∧ left.topologyId ≤ right.topologyId

instance : DecidableRel TopologyOptionRecord.Before := fun left right =>
  inferInstanceAs (Decidable (left.complexityRank < right.complexityRank ∨
    left.complexityRank = right.complexityRank ∧ left.topologyId ≤ right.topologyId))

def TopologyAssessment.Before (left right : TopologyAssessment) : Prop :=
  left.topologyId ≤ right.topologyId

instance : DecidableRel TopologyAssessment.Before := fun left right =>
  inferInstanceAs (Decidable (left.topologyId ≤ right.topologyId))

def selectTopology (target : TargetBriefDocument) (options : List TopologyOptionRecord) :
    FaLocalResult TopologyOptionRecord :=
  let eligible := options.filter fun option => option.hardBlockers.isEmpty &&
    (target.repositoryPosture != "new_private_application" || option.supportsNewApplication) &&
    (!target.separateTrustActorsRequired || option.separateTrustActors)
  match eligible.insertionSort TopologyOptionRecord.Before with
  | [] => .error (contractInvalid "no topology option satisfies target constraints")
  | option :: _ => .ok option

/-! ## The engine -/

/-- The result before it is frozen. -/
def draftResult (input : ReuseReconnaissanceInput) (corpusAggregateSha256 : String)
    (target : TargetBriefDocument) (donors : DonorEvidenceDocument)
    (topologies : TopologyOptionsDocument) (constraints : ConstraintsDocument)
    (selected : TopologyOptionRecord) : ReuseReconnaissanceResult :=
  let donorCandidates :=
    (donors.donors.map classifyDonor).insertionSort DonorCandidateDecision.Before
  { schemaVersion := "FraaReconnaissanceResult.v0"
    runId := input.runId
    corpusAggregateSha256 := corpusAggregateSha256
    donorCandidates := donorCandidates
    criticalBlockers :=
      sortedUnique (constraints.criticalBlockers ++ donorCandidates.flatMap (·.blockers))
    topologyAlternatives := (topologies.options.map fun option =>
      { topologyId := option.topologyId
        repositoryPosture := option.repositoryPosture
        hardBlockers := sortedUnique option.hardBlockers
        complexityRank := option.complexityRank
        selected := option.topologyId == selected.topologyId }).insertionSort
          TopologyAssessment.Before
    selectedTopology := selected.topologyId
    authorityBoundary :=
      { topologyOwner := target.authority.topologyOwner
        operatorSurface := target.authority.operatorSurface
        executionOwner := target.authority.executionOwner
        mutationOwner := target.authority.mutationOwner
        finalDecisionOwner := target.authority.finalDecisionOwner
        networkAllowed := false
        modelAllowed := false
        repositoryMutationAllowed := false }
    draftBlueprint :=
      { repositoryPosture := selected.repositoryPosture
        deployables := selected.deployables
        donorCapabilityIds :=
          (donorCandidates.filter fun candidate => candidate.disposition != .rejected).map
            (·.capabilityId)
        verificationObligations := sortedUnique constraints.verificationObligations
        prohibitedEffects := sortedUnique input.prohibitedEffects }
    resultHash := "" }

def analyze (tools : FraaTools) (input : ReuseReconnaissanceInput)
    (corpusAggregateSha256 : String) (documents : List CorpusDocument) :
    FaLocalResult ReuseReconnaissanceResult := do
  input.validateAuthorityBoundary
  require (corpusAggregateSha256 == input.expectedCorpusAggregateSha256)
    "sealed corpus aggregate does not match FRAA input binding"
  let slots ← documents.foldlM (readDocument tools) .start
  let target ← requireDocument slots.targetBrief "missing target_brief document"
  let donors ← requireDocument slots.donorEvidence "missing donor_evidence document"
  let topologies ← requireDocument slots.topologyOptions "missing topology_options document"
  let constraints ← requireDocument slots.constraints "missing constraints document"
  require (target.application == input.targetApplication &&
      target.repositoryPosture == repositoryPostureLabel input.targetRepositoryPosture)
    "target brief does not match FRAA input target binding"
  let selected ← selectTopology target topologies.options
  (draftResult input corpusAggregateSha256 target donors topologies constraints selected).freeze
    tools

/-! ## Authority, binding and reload -/

/-- The authority of an input denies everything but reading, to this executor. -/
structure AuthorityDenied (input : ReuseReconnaissanceInput) : Prop where
  owner : input.authority.executionOwner = "fa-local-operator"
  network : input.authority.networkAllowed = false
  model : input.authority.modelAllowed = false
  mutation : input.authority.repositoryMutationAllowed = false
  oracle : input.authority.hiddenOracleAllowed = false

theorem validateAuthorityBoundary_eq_ok {input : ReuseReconnaissanceInput} :
    input.validateAuthorityBoundary = .ok () ↔ AuthorityDenied input := by
  rw [ReuseReconnaissanceInput.validateAuthorityBoundary, seq_eq_ok, require_eq_ok, require_eq_ok]
  simp only [beq_iff_eq, Bool.not_eq_true', Bool.or_eq_false_iff]
  constructor
  · rintro ⟨howner, ⟨⟨hnetwork, hmodel⟩, hmutation⟩, horacle⟩
    exact ⟨howner, hnetwork, hmodel, hmutation, horacle⟩
  · intro h
    exact ⟨h.owner, ⟨⟨h.network, h.model⟩, h.mutation⟩, h.oracle⟩

/-- `serde` reads back what it has written. -/
def FraaTools.ReadsBack (tools : FraaTools) : Prop :=
  ∀ result : ReuseReconnaissanceResult, tools.reconnaissanceResult result.toValue = .ok result

section
variable {tools : FraaTools} {draft result : ReuseReconnaissanceResult}

/-- The hash does not depend on the field that holds it. -/
@[simp] theorem computeHash_resultHash (result : ReuseReconnaissanceResult) (resultHash : String) :
    { result with resultHash := resultHash }.computeHash tools = result.computeHash tools := rfl

theorem freeze_eq_ok :
    draft.freeze tools = .ok result ↔
      result = { draft with resultHash := draft.computeHash tools } ∧
        validateFraaContract tools .reconnaissanceResult result.toValue = .ok () := by
  have hverify : ReuseReconnaissanceResult.verifyHash tools
      { draft with resultHash := draft.computeHash tools } = .ok () := by
    simp [ReuseReconnaissanceResult.verifyHash]
  simp only [ReuseReconnaissanceResult.freeze, seq_eq_ok, hverify, true_and]
  constructor
  · rintro ⟨hvalid, ⟨⟩⟩
    exact ⟨rfl, hvalid⟩
  · rintro ⟨rfl, hvalid⟩
    exact ⟨hvalid, rfl⟩

/-- A frozen result passes its contract when it is loaded again. -/
theorem freeze_reloads (hserde : tools.ReadsBack) (h : draft.freeze tools = .ok result) :
    ReuseReconnaissanceResult.loadContractValue tools result.toValue = .ok result := by
  obtain ⟨hresult, hvalid⟩ := freeze_eq_ok.mp h
  have hverify : result.verifyHash tools = .ok () := by
    rw [hresult]
    simp [ReuseReconnaissanceResult.verifyHash]
  rw [ReuseReconnaissanceResult.loadContractValue, hvalid, hserde result]
  simp only [deserialized, loaded, Except.mapError, bind, Except.bind, hverify]
  rfl

/-- An analysed corpus is the one that the input is bound to, and its result is frozen. -/
theorem analyze_eq_ok {input : ReuseReconnaissanceInput} {corpusAggregateSha256 : String}
    {documents : List CorpusDocument}
    (h : analyze tools input corpusAggregateSha256 documents = .ok result) :
    corpusAggregateSha256 = input.expectedCorpusAggregateSha256 ∧
      ∃ draft : ReuseReconnaissanceResult, draft.freeze tools = .ok result ∧
        draft.corpusAggregateSha256 = corpusAggregateSha256 := by
  rw [analyze, seq_eq_ok, seq_eq_ok, require_eq_ok, beq_iff_eq] at h
  obtain ⟨-, haggregate, hdocuments⟩ := h
  simp only [bind_eq_ok] at hdocuments
  obtain ⟨slots, -, target, -, donors, -, topologies, -, constraints, -, -, -, selected, -,
    hfreeze⟩ := hdocuments
  exact ⟨haggregate, _, hfreeze, rfl⟩

end

end FaLocal
