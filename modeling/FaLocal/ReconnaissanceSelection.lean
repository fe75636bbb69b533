import FaLocal.ReconnaissanceText
import FaLocal.ReuseReconnaissanceService

/-!
# What a reconnaissance selects

The topology that `select_topology` chooses and how it is marked among the alternatives,
and the classification of the donors, with what the result derives from both.
-/
namespace FaLocal

/-! ## Topologies -/

namespace TopologyOptionRecord

/-- Rank and identifier, in the order of the selection. -/
def key (option : TopologyOptionRecord) : ℕ ×ₗ String :=
  toLex (option.complexityRank.toNat, option.topologyId)

/-- A smaller pair of rank and identifier. -/
def Smaller (left right : TopologyOptionRecord) : Prop :=
  left.complexityRank < right.complexityRank ∨
    left.complexityRank = right.complexityRank ∧ left.topologyId < right.topologyId

theorem before_iff {left right : TopologyOptionRecord} :
    left.Before right ↔ left.key ≤ right.key := by
  rw [Before, key, key, Prod.Lex.toLex_le_toLex, UInt32.lt_iff_toNat_lt, ← UInt32.toNat_inj]

theorem smaller_iff {left right : TopologyOptionRecord} :
    left.Smaller right ↔ left.key < right.key := by
  rw [Smaller, key, key, Prod.Lex.toLex_lt_toLex, UInt32.lt_iff_toNat_lt, ← UInt32.toNat_inj]

theorem before_iff_not_smaller {left right : TopologyOptionRecord} :
    left.Before right ↔ ¬ right.Smaller left := by
  rw [before_iff, smaller_iff, not_lt]

instance : Std.Total Before where
  total left right := by
    rw [before_iff, before_iff]
    exact le_total left.key right.key

instance : IsTrans TopologyOptionRecord Before where
  trans left mid right := by
    simp only [before_iff]
    exact le_trans

/-- An option that satisfies the constraints of the target. -/
structure Eligible (target : TargetBriefDocument) (option : TopologyOptionRecord) : Prop where
  unblocked : option.hardBlockers = []
  application : target.repositoryPosture = "new_private_application" →
    option.supportsNewApplication = true
  actors : target.separateTrustActorsRequired = true → option.separateTrustActors = true

/-- An eligible option of the list than which no eligible one is smaller. -/
structure Least (target : TargetBriefDocument) (options : List TopologyOptionRecord)
    (option : TopologyOptionRecord) : Prop where
  mem : option ∈ options
  eligible : option.Eligible target
  least : ∀ other ∈ options, other.Eligible target → ¬ other.Smaller option

/-- The filters of `select_topology`. -/
def eligible (target : TargetBriefDocument) (option : TopologyOptionRecord) : Bool :=
  option.hardBlockers.isEmpty &&
    (target.repositoryPosture != "new_private_application" || option.supportsNewApplication) &&
    (!target.separateTrustActorsRequired || option.separateTrustActors)

theorem eligible_iff {target : TargetBriefDocument} {option : TopologyOptionRecord} :
    eligible target option = true ↔ option.Eligible target := by
  simp only [eligible, Bool.and_eq_true, Bool.or_eq_true, List.isEmpty_iff, bne_iff_ne, ne_eq,
    Bool.not_eq_true']
  constructor
  · rintro ⟨⟨hblockers, hposture⟩, hactors⟩
    refine ⟨hblockers, fun h => hposture.resolve_left (not_not.mpr h), fun h => ?_⟩
    exact hactors.resolve_left (by simp [h])
  · rintro ⟨hblockers, hposture, hactors⟩
    refine ⟨⟨hblockers, or_iff_not_imp_left.mpr fun h => hposture (not_not.mp h)⟩, ?_⟩
    exact or_iff_not_imp_left.mpr fun h => hactors (by simpa using h)

end TopologyOptionRecord

open TopologyOptionRecord (Eligible Least Smaller eligible)

section
variable {target : TargetBriefDocument} {options : List TopologyOptionRecord}
  {option : TopologyOptionRecord}

theorem selectTopology_eq_ok : selectTopology target options = .ok option ↔
    ((options.filter (eligible target)).insertionSort TopologyOptionRecord.Before).head? =
      some option := by
  rw [selectTopology]
  split
  · rename_i hsorted
    change (options.filter (eligible target)).insertionSort TopologyOptionRecord.Before =
      [] at hsorted
    rw [hsorted]
    simp
  · rename_i first rest hsorted
    change (options.filter (eligible target)).insertionSort TopologyOptionRecord.Before =
      first :: rest at hsorted
    rw [hsorted]
    simp

theorem selectTopology_least (h : selectTopology target options = .ok option) :
    Least target options option := by
  obtain ⟨rest, hrest⟩ := List.head?_eq_some_iff.mp (selectTopology_eq_ok.mp h)
  obtain ⟨hmem, hleast⟩ := StableSort.head_least hrest
  rw [List.mem_filter] at hmem
  refine ⟨hmem.1, TopologyOptionRecord.eligible_iff.mp hmem.2, ?_⟩
  intro other hother heligible
  refine TopologyOptionRecord.before_iff_not_smaller.mp (hleast other ?_)
  exact List.mem_filter.mpr ⟨hother, TopologyOptionRecord.eligible_iff.mpr heligible⟩

theorem selectTopology_fails_iff : (∃ e, selectTopology target options = .error e) ↔
    ∀ option ∈ options, ¬ option.Eligible target := by
  constructor
  · rintro ⟨e, he⟩ option hmem heligible
    cases hsorted : (options.filter (eligible target)).insertionSort
        TopologyOptionRecord.Before with
    | nil =>
      rw [StableSort.insertionSort_eq_nil, List.filter_eq_nil_iff] at hsorted
      exact hsorted option hmem (TopologyOptionRecord.eligible_iff.mpr heligible)
    | cons first rest =>
      have hok : selectTopology target options = .ok first := by
        rw [selectTopology_eq_ok, hsorted]
        rfl
      rw [hok] at he
      cases he
  · intro h
    cases hselect : selectTopology target options with
    | error e => exact ⟨e, rfl⟩
    | ok option =>
      have hleast := selectTopology_least hselect
      exact absurd hleast.eligible (h option hleast.mem)

/-- All least options carry the same identifier. -/
theorem TopologyOptionRecord.Least.topologyId_eq {other : TopologyOptionRecord}
    (h : Least target options option) (h' : Least target options other) :
    option.topologyId = other.topologyId := by
  have hle := before_iff.mp (before_iff_not_smaller.mpr (h.least other h'.mem h'.eligible))
  have hle' := before_iff.mp (before_iff_not_smaller.mpr (h'.least option h.mem h.eligible))
  exact congrArg Prod.snd (toLex_inj.mp (le_antisymm hle hle'))

end

/-- The selected option is a least eligible one of the list, there is an error exactly
where no option is eligible, and a result takes its topology from the selected option. -/
theorem topology_selected :
    (∀ target options option, selectTopology target options = .ok option →
      option ∈ options ∧ option.Eligible target ∧
        ∀ other ∈ options, other.Eligible target → ¬ other.Smaller option) ∧
    (∀ target options, (∃ e, selectTopology target options = .error e) ↔
      ∀ option ∈ options, ¬ option.Eligible target) ∧
    ∀ tools input corpusAggregateSha256 documents result,
      analyze tools input corpusAggregateSha256 documents = .ok result →
      ∃ target donors topologies constraints option,
        Gathers tools documents target donors topologies constraints ∧
        selectTopology target topologies.options = .ok option ∧
        result.selectedTopology = option.topologyId ∧
        result.draftBlueprint.repositoryPosture = option.repositoryPosture ∧
        result.draftBlueprint.deployables = option.deployables := by
  refine ⟨?_, fun _ _ => selectTopology_fails_iff, ?_⟩
  · intro target options option h
    have hleast := selectTopology_least h
    exact ⟨hleast.mem, hleast.eligible, hleast.least⟩
  · intro tools input corpusAggregateSha256 documents result h
    obtain ⟨target, donors, topologies, constraints, selected, hanalyzes, hfreeze⟩ :=
      analyze_iff.mp h
    obtain ⟨rfl, -⟩ := freeze_eq_ok.mp hfreeze
    exact ⟨target, donors, topologies, constraints, selected, hanalyzes.gathered,
      hanalyzes.selected, rfl, rfl, rfl⟩

/-! ## The marked alternative -/

/-- One alternative is marked; it is the selected topology, unblocked, and has the posture
of the blueprint. -/
def SelectedAlone (result : ReuseReconnaissanceResult) : Prop :=
  ∃ alternative, result.topologyAlternatives.filter (·.selected) = [alternative] ∧
    alternative.topologyId = result.selectedTopology ∧ alternative.hardBlockers = [] ∧
    alternative.repositoryPosture = result.draftBlueprint.repositoryPosture

/-- The alternative that stands for an option. -/
def assess (selectedTopology : String) (option : TopologyOptionRecord) : TopologyAssessment where
  topologyId := option.topologyId
  repositoryPosture := option.repositoryPosture
  hardBlockers := sortedUnique option.hardBlockers
  complexityRank := option.complexityRank
  selected := option.topologyId == selectedTopology

section
variable (input : ReuseReconnaissanceInput) (corpusAggregateSha256 : String)
  (target : TargetBriefDocument) (donors : DonorEvidenceDocument)
  (topologies : TopologyOptionsDocument) (constraints : ConstraintsDocument)
  (selected : TopologyOptionRecord)

theorem draftResult_alternatives :
    (draftResult input corpusAggregateSha256 target donors topologies constraints
        selected).topologyAlternatives =
      (topologies.options.map (assess selected.topologyId)).insertionSort
        TopologyAssessment.Before := rfl

/-- The marked alternatives stand for the options with the selected identifier. -/
theorem marked_perm : ((draftResult input corpusAggregateSha256 target donors topologies
      constraints selected).topologyAlternatives.filter (·.selected)).Perm
    ((topologies.options.filter (·.topologyId == selected.topologyId)).map
      (assess selected.topologyId)) := by
  have hmap : (topologies.options.map (assess selected.topologyId)).filter (·.selected) =
      (topologies.options.filter (·.topologyId == selected.topologyId)).map
        (assess selected.topologyId) := List.filter_map
  rw [draftResult_alternatives, ← hmap]
  exact (List.perm_insertionSort _ _).filter _

theorem count_topologyId (selectedTopology : String) (options : List TopologyOptionRecord) :
    (options.map (·.topologyId)).count selectedTopology =
      (options.filter (·.topologyId == selectedTopology)).length := by
  rw [List.count, List.countP_map, List.countP_eq_length_filter]
  rfl

variable {target topologies selected}

theorem selectedAlone_iff
    (hselected : selectTopology target topologies.options = .ok selected) :
    SelectedAlone (draftResult input corpusAggregateSha256 target donors topologies constraints
      selected) ↔ (topologies.options.map (·.topologyId)).count selected.topologyId = 1 := by
  have hleast := selectTopology_least hselected
  have hperm := marked_perm input corpusAggregateSha256 target donors topologies constraints
    selected
  rw [count_topologyId]
  constructor
  · rintro ⟨alternative, hmarked, -⟩
    rw [hmarked] at hperm
    simpa using hperm.length_eq.symm
  · intro hcount
    obtain ⟨only, honly⟩ := List.length_eq_one_iff.mp hcount
    have hmem : selected ∈ topologies.options.filter (·.topologyId == selected.topologyId) :=
      List.mem_filter.mpr ⟨hleast.mem, beq_self_eq_true _⟩
    rw [honly, List.mem_singleton] at hmem
    rw [honly, ← hmem, List.map_singleton] at hperm
    refine ⟨assess selected.topologyId selected, hperm.eq_singleton, rfl, ?_, rfl⟩
    exact sortedUnique_eq_nil.mpr hleast.eligible.unblocked

end

/-- The marking is right exactly where no other option carries the identifier of the least
eligible one. -/
theorem selected_alone_when {tools : FraaTools} {input : ReuseReconnaissanceInput}
    {corpusAggregateSha256 : String} {documents : List CorpusDocument}
    {result : ReuseReconnaissanceResult}
    (h : analyze tools input corpusAggregateSha256 documents = .ok result) :
    ∃ target donors topologies constraints,
      Gathers tools documents target donors topologies constraints ∧
      (SelectedAlone result ↔ ∀ option, Least target topologies.options option →
        (topologies.options.map (·.topologyId)).count option.topologyId = 1) := by
  obtain ⟨target, donors, topologies, constraints, selected, hanalyzes, hfreeze⟩ :=
    analyze_iff.mp h
  obtain ⟨rfl, -⟩ := freeze_eq_ok.mp hfreeze
  refine ⟨target, donors, topologies, constraints, hanalyzes.gathered, ?_⟩
  refine (selectedAlone_iff input corpusAggregateSha256 donors constraints
    hanalyzes.selected).trans ?_
  have hleast := selectTopology_least hanalyzes.selected
  constructor
  · intro hcount option hoption
    rwa [hoption.topologyId_eq hleast]
  · intro hall
    exact hall selected hleast

/-! ## Donors -/

instance : Std.Total DonorCandidateDecision.Before where
  total left right := le_total left.capabilityId right.capabilityId

instance : IsTrans DonorCandidateDecision DonorCandidateDecision.Before where
  trans _ _ _ := le_trans

/-- A mode that a donor allows and does not prohibit. -/
def DonorEvidenceRecord.Admits (donor : DonorEvidenceRecord) (mode : ReuseMode) : Prop :=
  mode ∈ donor.allowedModes ∧ mode ∉ donor.prohibitedModes

instance (donor : DonorEvidenceRecord) : DecidablePred donor.Admits := fun mode =>
  inferInstanceAs (Decidable (mode ∈ donor.allowedModes ∧ mode ∉ donor.prohibitedModes))

/-- The decision about a donor. -/
structure DecidesDonor (donor : DonorEvidenceRecord) (candidate : DonorCandidateDecision) :
    Prop where
  capabilityId : candidate.capabilityId = donor.capabilityId
  sourceRepo : candidate.sourceRepo = donor.sourceRepo
  sourceCommit : candidate.sourceCommit = donor.sourceCommit
  evidenceClass : candidate.evidenceClass = donor.evidenceClass
  blockers : ∀ blocker, blocker ∈ candidate.blockers ↔ blocker ∈ donor.blockers
  reject : candidate.reuseMode = .reject ↔
    donor.behaviorProven = false ∨ ∀ mode ∈ reuseModePriority, ¬ donor.Admits mode
  highest : candidate.reuseMode ≠ .reject → ∃ higher lower,
    reuseModePriority = higher ++ candidate.reuseMode :: lower ∧
      donor.Admits candidate.reuseMode ∧ ∀ mode ∈ higher, ¬ donor.Admits mode
  rejected : candidate.disposition = .rejected ↔ candidate.reuseMode = .reject
  qualified : candidate.disposition = .qualifiedCandidate ↔
    candidate.reuseMode ≠ .reject ∧ candidate.blockers = []
  held : candidate.disposition = .held ↔
    candidate.reuseMode ≠ .reject ∧ candidate.blockers ≠ []

section
variable {donor : DonorEvidenceRecord}

theorem reject_not_prioritized : ReuseMode.reject ∉ reuseModePriority := by decide

theorem selectReuseMode_of_proven (h : donor.behaviorProven = true) : selectReuseMode donor =
    (reuseModePriority.find? fun mode => decide (donor.Admits mode)).getD .reject := by
  have hallowed : (donor.allowedModes.filter fun mode =>
      !donor.prohibitedModes.contains mode).contains = fun mode => decide (donor.Admits mode) := by
    funext mode
    rw [Bool.eq_iff_iff, List.contains_iff_mem, List.mem_filter, decide_eq_true_iff]
    simp [DonorEvidenceRecord.Admits]
  simp only [selectReuseMode, h, Bool.not_true, Bool.false_eq_true, if_false, hallowed]

theorem selectReuseMode_reject : selectReuseMode donor = .reject ↔
    donor.behaviorProven = false ∨ ∀ mode ∈ reuseModePriority, ¬ donor.Admits mode := by
  cases hproven : donor.behaviorProven with
  | false => simp [selectReuseMode, hproven]
  | true =>
    rw [selectReuseMode_of_proven hproven]
    cases hfind : reuseModePriority.find? fun mode => decide (donor.Admits mode) with
    | none =>
      rw [List.find?_eq_none] at hfind
      simpa using hfind
    | some mode =>
      have hmem := List.mem_of_find?_eq_some hfind
      have hadmits : donor.Admits mode := by simpa using List.find?_some hfind
      constructor
      · intro h
        exact absurd (show mode = .reject from h) fun he => reject_not_prioritized (he ▸ hmem)
      · intro h
        exact absurd hadmits (h.resolve_left (by decide) mode hmem)

theorem selectReuseMode_highest (h : selectReuseMode donor ≠ .reject) : ∃ higher lower,
    reuseModePriority = higher ++ selectReuseMode donor :: lower ∧
      donor.Admits (selectReuseMode donor) ∧ ∀ mode ∈ higher, ¬ donor.Admits mode := by
  cases hproven : donor.behaviorProven with
  | false => exact absurd (selectReuseMode_reject.mpr (.inl hproven)) h
  | true =>
    rw [selectReuseMode_of_proven hproven] at h ⊢
    cases hfind : reuseModePriority.find? fun mode => decide (donor.Admits mode) with
    | none =>
      rw [hfind] at h
      exact absurd rfl h
    | some mode =>
      obtain ⟨hadmits, higher, lower, hsplit, hhigher⟩ := List.find?_eq_some_iff_append.mp hfind
      refine ⟨higher, lower, hsplit, of_decide_eq_true hadmits, ?_⟩
      intro other hother hadmitted
      have hrefused := hhigher other hother
      rw [decide_eq_true hadmitted] at hrefused
      cases hrefused

theorem classifyDonor_decides (donor : DonorEvidenceRecord) :
    DecidesDonor donor (classifyDonor donor) where
  capabilityId := rfl
  sourceRepo := rfl
  sourceCommit := rfl
  evidenceClass := rfl
  blockers := fun _ => mem_sortedUnique
  reject := selectReuseMode_reject
  highest := selectReuseMode_highest
  rejected := by
    simp only [classifyDonor]
    split
    · simpa
    · split <;> simpa
  qualified := by
    simp only [classifyDonor]
    split
    · simp_all
    · split <;> simp_all
  held := by
    simp only [classifyDonor]
    split
    · simp_all
    · split <;> simp_all

end

/-- Every donor is decided exactly once, the candidates are sorted, and the blockers and the
donors of the blueprint are those of the candidates. -/
theorem donors_decided {tools : FraaTools} {input : ReuseReconnaissanceInput}
    {corpusAggregateSha256 : String} {documents : List CorpusDocument}
    {result : ReuseReconnaissanceResult}
    (h : analyze tools input corpusAggregateSha256 documents = .ok result) :
    ∃ target donors topologies constraints,
      Gathers tools documents target donors topologies constraints ∧
      (∃ arranged, arranged.Perm donors.donors ∧
        List.Forall₂ DecidesDonor arranged result.donorCandidates) ∧
      result.donorCandidates.Pairwise (·.capabilityId ≤ ·.capabilityId) ∧
      result.criticalBlockers.Pairwise (· < ·) ∧
      (∀ blocker, blocker ∈ result.criticalBlockers ↔ blocker ∈ constraints.criticalBlockers ∨
        ∃ candidate ∈ result.donorCandidates, blocker ∈ candidate.blockers) ∧
      result.draftBlueprint.donorCapabilityIds =
        (result.donorCandidates.filter (·.disposition != .rejected)).map (·.capabilityId) := by
  obtain ⟨target, donors, topologies, constraints, selected, hanalyzes, hfreeze⟩ :=
    analyze_iff.mp h
  obtain ⟨rfl, -⟩ := freeze_eq_ok.mp hfreeze
  refine ⟨target, donors, topologies, constraints, hanalyzes.gathered, ?_, ?_, ?_, ?_, ?_⟩
  · have hperm := List.perm_insertionSort DonorCandidateDecision.Before
      (donors.donors.map classifyDonor)
    obtain ⟨arranged, harranged, hmap⟩ := Selection.perm_map_iff.mp hperm
    refine ⟨arranged, harranged, ?_⟩
    change List.Forall₂ DecidesDonor arranged
      ((donors.donors.map classifyDonor).insertionSort DonorCandidateDecision.Before)
    rw [hmap, List.forall₂_map_right_iff, List.forall₂_same]
    exact fun donor _ => classifyDonor_decides donor
  · exact List.pairwise_insertionSort DonorCandidateDecision.Before _
  · exact sortedUnique_sorted _
  · intro blocker
    refine mem_sortedUnique.trans ?_
    rw [List.mem_append, List.mem_flatMap]
    rfl
  · rfl

/-! A corpus of three donors and three options, and a reader of everything that is written. -/

namespace Fixture

def targetBrief : TargetBriefDocument where
  application := "tarcie-reviewer"
  repositoryPosture := "new_private_application"
  separateTrustActorsRequired := true
  requiredCapabilities := ["encrypted_local_outbox"]
  authority := {
    topologyOwner := "Forge"
    operatorSurface := "Forge_Command"
    executionOwner := "fa-local-operator"
    mutationOwner := "forge-smithy"
    finalDecisionOwner := "operator" }

def constraintsDocument : ConstraintsDocument where
  criticalBlockers := ["live_networking"]
  verificationObligations := ["clean_build"]

def outboxDonor : DonorEvidenceRecord where
  capabilityId := "legacy-tarcie-outbox"
  sourceRepo := "forge/tarcie"
  sourceCommit := "6e1be2f5"
  sourcePaths := ["src/queue.rs"]
  behaviorProven := true
  evidenceClass := .pinnedCiAndSourceReview
  allowedModes := [.testVectorReuse, .boundedExtraction, .vendoring]
  prohibitedModes := [.directDependency, .vendoring]
  blockers := ["plaintext_portable_storage", "license_metadata_conflict"]
  preservedTests := ["claim_recovery"]

def replayDonor : DonorEvidenceRecord where
  capabilityId := "forge-telemetry-exact-replay"
  sourceRepo := "forge/telemetry"
  sourceCommit := "0c41aa70"
  sourcePaths := ["src/outbox", "src/canonical_json"]
  behaviorProven := true
  evidenceClass := .sourceReviewAndTests
  allowedModes := [.patternReimplementation, .interfaceReuse]
  prohibitedModes := [.directDependency]
  blockers := []
  preservedTests := ["exact_replay", "bounded_outbox"]

def keyDonor : DonorEvidenceRecord where
  capabilityId := "adjacent-install-key"
  sourceRepo := "forge/author"
  sourceCommit := "93d0be14"
  sourcePaths := ["src/storage"]
  behaviorProven := false
  evidenceClass := .unproven
  allowedModes := [.serviceConsumption]
  prohibitedModes := []
  blockers := ["adjacent_install_key_not_portable"]
  preservedTests := []

def tarcieDonors : DonorEvidenceDocument := ⟨[outboxDonor, replayDonor, keyDonor]⟩

def tarcieOption (topologyId : String) (complexityRank : UInt32)
    (deployables hardBlockers : List String) : TopologyOptionRecord where
  topologyId := topologyId
  repositoryPosture := "new_private_application"
  supportsNewApplication := true
  separateTrustActors := true
  complexityRank := complexityRank
  deployables := deployables
  hardBlockers := hardBlockers

def separateDeployables : TopologyOptionRecord := tarcieOption "separate_deployables" 2
  ["apps/reviewer-desktop", "services/intake-gateway"] []

def tarcieOptions : TopologyOptionsDocument where
  options := [
    tarcieOption "split_repositories" 3 ["reviewer-desktop", "intake-gateway"] [],
    tarcieOption "extend_legacy_tarcie" 1 ["legacy-tarcie"] ["inherits_legacy_trust"],
    separateDeployables]

def tarcieReceipt : SealedCorpusReadReceipt where
  corpusId := "tarcie-cp0-candidate-visible-v1"
  aggregateSha256 := "df68ee744bbcc7d602f02d7ab35f82ff62da01f2a99f043afb04e0b99bfdcf60"
  memberCount := 4
  totalBytes := 2415
  documents := [
    { relativePath := "constraints.json"
      sha256 := "742e5ad88bf62276b9ffdc1931663b0151d977203bc99aea5e323dcd767bd52e"
      sizeBytes := 105
      content := jsonText (EvidenceDocument.constraints constraintsDocument).toValue },
    { relativePath := "donor-evidence.json"
      sha256 := "27b78af046351076a25ff523f0e981fea6b8126616efb85b89c39c509c9b068b"
      sizeBytes := 1173
      content := jsonText (EvidenceDocument.donorEvidence tarcieDonors).toValue },
    { relativePath := "target-brief.json"
      sha256 := "c85cf9c85d8ff674443572ee865595e232dcaf94e6025fc9984ff0b5cebbfb93"
      sizeBytes := 369
      content := jsonText (EvidenceDocument.targetBrief targetBrief).toValue },
    { relativePath := "topology-options.json"
      sha256 := "0d3d5039f6c5ba84e90f1942af8afc8bb998a7686c30cbe20c6aa7f120b8e1ff"
      sizeBytes := 768
      content := jsonText (EvidenceDocument.topologyOptions tarcieOptions).toValue }]

def tarcieInput : ReuseReconnaissanceInput :=
  { reconnaissanceInput with expectedCorpusAggregateSha256 := tarcieReceipt.aggregateSha256 }

/-- The reader of what is written. -/
noncomputable def readBack {α β : Type} (write : α → β) : β → Except String α :=
  Function.extend write .ok fun _ => .error "expected value"

theorem readBack_apply {α β : Type} {write : α → β} (h : Function.Injective write) (a : α) :
    readBack write (write a) = .ok a :=
  h.extend_apply Except.ok _ a

/-- `serde` on all plain values and all documents, and the SHA-256 of the one result. -/
noncomputable def writtenTools : FraaTools :=
  { fraaTools with
    fromStr := fun text =>
      (readBack (fun value : {value : Value // value.Plain} => jsonText value) text).map (·.val)
    targetBrief := readBack (EvidenceDocument.toValue ∘ .targetBrief)
    donorEvidence := readBack (EvidenceDocument.toValue ∘ .donorEvidence)
    topologyOptions := readBack (EvidenceDocument.toValue ∘ .topologyOptions)
    constraints := readBack (EvidenceDocument.toValue ∘ .constraints)
    sha256Hex := fun _ => "71e5d6013ce4d4a91603ba10b43165241ddc5fd2f852c00a371b7a7fa255c986" }

theorem writtenTools_fromStr {value : Value} (h : value.Plain) :
    writtenTools.fromStr (jsonText value) = .ok value := by
  have htext : Function.Injective fun value : {value : Value // value.Plain} => jsonText value := by
    intro value value' heq
    exact Subtype.ext (compact_injective value.property value'.property (String.ofList_inj.mp heq))
  exact congrArg (Except.map (·.val)) (readBack_apply htext ⟨value, h⟩)

theorem writtenTools_said {evidence : EvidenceDocument} {document : CorpusDocument}
    (h : document.content = jsonText evidence.toValue) : Says writtenTools document evidence := by
  refine ⟨evidence.toValue, by rw [h, writtenTools_fromStr evidence.toValue_plain], ?_⟩
  have hinj := EvidenceDocument.toValue_injective
  cases evidence with
  | targetBrief target =>
    exact ⟨rfl, readBack_apply (hinj.comp fun _ _ => EvidenceDocument.targetBrief.inj) target⟩
  | donorEvidence donors =>
    exact ⟨rfl, readBack_apply (hinj.comp fun _ _ => EvidenceDocument.donorEvidence.inj) donors⟩
  | topologyOptions topologies =>
    exact ⟨rfl, readBack_apply (hinj.comp fun _ _ => EvidenceDocument.topologyOptions.inj) topologies⟩
  | constraints constraints =>
    exact ⟨rfl, readBack_apply (hinj.comp fun _ _ => EvidenceDocument.constraints.inj) constraints⟩

/-- A schema file that accepts everything. -/
theorem contract_accepts {tools : FraaTools} {schemaName : FraaSchemaName} {value : Value}
    (hfile : tools.schemaFile schemaName = .ok (jsonText schemaValue))
    (hread : tools.fromStr (jsonText schemaValue) = .ok schemaValue)
    (hbuild : tools.build schemaValue = .ok fun _ => []) :
    validateFraaContract tools schemaName value = .ok () := by
  rw [validateFraaContract, hfile, bind_eq_ok]
  refine ⟨jsonText schemaValue, rfl, ?_⟩
  rw [hread, bind_eq_ok]
  refine ⟨schemaValue, rfl, ?_⟩
  rw [hbuild]
  rfl

theorem tarcie_gathers : Gathers writtenTools tarcieReceipt.documents targetBrief tarcieDonors
    tarcieOptions constraintsDocument := by
  refine ⟨[.constraints constraintsDocument, .donorEvidence tarcieDonors,
    .targetBrief targetBrief, .topologyOptions tarcieOptions], ?_, ?_⟩
  · exact .cons (writtenTools_said rfl) (.cons (writtenTools_said rfl)
      (.cons (writtenTools_said rfl) (.cons (writtenTools_said rfl) .nil)))
  · exact (List.perm_append_singleton _ [_, _, _]).symm.trans (List.Perm.swap _ _ _)

def tarcieDraft : ReuseReconnaissanceResult :=
  draftResult tarcieInput tarcieReceipt.aggregateSha256 targetBrief tarcieDonors tarcieOptions
    constraintsDocument separateDeployables

/-- The least option is blocked, and the least free one is selected. -/
theorem tarcie_selected :
    selectTopology targetBrief tarcieOptions.options = .ok separateDeployables :=
  selectTopology_eq_ok.mpr rfl

theorem tarcie_analyzed :
    analyze writtenTools tarcieInput tarcieReceipt.aggregateSha256 tarcieReceipt.documents =
      .ok { tarcieDraft with resultHash := tarcieDraft.computeHash writtenTools } := by
  have hauthority : AuthorityDenied tarcieInput := ⟨rfl, rfl, rfl, rfl, rfl⟩
  refine analyze_iff.mpr ⟨targetBrief, tarcieDonors, tarcieOptions, constraintsDocument,
    separateDeployables, ⟨hauthority, rfl, tarcie_gathers, rfl, rfl, tarcie_selected⟩, ?_⟩
  refine freeze_eq_ok.mpr ⟨rfl, contract_accepts rfl (writtenTools_fromStr ?_) rfl⟩
  simp [schemaValue]

end Fixture

/-- Of three donors one is rejected, one is qualified and one is held; the blueprint names the
last two. -/
theorem donors_decided_tarcie : ∃ result arranged,
    analyze Fixture.writtenTools Fixture.tarcieInput Fixture.tarcieReceipt.aggregateSha256
      Fixture.tarcieReceipt.documents = .ok result ∧
    arranged.Perm Fixture.tarcieDonors.donors ∧
    List.Forall₂ DecidesDonor arranged result.donorCandidates ∧
    result.donorCandidates.map (fun candidate => (candidate.capabilityId, candidate.disposition)) =
      [("adjacent-install-key", .rejected),
        ("forge-telemetry-exact-replay", .qualifiedCandidate), ("legacy-tarcie-outbox", .held)] ∧
    (∀ blocker, blocker ∈ result.criticalBlockers ↔ blocker = "live_networking" ∨
      ∃ candidate ∈ result.donorCandidates, blocker ∈ candidate.blockers) ∧
    result.draftBlueprint.donorCapabilityIds =
      ["forge-telemetry-exact-replay", "legacy-tarcie-outbox"] := by
  have hdispositions : Fixture.tarcieDraft.donorCandidates.map
      (fun candidate => (candidate.capabilityId, candidate.disposition)) =
      [("adjacent-install-key", .rejected),
        ("forge-telemetry-exact-replay", .qualifiedCandidate),
        ("legacy-tarcie-outbox", .held)] := by
    decide
  have hblueprint : (Fixture.tarcieDraft.donorCandidates.filter (·.disposition != .rejected)).map
      (·.capabilityId) = ["forge-telemetry-exact-replay", "legacy-tarcie-outbox"] := by
    decide
  obtain ⟨target, donors, topologies, constraints, hgathers, ⟨arranged, hperm, hdecided⟩, -, -,
    hblockers, hids⟩ := donors_decided Fixture.tarcie_analyzed
  obtain ⟨rfl, rfl, rfl, rfl⟩ := hgathers.unique Fixture.tarcie_gathers
  refine ⟨_, arranged, Fixture.tarcie_analyzed, hperm, hdecided, hdispositions, ?_,
    hids.trans hblueprint⟩
  intro blocker
  rw [hblockers, Fixture.constraintsDocument, List.mem_singleton]

/-- Of three options the least free one is marked, and no other. -/
theorem selected_alone_when_tarcie : ∃ result,
    analyze Fixture.writtenTools Fixture.tarcieInput Fixture.tarcieReceipt.aggregateSha256
      Fixture.tarcieReceipt.documents = .ok result ∧
    SelectedAlone result ∧ result.selectedTopology = "separate_deployables" ∧
    result.topologyAlternatives.map (·.topologyId) =
      ["extend_legacy_tarcie", "separate_deployables", "split_repositories"] := by
  have halternatives : Fixture.tarcieDraft.topologyAlternatives.map (·.topologyId) =
      ["extend_legacy_tarcie", "separate_deployables", "split_repositories"] := by
    decide
  have honce : ∀ option ∈ Fixture.tarcieOptions.options,
      (Fixture.tarcieOptions.options.map (·.topologyId)).count option.topologyId = 1 := by
    decide
  obtain ⟨target, donors, topologies, constraints, hgathers, hiff⟩ :=
    selected_alone_when Fixture.tarcie_analyzed
  obtain ⟨rfl, rfl, rfl, rfl⟩ := hgathers.unique Fixture.tarcie_gathers
  exact ⟨_, Fixture.tarcie_analyzed, hiff.mpr fun option hoption => honce option hoption.mem, rfl,
    halternatives⟩

/-! A corpus with two options of one identifier, the second of them blocked. -/

namespace Fixture

def donorEvidence : DonorEvidenceDocument where
  donors := [{
    capabilityId := "legacy-tarcie-outbox"
    sourceRepo := "forge/tarcie"
    sourceCommit := "6e1be2f5"
    sourcePaths := ["src/queue.rs"]
    behaviorProven := true
    evidenceClass := .sourceReviewOnly
    allowedModes := [.boundedExtraction]
    prohibitedModes := [.vendoring]
    blockers := []
    preservedTests := ["claim_recovery"] }]

def optionRecord (complexityRank : UInt32) (hardBlockers : List String) :
    TopologyOptionRecord where
  topologyId := "separate_deployables"
  repositoryPosture := "new_private_application"
  supportsNewApplication := true
  separateTrustActors := true
  complexityRank := complexityRank
  deployables := ["apps/reviewer"]
  hardBlockers := hardBlockers

def freeOption : TopologyOptionRecord := optionRecord 2 []

def blockedOption : TopologyOptionRecord := optionRecord 4 ["shared_database"]

def optionValue (complexityRank : String) (hardBlockers : List String) : Value := .object [
  ("topology_id", .string "separate_deployables"),
  ("repository_posture", .string "new_private_application"),
  ("supports_new_application", .bool true),
  ("separate_trust_actors", .bool true),
  ("complexity_rank", .number complexityRank),
  ("deployables", textsValue ["apps/reviewer"]),
  ("hard_blockers", textsValue hardBlockers)]

def twinOptionsValue : Value := .object [
  ("kind", .string "topology_options"),
  ("options", .array [optionValue "2" [], optionValue "4" ["shared_database"]])]

/-- The same options in the other order. -/
def swappedOptionsValue : Value := .object [
  ("kind", .string "topology_options"),
  ("options", .array [optionValue "4" ["shared_database"], optionValue "2" []])]

def twinValues : List Value :=
  [schemaValue, constraintsValue, donorEvidenceValue, targetBriefValue, twinOptionsValue,
    swappedOptionsValue]

/-- What the analysis drafts from the options in either order. -/
def twinDraft (options : List TopologyOptionRecord) : ReuseReconnaissanceResult :=
  draftResult reconnaissanceInput corpusReceipt.aggregateSha256 targetBrief donorEvidence
    ⟨options⟩ constraintsDocument freeOption

/-- `serde` on the schema and the documents, and the SHA-256 of the two results. -/
noncomputable def twinTools : FraaTools :=
  { fraaTools with
    fromStr := fun text =>
      (twinValues.find? fun value => jsonText value == text).elim (.error "expected value") .ok
    topologyOptions := fun value => .ok ⟨if value.compact = swappedOptionsValue.compact then
      [blockedOption, freeOption] else [freeOption, blockedOption]⟩
    sha256Hex := fun bytes => if bytes = (twinDraft [blockedOption, freeOption]).toVec then
      "cc26d3f0f2aaae60c237c4d3d8e1d2fdebbdc7dc4bd9316f89cc81631a901e0f" else
      "b1b1595455c06e103f3d02d3eafb711756fb5b040030c30964d954ee13483a02" }

theorem twinTexts_nodup : (twinValues.map jsonText).Nodup := jsonText_nodup (by decide +kernel)

theorem twinTools_fromStr {value : Value} (h : value ∈ twinValues) :
    twinTools.fromStr (jsonText value) = .ok value := by
  simp only [twinTools, Keyed.find?_of_mem twinTexts_nodup h, Option.elim_some]

/-- The corpus with the options as the given document writes them. -/
def corpusWith (topologyOptions : CorpusDocument) : List CorpusDocument :=
  corpusReceipt.documents.dropLast ++ [topologyOptions]

def twinDocument : CorpusDocument where
  relativePath := "topology-options.json"
  sha256 := "46043126adadb06db712a7f191c8c3c7d879828d0794fe8b2b8d4b2eab2660c0e"
  sizeBytes := 492
  content := jsonText twinOptionsValue

def swappedDocument : CorpusDocument where
  relativePath := "topology-options.json"
  sha256 := "573d664742ee6c4a749f87fec5db1d7c753ba9633db576be52de9288f6c85e49"
  sizeBytes := 492
  content := jsonText swappedOptionsValue

theorem corpusWith_gathers {document : CorpusDocument} {topologies : TopologyOptionsDocument}
    (h : Says twinTools document (.topologyOptions topologies)) :
    Gathers twinTools (corpusWith document) targetBrief donorEvidence topologies
      constraintsDocument := by
  refine ⟨[.constraints constraintsDocument, .donorEvidence donorEvidence,
    .targetBrief targetBrief, .topologyOptions topologies], ?_, ?_⟩
  · refine .cons ⟨constraintsValue, twinTools_fromStr (by simp [twinValues]), rfl, rfl⟩
      (.cons ⟨donorEvidenceValue, twinTools_fromStr (by simp [twinValues]), rfl, rfl⟩
        (.cons ⟨targetBriefValue, twinTools_fromStr (by simp [twinValues]), rfl, rfl⟩
          (.cons h .nil)))
  · exact (List.perm_append_singleton _ [_, _, _]).symm.trans (List.Perm.swap _ _ _)

/-- What is drafted from the options in either order is frozen as the result. -/
theorem corpusWith_analyzed {document : CorpusDocument} {options : List TopologyOptionRecord}
    (hsaid : Says twinTools document (.topologyOptions ⟨options⟩))
    (hselected : selectTopology targetBrief options = .ok freeOption) :
    analyze twinTools reconnaissanceInput corpusReceipt.aggregateSha256 (corpusWith document) =
      .ok { twinDraft options with resultHash := (twinDraft options).computeHash twinTools } := by
  have hauthority : AuthorityDenied reconnaissanceInput := ⟨rfl, rfl, rfl, rfl, rfl⟩
  refine analyze_iff.mpr ⟨targetBrief, donorEvidence, ⟨options⟩, constraintsDocument, freeOption,
    ⟨hauthority, rfl, corpusWith_gathers hsaid, rfl, rfl, hselected⟩, ?_⟩
  refine freeze_eq_ok.mpr ⟨rfl, contract_accepts rfl (twinTools_fromStr ?_) rfl⟩
  simp [twinValues]

theorem twinDocument_said :
    Says twinTools twinDocument (.topologyOptions ⟨[freeOption, blockedOption]⟩) := by
  refine ⟨twinOptionsValue, twinTools_fromStr (by simp [twinValues]), rfl, ?_⟩
  have hne : twinOptionsValue.compact ≠ swappedOptionsValue.compact := by decide +kernel
  simp only [twinTools, if_neg hne]

theorem swappedDocument_said :
    Says twinTools swappedDocument (.topologyOptions ⟨[blockedOption, freeOption]⟩) := by
  refine ⟨swappedOptionsValue, twinTools_fromStr (by simp [twinValues]), rfl, ?_⟩
  simp only [twinTools, if_true]

theorem twin_selected : selectTopology targetBrief [freeOption, blockedOption] = .ok freeOption :=
  selectTopology_eq_ok.mpr rfl

theorem swapped_selected :
    selectTopology targetBrief [blockedOption, freeOption] = .ok freeOption :=
  selectTopology_eq_ok.mpr rfl

end Fixture

/-- Of two options with the selected identifier the blocked one is marked too. -/
theorem selected_not_alone : ∃ result,
    analyze Fixture.twinTools Fixture.reconnaissanceInput Fixture.corpusReceipt.aggregateSha256
      (Fixture.corpusWith Fixture.twinDocument) = .ok result ∧
    (∃ alternative ∈ result.topologyAlternatives, alternative.selected = true ∧
      alternative.hardBlockers = ["shared_database"]) ∧
    ¬ SelectedAlone result := by
  have halternatives : ∃ alternative ∈
      (Fixture.twinDraft [Fixture.freeOption, Fixture.blockedOption]).topologyAlternatives,
      alternative.selected = true ∧ alternative.hardBlockers = ["shared_database"] := by
    decide
  have hmarked : ((Fixture.twinDraft [Fixture.freeOption,
      Fixture.blockedOption]).topologyAlternatives.filter (·.selected)).length = 2 := by
    decide
  refine ⟨_, Fixture.corpusWith_analyzed Fixture.twinDocument_said Fixture.twin_selected, ?_, ?_⟩
  · exact halternatives
  · rintro ⟨alternative, halone, -⟩
    have hlength := congrArg List.length halone
    rw [hmarked] at hlength
    cases hlength

end FaLocal
