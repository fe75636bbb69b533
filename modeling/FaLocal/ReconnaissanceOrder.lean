import FaLocal.ReconnaissanceSelection

/-!
# The order of a corpus

A corpus written in another order says the same evidence, with its lists rearranged. The
result of the analysis forgets the order exactly where the sorts of the analysis never tie
records that differ.
-/
namespace FaLocal

open TopologyOptionRecord (Least eligible eligible_iff)

/-! ## Rearranged evidence -/

/-- A donor with its lists of paths, blockers and tests in another order. -/
structure DonorEvidenceRecord.Rearranged (donor donor' : DonorEvidenceRecord) : Prop where
  capabilityId : donor.capabilityId = donor'.capabilityId
  sourceRepo : donor.sourceRepo = donor'.sourceRepo
  sourceCommit : donor.sourceCommit = donor'.sourceCommit
  sourcePaths : donor.sourcePaths.Perm donor'.sourcePaths
  behaviorProven : donor.behaviorProven = donor'.behaviorProven
  evidenceClass : donor.evidenceClass = donor'.evidenceClass
  allowedModes : donor.allowedModes = donor'.allowedModes
  prohibitedModes : donor.prohibitedModes = donor'.prohibitedModes
  blockers : donor.blockers.Perm donor'.blockers
  preservedTests : donor.preservedTests.Perm donor'.preservedTests

/-- An option with its hard blockers in another order. -/
structure TopologyOptionRecord.Rearranged (option option' : TopologyOptionRecord) : Prop where
  topologyId : option.topologyId = option'.topologyId
  repositoryPosture : option.repositoryPosture = option'.repositoryPosture
  supportsNewApplication : option.supportsNewApplication = option'.supportsNewApplication
  separateTrustActors : option.separateTrustActors = option'.separateTrustActors
  complexityRank : option.complexityRank = option'.complexityRank
  deployables : option.deployables = option'.deployables
  hardBlockers : option.hardBlockers.Perm option'.hardBlockers

def DonorEvidenceDocument.Rearranged (donors donors' : DonorEvidenceDocument) : Prop :=
  ∃ mid, donors.donors.Perm mid ∧
    List.Forall₂ DonorEvidenceRecord.Rearranged mid donors'.donors

def TopologyOptionsDocument.Rearranged (topologies topologies' : TopologyOptionsDocument) :
    Prop :=
  ∃ mid, topologies.options.Perm mid ∧
    List.Forall₂ TopologyOptionRecord.Rearranged mid topologies'.options

structure ConstraintsDocument.Rearranged (constraints constraints' : ConstraintsDocument) :
    Prop where
  criticalBlockers : constraints.criticalBlockers.Perm constraints'.criticalBlockers
  verificationObligations :
    constraints.verificationObligations.Perm constraints'.verificationObligations

inductive EvidenceDocument.Rearranged : EvidenceDocument → EvidenceDocument → Prop where
  | targetBrief (target : TargetBriefDocument) : Rearranged (.targetBrief target) (.targetBrief target)
  | donorEvidence {donors donors' : DonorEvidenceDocument} : donors.Rearranged donors' →
      Rearranged (.donorEvidence donors) (.donorEvidence donors')
  | topologyOptions {topologies topologies' : TopologyOptionsDocument} :
      topologies.Rearranged topologies' →
      Rearranged (.topologyOptions topologies) (.topologyOptions topologies')
  | constraints {constraints constraints' : ConstraintsDocument} :
      constraints.Rearranged constraints' →
      Rearranged (.constraints constraints) (.constraints constraints')

/-- Documents that say the same in another order. -/
def RearrangedCorpus (tools : FraaTools) (documents documents' : List CorpusDocument) : Prop :=
  ∃ evidence mid evidence', List.Forall₂ (Says tools) documents evidence ∧ evidence.Perm mid ∧
    List.Forall₂ EvidenceDocument.Rearranged mid evidence' ∧
    List.Forall₂ (Says tools) documents' evidence'

/-- An input with its prohibited effects in another order. -/
def ReuseReconnaissanceInput.Rearranged (input input' : ReuseReconnaissanceInput) : Prop :=
  ∃ prohibitedEffects, input.prohibitedEffects.Perm prohibitedEffects ∧
    input' = { input with prohibitedEffects := prohibitedEffects }

section
variable {tools : FraaTools} {document : CorpusDocument}
  {documents documents' : List CorpusDocument}

theorem Says.unique {evidence evidence' : EvidenceDocument} (h : Says tools document evidence)
    (h' : Says tools document evidence') : evidence = evidence' := by
  obtain ⟨value, hvalue, hread⟩ := h
  obtain ⟨value', hvalue', hread'⟩ := h'
  rw [hvalue] at hvalue'
  cases hvalue'
  cases evidence <;> cases evidence' <;> obtain ⟨hkind, hdocument⟩ := hread <;>
    obtain ⟨hkind', hdocument'⟩ := hread' <;> rw [hkind] at hkind' <;>
    first
    | exact absurd hkind' (by decide)
    | rw [hdocument] at hdocument'
      cases hdocument'
      rfl

theorem says_unique {evidence evidence' : List EvidenceDocument}
    (h : List.Forall₂ (Says tools) documents evidence)
    (h' : List.Forall₂ (Says tools) documents evidence') : evidence = evidence' := by
  induction h generalizing evidence' with
  | nil =>
    cases h'
    rfl
  | cons hsaid _ ih =>
    cases h' with
    | cons hsaid' hrest => rw [hsaid.unique hsaid', ih hrest]

variable {target : TargetBriefDocument} {donors : DonorEvidenceDocument}
  {topologies : TopologyOptionsDocument} {constraints : ConstraintsDocument}

/-- The rearranged corpus gathers rearranged evidence. -/
theorem Gathers.rearranged (h : Gathers tools documents target donors topologies constraints)
    (hcorpus : RearrangedCorpus tools documents documents') :
    ∃ donors' topologies' constraints', donors.Rearranged donors' ∧
      topologies.Rearranged topologies' ∧ constraints.Rearranged constraints' ∧
      Gathers tools documents' target donors' topologies' constraints' := by
  obtain ⟨evidence, hall, hperm⟩ := h
  obtain ⟨_, mid, evidence', hall', hmid, hrearranged, hsaid⟩ := hcorpus
  obtain rfl := says_unique hall hall'
  obtain ⟨four, hfour, hperm'⟩ := List.perm_comp_forall₂ (hperm.symm.trans hmid) hrearranged
  cases hfour with
  | cons htarget hfour =>
  cases hfour with
  | cons hdonors hfour =>
  cases hfour with
  | cons htopologies hfour =>
  cases hfour with
  | cons hconstraints hfour =>
  cases hfour
  cases htarget
  cases hdonors with
  | donorEvidence hdonors =>
  cases htopologies with
  | topologyOptions htopologies =>
  cases hconstraints with
  | constraints hconstraints =>
  exact ⟨_, _, _, hdonors, htopologies, hconstraints, evidence', hsaid, hperm'.symm⟩

end

/-! ## Ties -/

/-- Donors about which the same is decided, but for their identifiers. -/
structure DonorEvidenceRecord.Agrees (donor other : DonorEvidenceRecord) : Prop where
  sourceRepo : donor.sourceRepo = other.sourceRepo
  sourceCommit : donor.sourceCommit = other.sourceCommit
  sourcePaths : ∀ path, path ∈ donor.sourcePaths ↔ path ∈ other.sourcePaths
  evidenceClass : donor.evidenceClass = other.evidenceClass
  reuseMode : selectReuseMode donor = selectReuseMode other
  blockers : ∀ blocker, blocker ∈ donor.blockers ↔ blocker ∈ other.blockers
  preservedTests : ∀ test, test ∈ donor.preservedTests ↔ test ∈ other.preservedTests

/-- Options that are assessed alike, but for their identifiers. -/
structure TopologyOptionRecord.Agrees (option other : TopologyOptionRecord) : Prop where
  repositoryPosture : option.repositoryPosture = other.repositoryPosture
  hardBlockers : ∀ blocker, blocker ∈ option.hardBlockers ↔ blocker ∈ other.hardBlockers
  complexityRank : option.complexityRank = other.complexityRank

/-- Records of one identifier agree, and the least eligible options name the same
deployables. -/
structure TiesAgree (target : TargetBriefDocument) (donors : List DonorEvidenceRecord)
    (options : List TopologyOptionRecord) : Prop where
  sameDonor : ∀ donor ∈ donors, ∀ other ∈ donors, donor.capabilityId = other.capabilityId →
    donor.Agrees other
  sameOption : ∀ option ∈ options, ∀ other ∈ options, option.topologyId = other.topologyId →
    option.Agrees other
  deployables : ∀ option other, Least target options option → Least target options other →
    option.deployables = other.deployables

/-- Records of different identifiers tie with none but themselves. -/
theorem tiesAgree_of_nodup {target : TargetBriefDocument} {donors : List DonorEvidenceRecord}
    {options : List TopologyOptionRecord} (hdonors : (donors.map (·.capabilityId)).Nodup)
    (hoptions : (options.map (·.topologyId)).Nodup) : TiesAgree target donors options where
  sameDonor := by
    intro donor hdonor other hother hid
    obtain rfl := List.inj_on_of_nodup_map hdonors hdonor hother hid
    exact ⟨rfl, rfl, fun _ => .rfl, rfl, rfl, fun _ => .rfl, fun _ => .rfl⟩
  sameOption := by
    intro option hoption other hother hid
    obtain rfl := List.inj_on_of_nodup_map hoptions hoption hother hid
    exact ⟨rfl, fun _ => .rfl, rfl⟩
  deployables := by
    intro option other hoption hother
    rw [List.inj_on_of_nodup_map hoptions hoption.mem hother.mem (hoption.topologyId_eq hother)]

theorem classifyDonor_eq_iff {donor other : DonorEvidenceRecord} :
    classifyDonor donor = classifyDonor other ↔
      donor.capabilityId = other.capabilityId ∧ donor.Agrees other := by
  constructor
  · intro h
    exact ⟨congrArg (·.capabilityId) h, congrArg (·.sourceRepo) h, congrArg (·.sourceCommit) h,
      sortedUnique_eq_iff.mp (congrArg (·.sourcePaths) h), congrArg (·.evidenceClass) h,
      congrArg (·.reuseMode) h, sortedUnique_eq_iff.mp (congrArg (·.blockers) h),
      sortedUnique_eq_iff.mp (congrArg (·.preservedTests) h)⟩
  · rintro ⟨hid, h⟩
    simp only [classifyDonor, hid, h.sourceRepo, h.sourceCommit, h.evidenceClass, h.reuseMode,
      sortedUnique_eq_iff.mpr h.sourcePaths, sortedUnique_eq_iff.mpr h.blockers,
      sortedUnique_eq_iff.mpr h.preservedTests]

theorem assess_eq_iff {selectedTopology : String} {option other : TopologyOptionRecord} :
    assess selectedTopology option = assess selectedTopology other ↔
      option.topologyId = other.topologyId ∧ option.Agrees other := by
  constructor
  · intro h
    exact ⟨congrArg (·.topologyId) h, congrArg (·.repositoryPosture) h,
      sortedUnique_eq_iff.mp (congrArg (·.hardBlockers) h), congrArg (·.complexityRank) h⟩
  · rintro ⟨hid, h⟩
    simp only [assess, hid, h.repositoryPosture, h.complexityRank,
      sortedUnique_eq_iff.mpr h.hardBlockers]

instance : Std.Total TopologyAssessment.Before where
  total left right := le_total left.topologyId right.topologyId

instance : IsTrans TopologyAssessment TopologyAssessment.Before where
  trans _ _ _ := le_trans

section
variable {donors donors' : DonorEvidenceDocument}
  {topologies topologies' : TopologyOptionsDocument} {target : TargetBriefDocument}

theorem DonorEvidenceRecord.Rearranged.classified {donor donor' : DonorEvidenceRecord}
    (h : donor.Rearranged donor') : classifyDonor donor = classifyDonor donor' := by
  refine classifyDonor_eq_iff.mpr ⟨h.capabilityId, h.sourceRepo, h.sourceCommit,
    fun _ => h.sourcePaths.mem_iff, h.evidenceClass, ?_, fun _ => h.blockers.mem_iff,
    fun _ => h.preservedTests.mem_iff⟩
  simp only [selectReuseMode, h.behaviorProven, h.allowedModes, h.prohibitedModes]

theorem TopologyOptionRecord.Rearranged.assessed {option option' : TopologyOptionRecord}
    (h : option.Rearranged option') (selectedTopology : String) :
    assess selectedTopology option = assess selectedTopology option' :=
  assess_eq_iff.mpr ⟨h.topologyId, h.repositoryPosture, fun _ => h.hardBlockers.mem_iff,
    h.complexityRank⟩

/-- Rearranged lists of records are rearranged lists of what is made of the records. -/
theorem map_perm_of_rearranged {α β : Type} {R : α → α → Prop} {f : α → β} {l mid l' : List α}
    (hperm : l.Perm mid) (hall : List.Forall₂ R mid l') (hf : ∀ a b, R a b → f a = f b) :
    (l.map f).Perm (l'.map f) := by
  have hmap : mid.map f = l'.map f := by
    clear hperm
    induction hall with
    | nil => rfl
    | cons hr _ ih => rw [List.map_cons, List.map_cons, hf _ _ hr, ih]
  rw [← hmap]
  exact hperm.map f

/-- Rearranged records are sorted alike, where what is made of tied ones is the same. -/
theorem sorted_eq_of_rearranged {α β : Type} {R : α → α → Prop} {f : α → β}
    {before : β → β → Prop} [DecidableRel before] [IsTrans β before] [Std.Total before]
    {l mid l' : List α} (hperm : l.Perm mid) (hall : List.Forall₂ R mid l')
    (hf : ∀ a b, R a b → f a = f b)
    (hties : ∀ a ∈ l, ∀ b ∈ l, before (f a) (f b) → before (f b) (f a) → f a = f b) :
    (l.map f).insertionSort before = (l'.map f).insertionSort before := by
  refine StableSort.insertionSort_eq_of_perm (map_perm_of_rearranged hperm hall hf) ?_
  intro a ha b hb
  obtain ⟨record, hrecord, rfl⟩ := List.mem_map.mp ha
  obtain ⟨other, hother, rfl⟩ := List.mem_map.mp hb
  exact hties record hrecord other hother

theorem donorCandidates_eq (h : donors.Rearranged donors')
    (hties : ∀ donor ∈ donors.donors, ∀ other ∈ donors.donors,
      donor.capabilityId = other.capabilityId → donor.Agrees other) :
    (donors.donors.map classifyDonor).insertionSort DonorCandidateDecision.Before =
      (donors'.donors.map classifyDonor).insertionSort DonorCandidateDecision.Before := by
  obtain ⟨mid, hperm, hall⟩ := h
  refine sorted_eq_of_rearranged hperm hall (fun _ _ h => h.classified) ?_
  intro donor hdonor other hother hab hba
  have hid : donor.capabilityId = other.capabilityId := le_antisymm hab hba
  exact classifyDonor_eq_iff.mpr ⟨hid, hties donor hdonor other hother hid⟩

theorem alternatives_eq (h : topologies.Rearranged topologies')
    (hties : ∀ option ∈ topologies.options, ∀ other ∈ topologies.options,
      option.topologyId = other.topologyId → option.Agrees other) (selectedTopology : String) :
    (topologies.options.map (assess selectedTopology)).insertionSort TopologyAssessment.Before =
      (topologies'.options.map (assess selectedTopology)).insertionSort
        TopologyAssessment.Before := by
  obtain ⟨mid, hperm, hall⟩ := h
  refine sorted_eq_of_rearranged hperm hall (fun _ _ h => h.assessed selectedTopology) ?_
  intro option hoption other hother hab hba
  have hid : option.topologyId = other.topologyId := le_antisymm hab hba
  exact assess_eq_iff.mpr ⟨hid, hties option hoption other hother hid⟩

/-- An eligible option has no blockers that could be rearranged. -/
theorem TopologyOptionRecord.Rearranged.eligible_iff {option option' : TopologyOptionRecord}
    (h : option.Rearranged option') (target : TargetBriefDocument) :
    eligible target option = eligible target option' ∧
      (eligible target option = true → option = option') := by
  constructor
  · have hempty : option.hardBlockers.isEmpty = option'.hardBlockers.isEmpty := by
      rw [Bool.eq_iff_iff, List.isEmpty_iff, List.isEmpty_iff]
      exact ⟨fun he => (he ▸ h.hardBlockers).nil_eq.symm, fun he => (he ▸ h.hardBlockers).eq_nil⟩
    simp only [TopologyOptionRecord.eligible, hempty, h.supportsNewApplication,
      h.separateTrustActors]
  · intro heligible
    have hunblocked := (TopologyOptionRecord.eligible_iff.mp heligible).unblocked
    have hblockers := h.hardBlockers
    rw [hunblocked] at hblockers
    cases option
    cases option'
    simp only [TopologyOptionRecord.mk.injEq]
    exact ⟨h.topologyId, h.repositoryPosture, h.supportsNewApplication, h.separateTrustActors,
      h.complexityRank, h.deployables, hunblocked.trans hblockers.nil_eq⟩

theorem eligible_perm (h : topologies.Rearranged topologies') :
    (topologies'.options.filter (eligible target)).Perm
      (topologies.options.filter (eligible target)) := by
  obtain ⟨mid, hperm, hall⟩ := h
  have hfilter : mid.filter (eligible target) = topologies'.options.filter (eligible target) := by
    clear hperm
    generalize topologies'.options = options' at hall
    induction hall with
    | nil => rfl
    | @cons option option' _ _ hr _ ih =>
      obtain ⟨heq, hsame⟩ := hr.eligible_iff target
      rw [List.filter_cons, List.filter_cons, ← heq, ih]
      split
      · rw [hsame ‹_›]
      · rfl
  rw [← hfilter]
  exact (hperm.filter _).symm

theorem least_of_filter {options : List TopologyOptionRecord} {option : TopologyOptionRecord}
    (hmem : option ∈ options.filter (eligible target))
    (hleast : ∀ other ∈ options.filter (eligible target), option.Before other) :
    Least target options option where
  mem := (List.mem_filter.mp hmem).1
  eligible := eligible_iff.mp (List.mem_filter.mp hmem).2
  least := by
    intro other hother heligible
    refine TopologyOptionRecord.before_iff_not_smaller.mp (hleast other ?_)
    exact List.mem_filter.mpr ⟨hother, eligible_iff.mpr heligible⟩

theorem mem_eligible_of_least {options : List TopologyOptionRecord}
    {option : TopologyOptionRecord} (h : Least target options option) :
    option ∈ options.filter (eligible target) :=
  List.mem_filter.mpr ⟨h.mem, eligible_iff.mpr h.eligible⟩

theorem before_eligible_of_least {options : List TopologyOptionRecord}
    {option : TopologyOptionRecord} (h : Least target options option) :
    ∀ other ∈ options.filter (eligible target), option.Before other := by
  intro other hother
  rw [List.mem_filter] at hother
  exact TopologyOptionRecord.before_iff_not_smaller.mpr
    (h.least other hother.1 (eligible_iff.mp hother.2))

theorem filter_eligible_append {options m : List TopologyOptionRecord}
    (h : m.Perm (options.filter (eligible target))) :
    (m ++ options.filter fun option => !eligible target option).filter (eligible target) = m := by
  have hm : m.filter (eligible target) = m := by
    rw [List.filter_eq_self]
    intro option hoption
    exact (List.mem_filter.mp (h.mem_iff.mp hoption)).2
  rw [List.filter_append, hm, List.filter_filter]
  simp

/-- What the result takes from the selected option. -/
def TopologyOptionRecord.outline (option : TopologyOptionRecord) : String × String × List String :=
  (option.topologyId, option.repositoryPosture, option.deployables)

theorem selected_outline (h : topologies.Rearranged topologies')
    (hties : TiesAgree target donors.donors topologies.options) {selected : TopologyOptionRecord}
    (hselected : selectTopology target topologies.options = .ok selected) :
    ∃ selected', selectTopology target topologies'.options = .ok selected' ∧
      selected'.outline = selected.outline := by
  have hagree : ∀ a ∈ topologies.options.filter (eligible target),
      ∀ b ∈ topologies.options.filter (eligible target),
      (∀ c ∈ topologies.options.filter (eligible target), a.Before c) →
      (∀ c ∈ topologies.options.filter (eligible target), b.Before c) →
      a.outline = b.outline := by
    intro a ha b hb hleast hleast'
    have hleastA := least_of_filter ha hleast
    have hleastB := least_of_filter hb hleast'
    have hid := hleastA.topologyId_eq hleastB
    have hposture := (hties.sameOption a hleastA.mem b hleastB.mem hid).repositoryPosture
    simp only [TopologyOptionRecord.outline, hid, hposture,
      hties.deployables a b hleastA hleastB]
  have hheads := StableSort.heads_agree_iff.mpr hagree _ (eligible_perm h)
  rw [selectTopology_eq_ok.mp hselected] at hheads
  obtain ⟨selected', hselected', houtline⟩ := Option.map_eq_some_iff.mp hheads
  exact ⟨selected', selectTopology_eq_ok.mpr hselected', houtline⟩

end

/-! ## The result -/

/-- Any evidence can be written as a document. -/
def FraaTools.WritesEvidence (tools : FraaTools) : Prop :=
  ∀ evidence, ∃ document, Says tools document evidence

section
variable {tools : FraaTools} {input : ReuseReconnaissanceInput} {corpusAggregateSha256 : String}
  {documents : List CorpusDocument} {target : TargetBriefDocument}
  {donors : DonorEvidenceDocument} {topologies : TopologyOptionsDocument}
  {constraints : ConstraintsDocument} {selected : TopologyOptionRecord}

/-- Where ties agree, the draft is the same in every order. -/
theorem draftResult_eq {input' : ReuseReconnaissanceInput} {donors' : DonorEvidenceDocument}
    {topologies' : TopologyOptionsDocument} {constraints' : ConstraintsDocument}
    {selected' : TopologyOptionRecord} (hinput : input.Rearranged input')
    (hdonors : donors.Rearranged donors') (htopologies : topologies.Rearranged topologies')
    (hconstraints : constraints.Rearranged constraints')
    (hties : TiesAgree target donors.donors topologies.options)
    (houtline : selected'.outline = selected.outline) :
    draftResult input' corpusAggregateSha256 target donors' topologies' constraints' selected' =
      draftResult input corpusAggregateSha256 target donors topologies constraints selected := by
  obtain ⟨prohibitedEffects, heffects, rfl⟩ := hinput
  simp only [TopologyOptionRecord.outline, Prod.mk.injEq] at houtline
  obtain ⟨hid, hposture, hdeployables⟩ := houtline
  have hcandidates := donorCandidates_eq hdonors hties.sameDonor
  have halternatives := alternatives_eq htopologies hties.sameOption selected.topologyId
  unfold assess at halternatives
  simp only [draftResult, hid, hposture, hdeployables, ← hcandidates, ← halternatives,
    sortedUnique_of_perm heffects, sortedUnique_of_perm hconstraints.verificationObligations,
    sortedUnique_of_perm (hconstraints.criticalBlockers.append_right _)]

variable {result : ReuseReconnaissanceResult} {documents' : List CorpusDocument}

theorem analyze_rearranged {input' : ReuseReconnaissanceInput}
    (h : Analyzes tools input corpusAggregateSha256 documents target donors topologies constraints
      selected)
    (hfreeze : (draftResult input corpusAggregateSha256 target donors topologies constraints
      selected).freeze tools = .ok result)
    (hties : TiesAgree target donors.donors topologies.options)
    (hinput : input.Rearranged input') (hcorpus : RearrangedCorpus tools documents documents') :
    analyze tools input' corpusAggregateSha256 documents' = .ok result := by
  obtain ⟨donors', topologies', constraints', hdonors, htopologies, hconstraints, hgathers⟩ :=
    h.gathered.rearranged hcorpus
  obtain ⟨selected', hselected', houtline⟩ := selected_outline htopologies hties h.selected
  rw [← draftResult_eq hinput hdonors htopologies hconstraints hties houtline] at hfreeze
  obtain ⟨prohibitedEffects, heffects, rfl⟩ := hinput
  have hauthority := h.authority
  exact analyze_iff.mpr ⟨target, donors', topologies', constraints', selected',
    ⟨⟨hauthority.owner, hauthority.network, hauthority.model, hauthority.mutation,
      hauthority.oracle⟩, h.aggregate, hgathers, h.application, h.posture, hselected'⟩, hfreeze⟩

theorem DonorEvidenceDocument.rearranged_of_perm {donors' : List DonorEvidenceRecord}
    (h : donors'.Perm donors.donors) : donors.Rearranged ⟨donors'⟩ :=
  ⟨donors', h.symm, List.forall₂_same.mpr fun _ _ =>
    ⟨rfl, rfl, rfl, .refl _, rfl, rfl, rfl, rfl, .refl _, .refl _⟩⟩

theorem TopologyOptionsDocument.rearranged_of_perm {options' : List TopologyOptionRecord}
    (h : options'.Perm topologies.options) : topologies.Rearranged ⟨options'⟩ :=
  ⟨options', h.symm, List.forall₂_same.mpr fun _ _ =>
    ⟨rfl, rfl, rfl, rfl, rfl, rfl, .refl _⟩⟩

/-- Donors and options in another order can be written as a corpus. -/
theorem exists_rearranged (hwrites : tools.WritesEvidence)
    (h : Gathers tools documents target donors topologies constraints)
    {donors' : List DonorEvidenceRecord} {options' : List TopologyOptionRecord}
    (hdonors : donors'.Perm donors.donors) (hoptions : options'.Perm topologies.options) :
    ∃ documents', RearrangedCorpus tools documents documents' ∧
      Gathers tools documents' target ⟨donors'⟩ ⟨options'⟩ constraints := by
  obtain ⟨evidence, hall, hperm⟩ := h
  obtain ⟨targetDocument, htarget⟩ := hwrites (.targetBrief target)
  obtain ⟨donorDocument, hdonor⟩ := hwrites (.donorEvidence ⟨donors'⟩)
  obtain ⟨topologyDocument, htopology⟩ := hwrites (.topologyOptions ⟨options'⟩)
  obtain ⟨constraintsDocument, hconstraints⟩ := hwrites (.constraints constraints)
  have hsaid : List.Forall₂ (Says tools)
      [targetDocument, donorDocument, topologyDocument, constraintsDocument]
      [.targetBrief target, .donorEvidence ⟨donors'⟩, .topologyOptions ⟨options'⟩,
        .constraints constraints] :=
    .cons htarget (.cons hdonor (.cons htopology (.cons hconstraints .nil)))
  refine ⟨_, ⟨evidence, _, _, hall, hperm, ?_, hsaid⟩, ⟨_, hsaid, .refl _⟩⟩
  exact .cons (.targetBrief target)
    (.cons (.donorEvidence (DonorEvidenceDocument.rearranged_of_perm hdonors))
      (.cons (.topologyOptions (TopologyOptionsDocument.rearranged_of_perm hoptions))
        (.cons (.constraints ⟨.refl _, .refl _⟩) .nil)))

/-- A result that no order changes is drafted from every order of the donors and options. -/
theorem drafted_from (hwrites : tools.WritesEvidence)
    (hgathers : Gathers tools documents target donors topologies constraints)
    (hall : ∀ documents', RearrangedCorpus tools documents documents' →
      analyze tools input corpusAggregateSha256 documents' = .ok result)
    {donors' : List DonorEvidenceRecord} {options' : List TopologyOptionRecord}
    (hdonors : donors'.Perm donors.donors) (hoptions : options'.Perm topologies.options) :
    ∃ selected', selectTopology target options' = .ok selected' ∧
      result.selectedTopology = selected'.topologyId ∧
      result.draftBlueprint.deployables = selected'.deployables ∧
      result.donorCandidates =
        (donors'.map classifyDonor).insertionSort DonorCandidateDecision.Before ∧
      result.topologyAlternatives =
        (options'.map (assess selected'.topologyId)).insertionSort TopologyAssessment.Before := by
  obtain ⟨documents', hcorpus, hgathers'⟩ := exists_rearranged hwrites hgathers hdonors hoptions
  obtain ⟨target', donors'', topologies'', constraints'', selected', hanalyzes, hfreeze⟩ :=
    analyze_iff.mp (hall documents' hcorpus)
  obtain ⟨rfl, rfl, rfl, rfl⟩ := hanalyzes.gathered.unique hgathers'
  obtain ⟨rfl, -⟩ := freeze_eq_ok.mp hfreeze
  exact ⟨selected', hanalyzes.selected, rfl, rfl, rfl, rfl⟩

theorem tiesAgree_of_forgotten (hwrites : tools.WritesEvidence)
    (hgathers : Gathers tools documents target donors topologies constraints)
    (hall : ∀ documents', RearrangedCorpus tools documents documents' →
      analyze tools input corpusAggregateSha256 documents' = .ok result) :
    TiesAgree target donors.donors topologies.options := by
  obtain ⟨selected, hselected, hid, hdeployables, hcandidates, halternatives⟩ :=
    drafted_from hwrites hgathers hall (.refl _) (.refl _)
  refine ⟨?_, ?_, ?_⟩
  · have hforgets : ∀ m : List DonorCandidateDecision, m.Perm (donors.donors.map classifyDonor) →
        m.insertionSort DonorCandidateDecision.Before =
          (donors.donors.map classifyDonor).insertionSort DonorCandidateDecision.Before := by
      intro m hm
      obtain ⟨donors', hdonors', rfl⟩ := Selection.perm_map_iff.mp hm
      obtain ⟨-, -, -, -, hcandidates', -⟩ :=
        drafted_from hwrites hgathers hall hdonors' (.refl _)
      exact hcandidates'.symm.trans hcandidates
    have hties := StableSort.forgets_iff.mp hforgets
    intro donor hdonor other hother heq
    refine (classifyDonor_eq_iff.mp (hties _ (List.mem_map_of_mem hdonor) _
      (List.mem_map_of_mem hother) ?_ ?_)).2
    · exact le_of_eq heq
    · exact le_of_eq heq.symm
  · have hforgets : ∀ m : List TopologyAssessment,
        m.Perm (topologies.options.map (assess selected.topologyId)) →
        m.insertionSort TopologyAssessment.Before =
          (topologies.options.map (assess selected.topologyId)).insertionSort
            TopologyAssessment.Before := by
      intro m hm
      obtain ⟨options', hoptions', rfl⟩ := Selection.perm_map_iff.mp hm
      obtain ⟨selected', -, hid', -, -, halternatives'⟩ :=
        drafted_from hwrites hgathers hall (.refl _) hoptions'
      rw [hid'.symm.trans hid] at halternatives'
      exact halternatives'.symm.trans halternatives
    have hties := StableSort.forgets_iff.mp hforgets
    intro option hoption other hother heq
    refine (assess_eq_iff.mp (hties _ (List.mem_map_of_mem hoption) _
      (List.mem_map_of_mem hother) ?_ ?_)).2
    · exact le_of_eq heq
    · exact le_of_eq heq.symm
  · have hheads : ∀ m : List TopologyOptionRecord,
        m.Perm (topologies.options.filter (eligible target)) →
        (m.insertionSort TopologyOptionRecord.Before).head?.map (·.deployables) =
          ((topologies.options.filter (eligible target)).insertionSort
            TopologyOptionRecord.Before).head?.map (·.deployables) := by
      intro m hm
      have hfilter := filter_eligible_append hm
      obtain ⟨selected', hselected', -, hdeployables', -⟩ := drafted_from hwrites hgathers hall
        (.refl _) ((hm.append_right _).trans (List.filter_append_perm (eligible target) _))
      rw [selectTopology_eq_ok, hfilter] at hselected'
      rw [selectTopology_eq_ok] at hselected
      rw [hselected', hselected, Option.map_some, Option.map_some, ← hdeployables, hdeployables']
    have hties := StableSort.heads_agree_iff.mp hheads
    intro option other hoption hother
    exact hties option (mem_eligible_of_least hoption) other (mem_eligible_of_least hother)
      (before_eligible_of_least hoption) (before_eligible_of_least hother)

end

/-- The result is the same in every order of the corpus exactly where ties agree: records of
one identifier say the same, and so do the least eligible options about deployables. -/
theorem order_forgotten_iff {tools : FraaTools} {input : ReuseReconnaissanceInput}
    {corpusAggregateSha256 : String} {documents : List CorpusDocument}
    {result : ReuseReconnaissanceResult} (hwrites : tools.WritesEvidence)
    (h : analyze tools input corpusAggregateSha256 documents = .ok result) :
    ∃ target donors topologies constraints,
      Gathers tools documents target donors topologies constraints ∧
      ((∀ input' documents', input.Rearranged input' →
          RearrangedCorpus tools documents documents' →
          analyze tools input' corpusAggregateSha256 documents' = .ok result) ↔
        TiesAgree target donors.donors topologies.options) := by
  obtain ⟨target, donors, topologies, constraints, selected, hanalyzes, hfreeze⟩ :=
    analyze_iff.mp h
  refine ⟨target, donors, topologies, constraints, hanalyzes.gathered, ?_, ?_⟩
  · intro hall
    have hinput : input.Rearranged input := ⟨_, .refl _, rfl⟩
    exact tiesAgree_of_forgotten hwrites hanalyzes.gathered fun documents' hcorpus =>
      hall input documents' hinput hcorpus
  · intro hties input' documents' hinput hcorpus
    exact analyze_rearranged hanalyzes hfreeze hties hinput hcorpus

namespace Fixture

/-- The two corpora differ in the order of the options. -/
theorem corpus_swapped :
    RearrangedCorpus twinTools (corpusWith twinDocument) (corpusWith swappedDocument) := by
  have hsaid : ∀ {document topologies}, Says twinTools document (.topologyOptions topologies) →
      List.Forall₂ (Says twinTools) (corpusWith document)
        [.constraints constraintsDocument, .donorEvidence donorEvidence,
          .targetBrief targetBrief, .topologyOptions topologies] := by
    intro document topologies h
    exact .cons ⟨constraintsValue, twinTools_fromStr (by simp [twinValues]), rfl, rfl⟩
      (.cons ⟨donorEvidenceValue, twinTools_fromStr (by simp [twinValues]), rfl, rfl⟩
        (.cons ⟨targetBriefValue, twinTools_fromStr (by simp [twinValues]), rfl, rfl⟩
          (.cons h .nil)))
  have hswapped : TopologyOptionsDocument.Rearranged ⟨[freeOption, blockedOption]⟩
      ⟨[blockedOption, freeOption]⟩ :=
    TopologyOptionsDocument.rearranged_of_perm (List.Perm.swap _ _ _)
  refine ⟨_, _, _, hsaid twinDocument_said, .refl _, ?_, hsaid swappedDocument_said⟩
  exact .cons (.constraints ⟨.refl _, .refl _⟩)
    (.cons (.donorEvidence (DonorEvidenceDocument.rearranged_of_perm (.refl _)))
      (.cons (.targetBrief targetBrief) (.cons (.topologyOptions hswapped) .nil)))

theorem twinTools_sha256Hex (bytes : ByteArray) : twinTools.sha256Hex bytes =
    if bytes = (twinDraft [blockedOption, freeOption]).toVec then
      "cc26d3f0f2aaae60c237c4d3d8e1d2fdebbdc7dc4bd9316f89cc81631a901e0f"
    else "b1b1595455c06e103f3d02d3eafb711756fb5b040030c30964d954ee13483a02" := rfl

end Fixture

/-- Of two options with one identifier the alternatives list the first one first. -/
theorem order_not_forgotten : ∃ result result',
    RearrangedCorpus Fixture.twinTools (Fixture.corpusWith Fixture.twinDocument)
      (Fixture.corpusWith Fixture.swappedDocument) ∧
    analyze Fixture.twinTools Fixture.reconnaissanceInput Fixture.corpusReceipt.aggregateSha256
      (Fixture.corpusWith Fixture.twinDocument) = .ok result ∧
    analyze Fixture.twinTools Fixture.reconnaissanceInput Fixture.corpusReceipt.aggregateSha256
      (Fixture.corpusWith Fixture.swappedDocument) = .ok result' ∧
    result.topologyAlternatives ≠ result'.topologyAlternatives ∧
    result.resultHash ≠ result'.resultHash := by
  have halternatives :
      (Fixture.twinDraft [Fixture.freeOption, Fixture.blockedOption]).topologyAlternatives ≠
        (Fixture.twinDraft [Fixture.blockedOption, Fixture.freeOption]).topologyAlternatives := by
    decide +kernel
  have hvec : (Fixture.twinDraft [Fixture.freeOption, Fixture.blockedOption]).toVec ≠
      (Fixture.twinDraft [Fixture.blockedOption, Fixture.freeOption]).toVec := by
    intro h
    exact halternatives (congrArg (·.topologyAlternatives) (toVec_injective h))
  have hhash :
      (Fixture.twinDraft [Fixture.freeOption, Fixture.blockedOption]).computeHash
        Fixture.twinTools ≠
      (Fixture.twinDraft [Fixture.blockedOption, Fixture.freeOption]).computeHash
        Fixture.twinTools := by
    change Fixture.twinTools.sha256Hex
      (Fixture.twinDraft [Fixture.freeOption, Fixture.blockedOption]).toVec ≠
        Fixture.twinTools.sha256Hex
          (Fixture.twinDraft [Fixture.blockedOption, Fixture.freeOption]).toVec
    rw [Fixture.twinTools_sha256Hex, Fixture.twinTools_sha256Hex, if_neg hvec, if_pos rfl]
    decide
  refine ⟨_, _, Fixture.corpus_swapped,
    Fixture.corpusWith_analyzed Fixture.twinDocument_said Fixture.twin_selected,
    Fixture.corpusWith_analyzed Fixture.swappedDocument_said Fixture.swapped_selected, ?_, ?_⟩
  · exact halternatives
  · dsimp only
    exact hhash

/-! The corpus of three donors and three options, in any order. -/

namespace Fixture

theorem writtenTools_writes : writtenTools.WritesEvidence := by
  intro evidence
  exact ⟨⟨"", "", 0, jsonText evidence.toValue⟩, writtenTools_said rfl⟩

theorem tarcieTies : TiesAgree targetBrief tarcieDonors.donors tarcieOptions.options :=
  tiesAgree_of_nodup (by decide +kernel) (by decide +kernel)

end Fixture

/-- No order of the three donors and the three options changes the result. -/
theorem order_forgotten_iff_tarcie : ∃ result,
    analyze Fixture.writtenTools Fixture.tarcieInput Fixture.tarcieReceipt.aggregateSha256
      Fixture.tarcieReceipt.documents = .ok result ∧
    ∀ input' documents', Fixture.tarcieInput.Rearranged input' →
      RearrangedCorpus Fixture.writtenTools Fixture.tarcieReceipt.documents documents' →
      analyze Fixture.writtenTools input' Fixture.tarcieReceipt.aggregateSha256 documents' =
        .ok result := by
  refine ⟨_, Fixture.tarcie_analyzed, ?_⟩
  obtain ⟨target, donors, topologies, constraints, hgathers, hiff⟩ :=
    order_forgotten_iff Fixture.writtenTools_writes Fixture.tarcie_analyzed
  obtain ⟨rfl, rfl, rfl, rfl⟩ := hgathers.unique Fixture.tarcie_gathers
  exact hiff.mpr Fixture.tarcieTies

end FaLocal
