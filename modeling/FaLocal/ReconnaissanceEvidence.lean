import FaLocal.Library.StableSort
import FaLocal.ReconnaissanceEngine

/-!
# The evidence of a reconnaissance

An analysis that returns has read four documents, one of each kind, in whatever order they
came. The rest of it works on what they say.
-/
namespace FaLocal

/-! ## Sorted sets -/

theorem mem_sortedUnique {s : String} {values : List String} :
    s ∈ sortedUnique values ↔ s ∈ values := by
  rw [sortedUnique, List.mem_dedup, List.mem_insertionSort]

theorem sortedUnique_sorted (values : List String) : (sortedUnique values).Pairwise (· < ·) := by
  have hle : (sortedUnique values).Pairwise (· ≤ ·) :=
    (List.pairwise_insertionSort (· ≤ ·) values).sublist (List.dedup_sublist _)
  have hne : (sortedUnique values).Pairwise (· ≠ ·) := List.nodup_dedup _
  exact (hle.and hne).imp fun h => lt_of_le_of_ne h.1 h.2

/-- A sorted set is determined by its members. -/
theorem sortedUnique_eq_iff {values values' : List String} :
    sortedUnique values = sortedUnique values' ↔ ∀ s, s ∈ values ↔ s ∈ values' := by
  constructor
  · intro h s
    rw [← mem_sortedUnique, h, mem_sortedUnique]
  · intro h
    refine List.Pairwise.eq_of_mem_iff (sortedUnique_sorted values)
      (sortedUnique_sorted values') ?_
    intro s
    rw [mem_sortedUnique, mem_sortedUnique, h]

theorem sortedUnique_of_perm {values values' : List String} (h : values.Perm values') :
    sortedUnique values = sortedUnique values' :=
  sortedUnique_eq_iff.mpr fun _ => h.mem_iff

theorem sortedUnique_eq_nil {values : List String} : sortedUnique values = [] ↔ values = [] := by
  simp only [List.eq_nil_iff_forall_not_mem, mem_sortedUnique]

/-! ## Documents -/

theorem deserialized_eq_ok {β : Type} {x : Except String β} {b : β} :
    deserialized x = .ok b ↔ x = .ok b := by
  rw [deserialized, loaded_eq_ok, mapError_eq_ok]

theorem setOnce_eq_ok {β : Type} {slot slot' : Option β} {value : β} {kind : String} :
    setOnce slot value kind = .ok slot' ↔ slot = none ∧ slot' = some value := by
  cases slot <;> simp [setOnce, eq_comm]

theorem requireDocument_eq_ok {β : Type} {slot : Option β} {message : String} {document : β} :
    requireDocument slot message = .ok document ↔ slot = some document := by
  cases slot <;> simp [requireDocument]

/-- What one document of the corpus says. -/
inductive EvidenceDocument where
  | targetBrief (document : TargetBriefDocument)
  | donorEvidence (document : DonorEvidenceDocument)
  | topologyOptions (document : TopologyOptionsDocument)
  | constraints (document : ConstraintsDocument)

/-- A value that is evidence of its kind. -/
def EvidenceDocument.ReadFrom (tools : FraaTools) (value : Value) : EvidenceDocument → Prop
  | .targetBrief document =>
    documentKind value = some "target_brief" ∧ tools.targetBrief value = .ok document
  | .donorEvidence document =>
    documentKind value = some "donor_evidence" ∧ tools.donorEvidence value = .ok document
  | .topologyOptions document =>
    documentKind value = some "topology_options" ∧ tools.topologyOptions value = .ok document
  | .constraints document =>
    documentKind value = some "constraints" ∧ tools.constraints value = .ok document

/-- The content of the document says this. -/
def Says (tools : FraaTools) (document : CorpusDocument) (evidence : EvidenceDocument) : Prop :=
  ∃ value, tools.fromStr document.content = .ok value ∧ evidence.ReadFrom tools value

/-- A slot is filled once. -/
def EvidenceSlots.put (slots : EvidenceSlots) : EvidenceDocument → Option EvidenceSlots
  | .targetBrief document =>
    if slots.targetBrief.isSome then none else some { slots with targetBrief := document }
  | .donorEvidence document =>
    if slots.donorEvidence.isSome then none else some { slots with donorEvidence := document }
  | .topologyOptions document =>
    if slots.topologyOptions.isSome then none else some { slots with topologyOptions := document }
  | .constraints document =>
    if slots.constraints.isSome then none else some { slots with constraints := document }

section
variable {tools : FraaTools} {slots slots' : EvidenceSlots} {document : CorpusDocument}
  {documents : List CorpusDocument}

/-- `set_once(&mut slot, serde_json::from_value(value)?, kind)?` -/
theorem filled_eq_ok {β : Type} {x : Except String β} {slot : Option β} {kind : String}
    {place : Option β → EvidenceSlots} :
    (do
      let document ← deserialized x
      let filled ← setOnce slot document kind
      return place filled) = Except.ok slots' ↔
      ∃ document, x = .ok document ∧
        (if slot.isSome then none else some (place (some document))) = some slots' := by
  simp only [bind_eq_ok, deserialized_eq_ok, setOnce_eq_ok, Option.ite_none_left_eq_some,
    Bool.not_eq_true, Option.isSome_eq_false_iff, Option.isNone_iff_eq_none, Option.some.injEq]
  constructor
  · rintro ⟨document, hx, filled, ⟨hslot, rfl⟩, ⟨⟩⟩
    exact ⟨document, hx, hslot, rfl⟩
  · rintro ⟨document, hx, hslot, rfl⟩
    exact ⟨document, hx, _, ⟨hslot, rfl⟩, rfl⟩

/-- A document is read when it says something and the slot of its kind is empty. -/
theorem readDocument_eq_ok : readDocument tools slots document = .ok slots' ↔
    ∃ evidence, Says tools document evidence ∧ slots.put evidence = some slots' := by
  rw [readDocument, bind_eq_ok]
  constructor
  · rintro ⟨value, hvalue, h⟩
    rw [deserialized_eq_ok] at hvalue
    cases hkind : documentKind value with
    | none =>
      simp only [hkind] at h
      cases h
    | some kind =>
      simp only [hkind] at h
      split at h
      · obtain ⟨d, hd, hput⟩ := filled_eq_ok.mp h
        subst kind
        exact ⟨.targetBrief d, ⟨value, hvalue, hkind, hd⟩, hput⟩
      split at h
      · obtain ⟨d, hd, hput⟩ := filled_eq_ok.mp h
        subst kind
        exact ⟨.donorEvidence d, ⟨value, hvalue, hkind, hd⟩, hput⟩
      split at h
      · obtain ⟨d, hd, hput⟩ := filled_eq_ok.mp h
        subst kind
        exact ⟨.topologyOptions d, ⟨value, hvalue, hkind, hd⟩, hput⟩
      split at h
      · obtain ⟨d, hd, hput⟩ := filled_eq_ok.mp h
        subst kind
        exact ⟨.constraints d, ⟨value, hvalue, hkind, hd⟩, hput⟩
      · cases h
  · rintro ⟨evidence, ⟨value, hvalue, hread⟩, hput⟩
    refine ⟨value, deserialized_eq_ok.mpr hvalue, ?_⟩
    cases evidence with
    | targetBrief d =>
      obtain ⟨hkind, hd⟩ := hread
      simp only [hkind]
      exact filled_eq_ok.mpr ⟨d, hd, hput⟩
    | donorEvidence d =>
      obtain ⟨hkind, hd⟩ := hread
      simp only [hkind]
      exact filled_eq_ok.mpr ⟨d, hd, hput⟩
    | topologyOptions d =>
      obtain ⟨hkind, hd⟩ := hread
      simp only [hkind]
      exact filled_eq_ok.mpr ⟨d, hd, hput⟩
    | constraints d =>
      obtain ⟨hkind, hd⟩ := hread
      simp only [hkind]
      exact filled_eq_ok.mpr ⟨d, hd, hput⟩

/-! ## The corpus -/

/-- Documents that say four things, one of each kind. -/
def Gathers (tools : FraaTools) (documents : List CorpusDocument) (target : TargetBriefDocument)
    (donors : DonorEvidenceDocument) (topologies : TopologyOptionsDocument)
    (constraints : ConstraintsDocument) : Prop :=
  ∃ evidence, List.Forall₂ (Says tools) documents evidence ∧
    evidence.Perm [.targetBrief target, .donorEvidence donors, .topologyOptions topologies,
      .constraints constraints]

/-- What the slots hold. -/
def EvidenceSlots.held (slots : EvidenceSlots) : List EvidenceDocument :=
  slots.targetBrief.toList.map .targetBrief ++ (slots.donorEvidence.toList.map .donorEvidence ++
    (slots.topologyOptions.toList.map .topologyOptions ++
      slots.constraints.toList.map .constraints))

theorem EvidenceSlots.put_held {evidence : EvidenceDocument} (h : slots.put evidence = some slots') :
    slots'.held.Perm (evidence :: slots.held) := by
  cases evidence with
  | targetBrief d =>
    obtain ⟨hslot, ⟨⟩⟩ := Option.ite_none_left_eq_some.mp h
    simp_all [held]
  | donorEvidence d =>
    obtain ⟨hslot, ⟨⟩⟩ := Option.ite_none_left_eq_some.mp h
    simp_all [held]
  | topologyOptions d =>
    obtain ⟨hslot, ⟨⟩⟩ := Option.ite_none_left_eq_some.mp h
    rw [Bool.not_eq_true, Option.isSome_eq_false_iff, Option.isNone_iff_eq_none] at hslot
    simp only [held, hslot]
    exact (List.perm_middle.append_left _).trans List.perm_middle
  | constraints d =>
    obtain ⟨hslot, ⟨⟩⟩ := Option.ite_none_left_eq_some.mp h
    rw [Bool.not_eq_true, Option.isSome_eq_false_iff, Option.isNone_iff_eq_none] at hslot
    simp only [held, hslot]
    refine (((List.perm_middle.append_left _).trans List.perm_middle).append_left _).trans ?_
    exact List.perm_middle

theorem EvidenceSlots.put_comm (slots : EvidenceSlots) (a b : EvidenceDocument) :
    (slots.put a).bind (·.put b) = (slots.put b).bind (·.put a) := by
  obtain ⟨target, donors, topologies, constraints⟩ := slots
  cases a <;> cases b <;> cases target <;> cases donors <;> cases topologies <;>
    cases constraints <;> rfl

/-- A fold whose steps commute takes a list in any order. -/
theorem foldlM_perm {σ α : Type} {f : σ → α → Option σ}
    (hcomm : ∀ s a b, (f s a).bind (f · b) = (f s b).bind (f · a)) {l l' : List α}
    (h : l.Perm l') (s : σ) : l.foldlM f s = l'.foldlM f s := by
  induction h generalizing s with
  | nil => rfl
  | cons a _ ih => simp only [List.foldlM_cons, ih]
  | swap a b l =>
    simp only [List.foldlM_cons, ← bind_assoc]
    exact congrArg (· >>= _) (hcomm s b a)
  | trans _ _ ih₁ ih₂ => exact (ih₁ s).trans (ih₂ s)

theorem foldlM_put_held {evidence : List EvidenceDocument}
    (h : evidence.foldlM EvidenceSlots.put slots = some slots') :
    slots'.held.Perm (evidence ++ slots.held) := by
  induction evidence generalizing slots with
  | nil =>
    cases h
    exact .refl _
  | cons e evidence ih =>
    rw [List.foldlM_cons] at h
    obtain ⟨mid, hmid, h⟩ := Option.bind_eq_some_iff.mp h
    refine (ih h).trans ?_
    refine ((EvidenceSlots.put_held hmid).append_left evidence).trans ?_
    exact List.perm_middle

theorem foldlM_readDocument_eq_ok : documents.foldlM (readDocument tools) slots = .ok slots' ↔
    ∃ evidence, List.Forall₂ (Says tools) documents evidence ∧
      evidence.foldlM EvidenceSlots.put slots = some slots' := by
  induction documents generalizing slots with
  | nil =>
    constructor
    · rintro ⟨⟩
      exact ⟨[], .nil, rfl⟩
    · rintro ⟨evidence, ⟨⟩, ⟨⟩⟩
      rfl
  | cons document documents ih =>
    rw [List.foldlM_cons, bind_eq_ok]
    constructor
    · rintro ⟨mid, hmid, h⟩
      obtain ⟨e, hsaid, hput⟩ := readDocument_eq_ok.mp hmid
      obtain ⟨evidence, hall, hfold⟩ := ih.mp h
      refine ⟨e :: evidence, .cons hsaid hall, ?_⟩
      rw [List.foldlM_cons, hput]
      exact hfold
    · rintro ⟨_, hall, hfold⟩
      cases hall with
      | @cons _ e _ evidence hsaid hall =>
        rw [List.foldlM_cons] at hfold
        obtain ⟨mid, hmid, hfold⟩ := Option.bind_eq_some_iff.mp hfold
        exact ⟨mid, readDocument_eq_ok.mpr ⟨e, hsaid, hmid⟩, ih.mpr ⟨evidence, hall, hfold⟩⟩

variable {target : TargetBriefDocument} {donors : DonorEvidenceDocument}
  {topologies : TopologyOptionsDocument} {constraints : ConstraintsDocument}

/-- The loop over the documents fills all slots from four documents in any order. -/
theorem gathers_iff : Gathers tools documents target donors topologies constraints ↔
    documents.foldlM (readDocument tools) .start =
      .ok ⟨some target, some donors, some topologies, some constraints⟩ := by
  rw [foldlM_readDocument_eq_ok]
  constructor
  · rintro ⟨evidence, hall, hperm⟩
    refine ⟨evidence, hall, ?_⟩
    rw [foldlM_perm EvidenceSlots.put_comm hperm]
    rfl
  · rintro ⟨evidence, hall, hfold⟩
    refine ⟨evidence, hall, ?_⟩
    have hheld := foldlM_put_held hfold
    rw [show EvidenceSlots.start.held = [] from rfl, List.append_nil] at hheld
    exact hheld.symm

/-- A corpus says only one thing of each kind. -/
theorem Gathers.unique {target' : TargetBriefDocument} {donors' : DonorEvidenceDocument}
    {topologies' : TopologyOptionsDocument} {constraints' : ConstraintsDocument}
    (h : Gathers tools documents target donors topologies constraints)
    (h' : Gathers tools documents target' donors' topologies' constraints') :
    target = target' ∧ donors = donors' ∧ topologies = topologies' ∧
      constraints = constraints' := by
  have heq := (gathers_iff.mp h).symm.trans (gathers_iff.mp h')
  simpa using heq

/-! ## The analysis -/

/-- What an analysis has found out before it freezes its draft. -/
structure Analyzes (tools : FraaTools) (input : ReuseReconnaissanceInput)
    (corpusAggregateSha256 : String) (documents : List CorpusDocument)
    (target : TargetBriefDocument) (donors : DonorEvidenceDocument)
    (topologies : TopologyOptionsDocument) (constraints : ConstraintsDocument)
    (selected : TopologyOptionRecord) : Prop where
  authority : AuthorityDenied input
  aggregate : corpusAggregateSha256 = input.expectedCorpusAggregateSha256
  gathered : Gathers tools documents target donors topologies constraints
  application : target.application = input.targetApplication
  posture : target.repositoryPosture = repositoryPostureLabel input.targetRepositoryPosture
  selected : selectTopology target topologies.options = .ok selected

theorem analyze_iff {input : ReuseReconnaissanceInput} {corpusAggregateSha256 : String}
    {result : ReuseReconnaissanceResult} :
    analyze tools input corpusAggregateSha256 documents = .ok result ↔
      ∃ target donors topologies constraints selected,
        Analyzes tools input corpusAggregateSha256 documents target donors topologies constraints
          selected ∧
        (draftResult input corpusAggregateSha256 target donors topologies constraints
          selected).freeze tools = .ok result := by
  rw [analyze, seq_eq_ok, seq_eq_ok, require_eq_ok, beq_iff_eq, validateAuthorityBoundary_eq_ok]
  simp only [bind_eq_ok, requireDocument_eq_ok]
  constructor
  · rintro ⟨hauthority, haggregate, ⟨_, _, _, _⟩, hslots, target, rfl, donors, rfl, topologies,
      rfl, constraints, rfl, ⟨⟩, hbinding, selected, hselected, hfreeze⟩
    rw [require_eq_ok, Bool.and_eq_true, beq_iff_eq, beq_iff_eq] at hbinding
    exact ⟨target, donors, topologies, constraints, selected,
      ⟨hauthority, haggregate, gathers_iff.mpr hslots, hbinding.1, hbinding.2, hselected⟩,
      hfreeze⟩
  · rintro ⟨target, donors, topologies, constraints, selected, h, hfreeze⟩
    exact ⟨h.authority, h.aggregate, _, gathers_iff.mp h.gathered, target, rfl, donors, rfl,
      topologies, rfl, constraints, rfl, (), by simp [h.application, h.posture], selected,
      h.selected, hfreeze⟩

end

end FaLocal
