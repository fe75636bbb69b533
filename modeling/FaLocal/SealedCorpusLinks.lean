import FaLocal.SealedCorpusReceipt

/-!
# Links in a sealed corpus

Only the last component of a member's path may not be a link. A link to a directory can lead
to hidden oracle material, and two paths can lead to one file: when exactly that happens.
-/
namespace FaLocal

open FileTree SealedCorpusReadAdapter

/-! ## Oracle material -/

/-- A document that was read from a file under the root, with no oracle component below the
root. -/
def CandidateVisible (fs : FileSystem) (root : List FileName) (document : CorpusDocument) :
    Prop :=
  ∃ place, ReadFrom fs root document place ∧ root <+: place ∧
    ∀ name ∈ place.drop root.length, isOracle name = false

/-- The last link that the path crosses does not lead into oracle material. -/
def LinksClear (fs : FileSystem) (root : List FileName) (path : PathText) : Prop :=
  ∀ place crossed, fs.tree.Leads root ((writtenNames path).map .name) place crossed →
    ∀ directory ∈ crossed.getLast?, ∀ name ∈ directory.drop root.length, isOracle name = false

section
variable {fs : FileSystem} {tools : SealedCorpusTools} {root place place' : List FileName}
  {member member' : SealedCorpusMember} {document document' : CorpusDocument}

theorem SealedCorpusReadAdapter.ReadFrom.place_eq (h : ReadFrom fs root document place)
    (h' : ReadFrom fs root document place') : place = place' := by
  have heq := h.canonical.symm.trans h'.canonical
  exact Except.ok.inj heq

/-- The names of a member's path lead to its place. -/
theorem SealedCorpusReadAdapter.Confined.leads_names {path : PathText}
    (h : Confined fs root path place) :
    ∃ crossed, fs.tree.Leads root ((writtenNames path).map .name) place crossed := by
  obtain ⟨front, n, directory, crossed, hnames, hleads, rfl⟩ := h.leads
  obtain ⟨content, hfile⟩ := h.file
  rw [hnames, List.map_append]
  exact ⟨_, hleads.append (.name hfile rfl (.done _))⟩

theorem visible_iff (h : ReadAs fs tools root member place document) :
    CandidateVisible fs root document ↔ LinksClear fs root (Utf8.bytes member.path.toList) := by
  obtain ⟨crossed, hleads⟩ := h.confined.leads_names
  obtain ⟨front, back, hnames, hplace, -⟩ := hleads.last
  constructor
  · rintro ⟨place', hread, -, hclear⟩ place'' crossed' hleads' directory hdirectory name hname
    obtain ⟨rfl, rfl⟩ := hleads'.unique hleads
    obtain rfl := hread.place_eq h.readFrom
    rw [Option.mem_def] at hdirectory
    rw [hplace, hdirectory, Option.getD_some, List.drop_append] at hclear
    exact hclear name (List.mem_append_left _ hname)
  · intro hclear
    refine ⟨place, h.readFrom, h.confined.under, ?_⟩
    intro name hname
    have hwritten : name ∈ back → isOracle name = false := by
      intro hback
      exact h.visible name (by rw [hnames]; exact List.mem_append_right _ hback)
    rw [hplace, List.drop_append, List.mem_append] at hname
    rcases hname with hcrossed | hback
    · cases hlast : crossed.getLast? with
      | none =>
        rw [hlast, Option.getD_none, List.drop_length] at hcrossed
        cases hcrossed
      | some directory =>
        rw [hlast, Option.getD_some] at hcrossed
        exact hclear place crossed hleads directory hlast name hcrossed
    · exact hwritten (List.mem_of_mem_drop hback)

end

/-- The documents of a receipt come from visible files exactly when no member's path crosses a
link, as the last one, that leads into oracle material. -/
theorem candidate_visible_iff {fs : FileSystem} {tools : SealedCorpusTools}
    {request : SealedCorpusReadRequest} {receipt : SealedCorpusReadReceipt}
    (h : readCandidateVisible fs tools request = .ok receipt) :
    ∃ root manifest, loadManifest fs tools request = .ok (root, manifest) ∧
      ((∀ document ∈ receipt.documents, CandidateVisible fs root document) ↔
        ∀ member ∈ manifest.members, LinksClear fs root (Utf8.bytes member.path.toList)) := by
  obtain ⟨root, manifest, hload, -, hreceipt⟩ := readCandidateVisible_receiptOf h
  refine ⟨root, manifest, hload, ?_⟩
  constructor
  · intro hvisible member hmember
    obtain ⟨document, hdocument, place, hread⟩ := hreceipt.document_of_mem hmember
    exact (visible_iff hread).mp (hvisible document hdocument)
  · intro hclear document hdocument
    obtain ⟨member, hmember, place, hread⟩ := hreceipt.read_of_mem hdocument
    exact (visible_iff hread).mpr (hclear member hmember)

namespace Fixture

/-- Both spellings lead through the link to the answer of the oracle. -/
theorem linked_place : ∀ document ∈ linkedReceipt.documents,
    linkedFiles.canonicalize
      (joinPath [fileName "corpus"] (Utf8.bytes document.relativePath.toList)) =
        .ok [fileName "corpus", fileName "oracle", fileName "answer.json"] := by
  decide +kernel

theorem linked_readFrom : ∀ document ∈ linkedReceipt.documents,
    ReadFrom linkedFiles [fileName "corpus"] document
      [fileName "corpus", fileName "oracle", fileName "answer.json"] := by
  intro document hdocument
  refine ⟨linked_place document hdocument, answerContent, rfl, ?_⟩
  simp only [linkedReceipt, List.mem_cons, List.not_mem_nil, or_false] at hdocument
  rcases hdocument with rfl | rfl
  · rfl
  · rfl

end Fixture

open Fixture in
theorem candidate_visible_iff_linked : ∃ root manifest,
    loadManifest linkedFiles linkedTools linkedRequest = .ok (root, manifest) ∧
      ((∀ document ∈ linkedReceipt.documents, CandidateVisible linkedFiles root document) ↔
        ∀ member ∈ manifest.members,
          LinksClear linkedFiles root (Utf8.bytes member.path.toList)) :=
  candidate_visible_iff linked_read

open Fixture in
/-- The answer of the oracle is in the receipt. -/
theorem oracle_exposed :
    readCandidateVisible linkedFiles linkedTools linkedRequest = .ok linkedReceipt ∧
      loadManifest linkedFiles linkedTools linkedRequest =
        .ok ([fileName "corpus"], linkedManifest) ∧
      ∃ document ∈ linkedReceipt.documents,
        ¬ CandidateVisible linkedFiles [fileName "corpus"] document := by
  refine ⟨linked_read, linkedFiles_loaded linkedTools_linked, answerDocument "notes/answer.json", ?_, ?_⟩
  · exact List.mem_cons_of_mem _ List.mem_cons_self
  · rintro ⟨place, hread, -, hclear⟩
    have hplace : place = [fileName "corpus", fileName "oracle", fileName "answer.json"] :=
      hread.place_eq (linked_readFrom _ (List.mem_cons_of_mem _ List.mem_cons_self))
    have horacle : isOracle (fileName "oracle") = true := by decide +kernel
    have hname := hclear (fileName "oracle") (by rw [hplace]; exact List.mem_cons_self)
    rw [horacle] at hname
    cases hname

/-! ## One file under two paths -/

/-- Two paths name one file: they differ only in what stands still, or they have the same last
name and one of them crosses links to the directory of the other. -/
inductive SameFile (fs : FileSystem) (root : List FileName) (path path' : PathText) : Prop where
  | spelled (names : writtenNames path = writtenNames path') : SameFile fs root path path'
  | linked {front front' : List FileName} {n : FileName} {directory : List FileName}
      {crossed crossed' : List (List FileName)} (names : writtenNames path = front ++ [n])
      (names' : writtenNames path' = front' ++ [n])
      (leads : fs.tree.Leads root (front.map .name) directory crossed)
      (leads' : fs.tree.Leads root (front'.map .name) directory crossed')
      (links : crossed ≠ [] ∨ crossed' ≠ []) : SameFile fs root path path'

section
variable {fs : FileSystem} {tools : SealedCorpusTools} {root place place' : List FileName}
  {member member' : SealedCorpusMember} {document document' : CorpusDocument}

theorem sameFile_iff {path path' : PathText} (h : Confined fs root path place)
    (h' : Confined fs root path' place') : SameFile fs root path path' ↔ place = place' := by
  obtain ⟨front, n, directory, crossed, hnames, hleads, rfl⟩ := h.leads
  obtain ⟨front', n', directory', crossed', hnames', hleads', rfl⟩ := h'.leads
  constructor
  · intro hsame
    cases hsame with
    | spelled heq =>
      rw [hnames, hnames'] at heq
      obtain ⟨rfl, hn⟩ := List.append_inj' heq rfl
      obtain ⟨rfl, -⟩ := hleads.unique hleads'
      rw [hn]
    | linked hn hn' hl hl' _ =>
      rw [hnames] at hn
      rw [hnames'] at hn'
      obtain ⟨rfl, hlast⟩ := List.append_inj' hn rfl
      obtain ⟨rfl, hlast'⟩ := List.append_inj' hn' rfl
      rw [(hleads.unique hl).1, (hleads'.unique hl').1, hlast, hlast']
  · intro heq
    obtain ⟨rfl, hn⟩ := List.append_inj' heq rfl
    cases hn
    by_cases hlinks : crossed = [] ∧ crossed' = []
    · obtain ⟨rfl, rfl⟩ := hlinks
      have hfront := hleads.unlinked.symm.trans hleads'.unlinked
      refine .spelled ?_
      rw [hnames, hnames', List.append_cancel_left hfront]
    · refine .linked hnames hnames' hleads hleads' ?_
      exact not_and_or.mp hlinks

/-- Related lists are pairwise alike. -/
theorem pairwise_iff_of_forall₂ {α β : Type} {R : α → β → Prop} {P : α → α → Prop}
    {Q : β → β → Prop} (hpq : ∀ a a' b b', R a b → R a' b' → (P a a' ↔ Q b b')) {l : List α}
    {m : List β} (h : List.Forall₂ R l m) : l.Pairwise P ↔ m.Pairwise Q := by
  induction h with
  | nil => simp
  | @cons a b l m hr hall ih =>
    have hhead : (∀ a' ∈ l, P a a') ↔ ∀ b' ∈ m, Q b b' := by
      clear ih
      induction hall with
      | nil => simp
      | cons hr' _ ih => rw [List.forall_mem_cons, List.forall_mem_cons, hpq _ _ _ _ hr hr', ih]
    rw [List.pairwise_cons, List.pairwise_cons, hhead, ih]

theorem SameFile.symm {path path' : PathText} (h : SameFile fs root path path') :
    SameFile fs root path' path := by
  cases h with
  | spelled heq => exact .spelled heq.symm
  | linked hn hn' hl hl' hlinks => exact .linked hn' hn hl' hl hlinks.symm

end

/-- The documents of a receipt come from different files exactly when no two members name one
file. -/
theorem distinct_files_iff {fs : FileSystem} {tools : SealedCorpusTools}
    {request : SealedCorpusReadRequest} {receipt : SealedCorpusReadReceipt}
    (h : readCandidateVisible fs tools request = .ok receipt) :
    ∃ root manifest, loadManifest fs tools request = .ok (root, manifest) ∧
      (receipt.documents.Pairwise (fun document document' =>
          ∀ place, ReadFrom fs root document place → ¬ ReadFrom fs root document' place) ↔
        manifest.members.Pairwise fun member member' =>
          ¬ SameFile fs root (Utf8.bytes member.path.toList) (Utf8.bytes member'.path.toList)) := by
  obtain ⟨root, manifest, hload, -, hreceipt⟩ := readCandidateVisible_receiptOf h
  refine ⟨root, manifest, hload, ?_⟩
  have hperm := List.perm_insertionSort Before manifest.members
  rw [← hperm.pairwise_iff fun hne hsame => hne hsame.symm]
  refine (pairwise_iff_of_forall₂ ?_ hreceipt.read).symm
  rintro member member' document document' ⟨place, hread⟩ ⟨place', hread'⟩
  rw [sameFile_iff hread.confined hread'.confined]
  constructor
  · intro hne found hfound hfound'
    rw [hfound.place_eq hread.readFrom] at hfound'
    exact hne (hfound'.place_eq hread'.readFrom)
  · rintro hall rfl
    exact hall place hread.readFrom hread'.readFrom

open Fixture in
theorem distinct_files_iff_linked : ∃ root manifest,
    loadManifest linkedFiles linkedTools linkedRequest = .ok (root, manifest) ∧
      (linkedReceipt.documents.Pairwise (fun document document' =>
          ∀ place, ReadFrom linkedFiles root document place →
            ¬ ReadFrom linkedFiles root document' place) ↔
        manifest.members.Pairwise fun member member' =>
          ¬ SameFile linkedFiles root (Utf8.bytes member.path.toList)
            (Utf8.bytes member'.path.toList)) :=
  distinct_files_iff linked_read

open Fixture in
/-- One file satisfies both entries of the manifest. -/
theorem answer_counted_twice :
    readCandidateVisible linkedFiles linkedTools linkedRequest = .ok linkedReceipt ∧
      loadManifest linkedFiles linkedTools linkedRequest =
        .ok ([fileName "corpus"], linkedManifest) ∧
      ¬ linkedReceipt.documents.Pairwise fun document document' =>
        ∀ place, ReadFrom linkedFiles [fileName "corpus"] document place →
          ¬ ReadFrom linkedFiles [fileName "corpus"] document' place := by
  refine ⟨linked_read, linkedFiles_loaded linkedTools_linked, ?_⟩
  intro hpairwise
  have hdistinct := List.rel_of_pairwise_cons hpairwise List.mem_cons_self
  refine hdistinct _ (linked_readFrom _ List.mem_cons_self) ?_
  exact linked_readFrom _ (List.mem_cons_of_mem _ List.mem_cons_self)

end FaLocal
