import FaLocal.Library.Delimited
import FaLocal.Library.StableSort
import FaLocal.ReconnaissanceEvidence
import FaLocal.SealedCorpusPlaces

/-!
# The receipt of a sealed corpus

What the loop over the members has checked when it returns, and what the receipt says of the
manifest: the same members in the order of their paths, their exact count and size, and an
aggregate whose preimage determines them.
-/
namespace FaLocal

open FileTree

namespace SealedCorpusReadAdapter

/-! ## The loop over the members -/

/-- A member was read from a place, as a document. -/
structure ReadAs (fs : FileSystem) (tools : SealedCorpusTools) (root : List FileName)
    (member : SealedCorpusMember) (place : List FileName) (document : CorpusDocument) :
    Prop where
  path : document.relativePath = member.path
  sha256 : document.sha256 = member.sha256
  sizeBytes : document.sizeBytes = member.sizeBytes
  written : Written (Utf8.bytes member.path.toList)
  visible : ∀ name ∈ writtenNames (Utf8.bytes member.path.toList), isOracle name = false
  confined : Confined fs root (Utf8.bytes member.path.toList) place
  canonical : fs.canonicalize (joinPath root (Utf8.bytes member.path.toList)) = .ok place
  content : ∃ content, fs.tree.node place = some (.file content) ∧
    content.len = member.sizeBytes ∧ sha256Hex tools content.bytes = member.sha256 ∧
    String.fromUTF8? content.bytes = some document.content
  small : member.sizeBytes ≤ maxMemberBytes

/-- What an admitted member adds to the loop. -/
def Progress.add (progress : Progress) (document : CorpusDocument) : Progress where
  seen := document.relativePath :: progress.seen
  documents := progress.documents ++ [document]
  totalBytes := progress.totalBytes + document.sizeBytes
  aggregatePreimage := progress.aggregatePreimage ++
    memberPreimage document.relativePath document.sha256 document.sizeBytes

section
variable {fs : FileSystem} {tools : SealedCorpusTools} {root : List FileName}
  {maxTotalBytes : UInt64} {progress progress' : Progress} {member : SealedCorpusMember}
  {members : List SealedCorpusMember}

theorem confinedRegularFile_canonical {path : PathText} {place : List FileName}
    (h : confinedRegularFile fs root path = .ok place) :
    fs.canonicalize (joinPath root path) = .ok place := by
  simp only [confinedRegularFile, bind_eq_ok, loaded_eq_ok] at h
  obtain ⟨-, -, -, -, canonical, hcanonical, -, -, ⟨⟩⟩ := h
  exact hcanonical

theorem checkedAdd_eq_some {total len sum : UInt64} : checkedAdd total len = some sum ↔
    total.toNat + len.toNat < 2 ^ 64 ∧ sum = total + len := by
  rw [checkedAdd, Option.ite_none_right_eq_some, Option.some.injEq]
  exact and_congr_right fun _ => eq_comm

/-- A member that is let through was read from a file under the root, and its size and digest
are those of the content. -/
theorem readMember_admits (hroot : fs.tree.Stands root)
    (h : readMember fs tools root maxTotalBytes progress member = .ok progress') :
    ∃ place document, ReadAs fs tools root member place document ∧
      progress' = progress.add document ∧ member.path ∉ progress.seen ∧
      progress.totalBytes.toNat + document.sizeBytes.toNat < 2 ^ 64 ∧
      progress'.totalBytes ≤ maxTotalBytes := by
  simp only [readMember, bind_eq_ok] at h
  obtain ⟨_, hseen, relative, hrelative, _, horacle, place, hconfined, node, hnode, _, hsize,
    h⟩ := h
  rw [require_eq_ok] at hseen hsize
  obtain ⟨rfl, hwritten⟩ := validateRelativePath_eq_ok hrelative
  have hplace := confinedRegularFile_confined hroot hwritten hconfined
  obtain ⟨content, hcontent⟩ := hplace.file
  have hstands : fs.tree.Stands place := ⟨_, hcontent, rfl⟩
  have hat := FileSystem.metadata_canonical hstands (loaded_eq_ok.mp hnode)
  rw [hcontent] at hat
  cases hat
  simp only [FileSystem.nodeLen, Bool.not_eq_true', Bool.or_eq_false_iff,
    bne_eq_false_iff_eq] at hsize
  obtain ⟨hlen, hsmall⟩ := hsize
  have hmost : member.sizeBytes ≤ maxMemberBytes :=
    hlen ▸ UInt64.not_lt.mp (of_decide_eq_false hsmall)
  split at h
  · cases h
  · rename_i total htotal
    obtain ⟨hfits, rfl⟩ := checkedAdd_eq_some.mp htotal
    simp only [bind_eq_ok] at h
    obtain ⟨_, hmax, bytes, hbytes, _, hsha, h⟩ := h
    rw [require_eq_ok] at hmax hsha
    obtain ⟨content', hcontent', rfl⟩ := FileSystem.read_canonical hstands (loaded_eq_ok.mp hbytes)
    rw [hcontent] at hcontent'
    cases hcontent'
    split at h
    · cases h
    · rename_i text htext
      cases h
      refine ⟨place, ⟨member.path, member.sha256, member.sizeBytes, text⟩, ?_, ?_, ?_, ?_, ?_⟩
      · exact ⟨rfl, rfl, rfl, hwritten, (rejectOracleComponent_eq_ok hwritten).mp horacle, hplace,
          confinedRegularFile_canonical hconfined,
          ⟨content, hcontent, hlen, eq_of_beq hsha, htext⟩, hmost⟩
      · rw [Progress.add, ← hlen]
        rfl
      · simpa using hseen
      · rw [← hlen]
        exact hfits
      · exact of_decide_eq_true hmax

/-- The preimage of the aggregate. -/
def aggregatePreimage (documents : List CorpusDocument) : List UInt8 :=
  documents.flatMap fun document =>
    memberPreimage document.relativePath document.sha256 document.sizeBytes

/-- What the loop has added when it has read these members. -/
structure Gathered (fs : FileSystem) (tools : SealedCorpusTools) (root : List FileName)
    (maxTotalBytes : UInt64) (members : List SealedCorpusMember) (documents : List CorpusDocument)
    (progress progress' : Progress) : Prop where
  read : List.Forall₂ (fun member document => ∃ place, ReadAs fs tools root member place document)
    members documents
  distinct : (members.map (·.path)).Nodup
  new : ∀ member ∈ members, member.path ∉ progress.seen
  kept : progress'.documents = progress.documents ++ documents
  total : progress'.totalBytes.toNat =
    progress.totalBytes.toNat + (documents.map (·.sizeBytes.toNat)).sum
  within : progress.totalBytes ≤ maxTotalBytes → progress'.totalBytes ≤ maxTotalBytes
  preimage : progress'.aggregatePreimage =
    progress.aggregatePreimage ++ aggregatePreimage documents

theorem foldlM_readMember (hroot : fs.tree.Stands root)
    (h : members.foldlM (readMember fs tools root maxTotalBytes) progress = .ok progress') :
    ∃ documents, Gathered fs tools root maxTotalBytes members documents progress progress' := by
  induction members generalizing progress with
  | nil =>
    cases h
    exact ⟨[], .nil, List.nodup_nil, by simp, by simp, by simp, id, by simp [aggregatePreimage]⟩
  | cons member members ih =>
    rw [List.foldlM_cons, bind_eq_ok] at h
    obtain ⟨mid, hmember, h⟩ := h
    obtain ⟨place, document, hread, rfl, hnew, hfits, hmax⟩ := readMember_admits hroot hmember
    obtain ⟨documents, hrest⟩ := ih h
    have hseen : ∀ other ∈ members, other.path ≠ member.path ∧ other.path ∉ progress.seen := by
      intro other hother
      have hnot := hrest.new other hother
      rw [Progress.add, hread.path, List.mem_cons, not_or] at hnot
      exact hnot
    refine ⟨document :: documents, .cons ⟨place, hread⟩ hrest.read, ?_, ?_, ?_, ?_, ?_, ?_⟩
    · rw [List.map_cons, List.nodup_cons]
      refine ⟨?_, hrest.distinct⟩
      intro hmem
      obtain ⟨other, hother, heq⟩ := List.mem_map.mp hmem
      exact (hseen other hother).1 heq
    · rintro other (_ | ⟨_, hother⟩)
      · exact hnew
      · exact (hseen other hother).2
    · rw [hrest.kept, Progress.add, List.append_assoc, List.singleton_append]
    · rw [hrest.total, Progress.add, UInt64.toNat_add, Nat.mod_eq_of_lt hfits, List.map_cons,
        List.sum_cons, Nat.add_assoc]
    · intro _
      exact hrest.within hmax
    · rw [hrest.preimage, Progress.add, List.append_assoc]
      rfl

/-! ## The receipt -/

/-- What a receipt says of the manifest. -/
structure ReceiptOf (fs : FileSystem) (tools : SealedCorpusTools) (root : List FileName)
    (maxTotalBytes : UInt64) (manifest : SealedCorpusManifest)
    (receipt : SealedCorpusReadReceipt) : Prop where
  corpusId : receipt.corpusId = manifest.corpusId
  nonempty : manifest.members ≠ []
  atMost : manifest.members.length ≤ maxMemberCount
  read : List.Forall₂ (fun member document => ∃ place, ReadAs fs tools root member place document)
    (manifest.members.insertionSort Before) receipt.documents
  distinct : (manifest.members.map (·.path)).Nodup
  memberCount : receipt.memberCount = receipt.documents.length
  total : receipt.totalBytes.toNat = (receipt.documents.map (·.sizeBytes.toNat)).sum
  within : receipt.totalBytes ≤ maxTotalBytes
  aggregate : receipt.aggregateSha256 =
    sha256Hex tools (aggregatePreimage receipt.documents).toByteArray

variable {manifest : SealedCorpusManifest} {receipt : SealedCorpusReadReceipt}

theorem readManifest_receiptOf (hroot : fs.tree.Stands root)
    (h : readManifest fs tools root maxTotalBytes manifest = .ok receipt) :
    ReceiptOf fs tools root maxTotalBytes manifest receipt := by
  rw [readManifest, seq_eq_ok, seq_eq_ok, require_eq_ok, require_eq_ok, bind_eq_ok] at h
  obtain ⟨-, hcount, progress, hloop, ⟨⟩⟩ := h
  simp only [Bool.not_eq_true', Bool.or_eq_false_iff, List.isEmpty_eq_false_iff] at hcount
  obtain ⟨hnonempty, hatMost⟩ := hcount
  obtain ⟨documents, hgathered⟩ := foldlM_readMember hroot hloop
  have hdocuments : progress.documents = documents := by
    rw [hgathered.kept, Progress.start, List.nil_append]
  have hperm := (List.perm_insertionSort Before manifest.members).map (·.path)
  exact {
    corpusId := rfl
    nonempty := hnonempty
    atMost := Nat.not_lt.mp (of_decide_eq_false hatMost)
    read := hdocuments ▸ hgathered.read
    distinct := hperm.nodup_iff.mp hgathered.distinct
    memberCount := rfl
    total := by
      rw [hgathered.total, hdocuments]
      exact Nat.zero_add _
    within := hgathered.within UInt64.zero_le
    aggregate := by
      rw [hgathered.preimage, hdocuments]
      rfl }

theorem loadManifest_root {request : SealedCorpusReadRequest}
    (h : loadManifest fs tools request = .ok (root, manifest)) : fs.tree.Stands root := by
  rw [loadManifest, bind_eq_ok] at h
  obtain ⟨found, hfound, h⟩ := h
  simp only [bind_eq_ok] at h
  obtain ⟨-, -, -, -, -, -, -, -, ⟨⟩⟩ := h
  exact canonicalDirectory_stands hfound

theorem readCandidateVisible_receiptOf {request : SealedCorpusReadRequest}
    (h : readCandidateVisible fs tools request = .ok receipt) :
    ∃ root manifest, loadManifest fs tools request = .ok (root, manifest) ∧
      fs.tree.Stands root ∧ ReceiptOf fs tools root request.maxTotalBytes manifest receipt := by
  obtain ⟨⟨root, manifest⟩, hload, hread⟩ := bind_eq_ok.mp h
  have hroot := loadManifest_root hload
  exact ⟨root, manifest, hload, hroot, readManifest_receiptOf hroot hread⟩

end

end SealedCorpusReadAdapter

/-! ## Documents and members -/

/-- What the aggregate is made of. -/
def CorpusDocument.entry (document : CorpusDocument) : String × String × UInt64 :=
  (document.relativePath, document.sha256, document.sizeBytes)

def SealedCorpusMember.entry (member : SealedCorpusMember) : String × String × UInt64 :=
  (member.path, member.sha256, member.sizeBytes)

namespace SealedCorpusReadAdapter

section
variable {fs : FileSystem} {tools : SealedCorpusTools} {root : List FileName}
  {maxTotalBytes : UInt64} {manifest manifest' : SealedCorpusManifest}
  {receipt : SealedCorpusReadReceipt} {member : SealedCorpusMember} {document : CorpusDocument}

instance : Std.Total Before where
  total left right := le_total left.path right.path

instance : IsTrans SealedCorpusMember Before where
  trans _ _ _ := le_trans

theorem ReadAs.entry {place : List FileName} (h : ReadAs fs tools root member place document) :
    document.entry = member.entry := by
  rw [CorpusDocument.entry, SealedCorpusMember.entry, h.path, h.sha256, h.sizeBytes]

/-- The documents are the members in the order of their paths. -/
theorem ReceiptOf.entries (h : ReceiptOf fs tools root maxTotalBytes manifest receipt) :
    receipt.documents.map (·.entry) = (manifest.members.insertionSort Before).map (·.entry) := by
  rw [← List.forall₂_eq_eq_eq, List.forall₂_map_left_iff, List.forall₂_map_right_iff]
  refine List.Forall₂.flip (h.read.imp ?_)
  rintro member document ⟨place, hread⟩
  exact hread.entry

theorem ReceiptOf.perm (h : ReceiptOf fs tools root maxTotalBytes manifest receipt) :
    (receipt.documents.map (·.entry)).Perm (manifest.members.map (·.entry)) := by
  rw [h.entries]
  exact (List.perm_insertionSort Before manifest.members).map _

theorem ReceiptOf.paths (h : ReceiptOf fs tools root maxTotalBytes manifest receipt) :
    receipt.documents.map (·.relativePath) =
      (manifest.members.insertionSort Before).map (·.path) := by
  have hpaths := congrArg (List.map Prod.fst) h.entries
  rwa [List.map_map, List.map_map] at hpaths

theorem ReceiptOf.sorted (h : ReceiptOf fs tools root maxTotalBytes manifest receipt) :
    receipt.documents.Pairwise (·.relativePath < ·.relativePath) := by
  have hle : (receipt.documents.map (·.relativePath)).Pairwise (· ≤ ·) := by
    rw [h.paths]
    exact List.pairwise_map.mpr (List.pairwise_insertionSort Before _)
  have hne : (receipt.documents.map (·.relativePath)).Pairwise (· ≠ ·) := by
    rw [h.paths]
    exact ((List.perm_insertionSort Before manifest.members).map _).nodup_iff.mpr h.distinct
  exact List.pairwise_map.mp ((hle.and hne).imp fun hlt => lt_of_le_of_ne hlt.1 hlt.2)

theorem ReceiptOf.length_eq (h : ReceiptOf fs tools root maxTotalBytes manifest receipt) :
    receipt.documents.length = manifest.members.length := by
  have hlength := h.perm.length_eq
  rwa [List.length_map, List.length_map] at hlength

/-- Every document was read from a place, as a member. -/
theorem ReceiptOf.read_of_mem (h : ReceiptOf fs tools root maxTotalBytes manifest receipt)
    (hdocument : document ∈ receipt.documents) :
    ∃ member ∈ manifest.members, ∃ place, ReadAs fs tools root member place document := by
  obtain ⟨member, hmember, hread⟩ := exists_mem_of_forall₂ h.read hdocument
  exact ⟨member, (List.mem_insertionSort _).mp hmember, hread⟩

/-- Every member was read from a place, as a document. -/
theorem ReceiptOf.document_of_mem (h : ReceiptOf fs tools root maxTotalBytes manifest receipt)
    (hmember : member ∈ manifest.members) :
    ∃ document ∈ receipt.documents, ∃ place, ReadAs fs tools root member place document :=
  exists_mem_of_forall₂ h.read.flip ((List.mem_insertionSort _).mpr hmember)

/-! ## Permuted members -/

/-- A manifest with its members in another order. -/
def Rearranged (manifest manifest' : SealedCorpusManifest) : Prop :=
  ∃ members, manifest.members.Perm members ∧ manifest' = { manifest with members := members }

theorem readManifest_rearranged (hdistinct : (manifest.members.map (·.path)).Nodup)
    (h : Rearranged manifest manifest') :
    readManifest fs tools root maxTotalBytes manifest' =
      readManifest fs tools root maxTotalBytes manifest := by
  obtain ⟨members, hperm, rfl⟩ := h
  have hsorted : manifest.members.insertionSort Before = members.insertionSort Before := by
    refine StableSort.insertionSort_eq_of_perm hperm ?_
    intro a ha b hb hab hba
    exact List.inj_on_of_nodup_map hdistinct ha hb (le_antisymm hab hba)
  have hempty : members.isEmpty = manifest.members.isEmpty := by
    rw [Bool.eq_iff_iff, List.isEmpty_iff, List.isEmpty_iff]
    exact ⟨fun he => (he ▸ hperm).eq_nil, fun he => (he ▸ hperm).nil_eq.symm⟩
  simp only [readManifest, ← hsorted, hempty, ← hperm.length_eq]

/-! ## Another text of the manifest -/

section
variable {fs' : FileSystem} {changed found : List FileName} {path : PathText}
  {progress progress' : Progress} {members : List SealedCorpusMember}

theorem canonicalDirectory_same (hsame : fs.SameBut fs' changed)
    (h : canonicalDirectory fs path = .ok found) : canonicalDirectory fs' path = .ok found := by
  simp only [canonicalDirectory, bind_eq_ok, loaded_eq_ok] at h ⊢
  obtain ⟨node, hnode, _, hkind, hcanonical⟩ := h
  obtain ⟨node', hnode', hshape⟩ := hsame.symlinkMetadata_ok hnode
  obtain ⟨hlink, hdir, -⟩ := isFile_of_shape hshape
  exact ⟨node', hnode', (), by rw [hlink, hdir]; exact hkind,
    (hsame.canonicalize_eq _).trans hcanonical⟩

theorem confinedRegularFile_same (hsame : fs.SameBut fs' changed)
    (h : confinedRegularFile fs root path = .ok found) :
    confinedRegularFile fs' root path = .ok found := by
  simp only [confinedRegularFile, bind_eq_ok, loaded_eq_ok] at h ⊢
  obtain ⟨node, hnode, _, hkind, canonical, hcanonical, hunder⟩ := h
  obtain ⟨node', hnode', hshape⟩ := hsame.symlinkMetadata_ok hnode
  obtain ⟨hlink, -, hfile⟩ := isFile_of_shape hshape
  exact ⟨node', hnode', (), by rw [hlink, hfile]; exact hkind, canonical,
    (hsame.canonicalize_eq _).trans hcanonical, hunder⟩

/-- A member that does not lie at the changed place is read as before. -/
theorem readMember_same (hsame : fs.SameBut fs' changed)
    (helsewhere : fs.canonicalize (joinPath root (Utf8.bytes member.path.toList)) ≠ .ok changed)
    (h : readMember fs tools root maxTotalBytes progress member = .ok progress') :
    readMember fs' tools root maxTotalBytes progress member = .ok progress' := by
  simp only [readMember, bind_eq_ok] at h
  obtain ⟨_, hseen, relative, hrelative, _, horacle, place, hconfined, node, hnode, _, hsize,
    hrest⟩ := h
  have hcanonical := confinedRegularFile_canonical hconfined
  rw [(validateRelativePath_eq_ok hrelative).1] at hcanonical
  have hne : place ≠ changed := by
    rintro rfl
    exact helsewhere hcanonical
  have hmetadata := hsame.metadata_eq (FileSystem.canonicalize_leads hcanonical).2 hne
  have hread : fs'.read (canonicalRoute place) = fs.read (canonicalRoute place) := by
    rw [FileSystem.read, FileSystem.read, hmetadata]
  rw [readMember, bind_eq_ok]
  refine ⟨_, hseen, bind_eq_ok.mpr ⟨relative, hrelative, bind_eq_ok.mpr ⟨_, horacle, ?_⟩⟩⟩
  refine bind_eq_ok.mpr ⟨place, confinedRegularFile_same hsame hconfined, ?_⟩
  rw [hmetadata, hread, hsame.nodeLen_eq]
  exact bind_eq_ok.mpr ⟨node, hnode, bind_eq_ok.mpr ⟨_, hsize, hrest⟩⟩

theorem foldlM_readMember_same (hsame : fs.SameBut fs' changed)
    (helsewhere : ∀ member ∈ members,
      fs.canonicalize (joinPath root (Utf8.bytes member.path.toList)) ≠ .ok changed)
    (h : members.foldlM (readMember fs tools root maxTotalBytes) progress = .ok progress') :
    members.foldlM (readMember fs' tools root maxTotalBytes) progress = .ok progress' := by
  induction members generalizing progress with
  | nil => exact h
  | cons member members ih =>
    rw [List.foldlM_cons, bind_eq_ok] at h
    obtain ⟨mid, hmember, h⟩ := h
    obtain ⟨hfirst, hothers⟩ := List.forall_mem_cons.mp helsewhere
    rw [List.foldlM_cons, bind_eq_ok]
    exact ⟨mid, readMember_same hsame hfirst hmember, ih hothers h⟩

theorem readManifest_same (hsame : fs.SameBut fs' changed)
    (helsewhere : ∀ member ∈ manifest.members,
      fs.canonicalize (joinPath root (Utf8.bytes member.path.toList)) ≠ .ok changed)
    (h : readManifest fs tools root maxTotalBytes manifest = .ok receipt) :
    readManifest fs' tools root maxTotalBytes manifest = .ok receipt := by
  rw [readManifest, seq_eq_ok, seq_eq_ok, bind_eq_ok] at h ⊢
  obtain ⟨hidentity, hcount, progress, hloop, hreceipt⟩ := h
  refine ⟨hidentity, hcount, progress, ?_, hreceipt⟩
  refine foldlM_readMember_same hsame ?_ hloop
  intro member hmember
  exact helsewhere member ((List.mem_insertionSort _).mp hmember)

end

/-! ## The preimage -/

/-- A text without the character that separates the parts of the preimage. -/
def NulFree (text : String) : Prop := 0 ∉ Utf8.bytes text.toList

theorem nulFree_iff {text : String} : NulFree text ↔ Char.ofNat 0 ∉ text.toList :=
  not_congr (Utf8.mem_bytes_ascii (c := Char.ofNat 0) (by decide))

theorem sha256Hex_nulFree (tools : SealedCorpusTools) (bytes : ByteArray) :
    NulFree (sha256Hex tools bytes) := by
  rw [nulFree_iff, sha256Hex, String.toList_ofList, List.mem_flatMap]
  rintro ⟨byte, -, hmem⟩
  have hlt : byte.toNat / 16 < 16 := by
    have := byte.toNat_lt
    omega
  have hhigh := Delimited.digitChar_not_control hlt
  have hlow := Delimited.digitChar_not_control (Nat.mod_lt byte.toNat (by decide : 0 < 16))
  rw [hexByte, List.mem_cons, List.mem_singleton] at hmem
  rcases hmem with h | h
  · rw [← h] at hhigh
    exact absurd hhigh (by decide)
  · rw [← h] at hlow
    exact absurd hlow (by decide)

theorem mem_intercalate {β : Type} {separator : List β} {parts : List (List β)} {b : β}
    (h : b ∈ separator.intercalate parts) : b ∈ separator ∨ ∃ part ∈ parts, b ∈ part := by
  induction parts with
  | nil => cases h
  | cons part parts ih =>
    by_cases hlast : parts = []
    · subst hlast
      rw [List.intercalate_singleton] at h
      exact .inr ⟨part, List.mem_cons_self, h⟩
    · rw [List.intercalate_cons_of_ne_nil hlast, List.append_assoc, List.mem_append,
        List.mem_append] at h
      rcases h with hpart | hseparator | hrest
      · exact .inr ⟨part, List.mem_cons_self, hpart⟩
      · exact .inl hseparator
      · rcases ih hrest with hseparator | ⟨found, hfound, hmem⟩
        · exact .inl hseparator
        · exact .inr ⟨found, List.mem_cons_of_mem part hfound, hmem⟩

/-- A byte that separates nothing stands in a segment. -/
theorem exists_segment {path : PathText} {byte : UInt8} (hbyte : byte ≠ slash) (h : byte ∈ path) :
    ∃ segment ∈ segments path, byte ∈ segment := by
  have hsplit : [slash].intercalate (segments path) = path := List.intercalate_splitOn slash
  rw [← hsplit] at h
  rcases mem_intercalate h with hslash | hsegment
  · exact absurd (List.mem_singleton.mp hslash) hbyte
  · exact hsegment

/-- The system takes no path with a NUL. -/
theorem acceptPath_nulFree {path : PathText}
    (h : FileSystem.acceptPath (joinPath root path) = .ok ()) : 0 ∉ path := by
  intro hzero
  obtain ⟨segment, hsegment, hin⟩ := exists_segment (by decide) hzero
  have hstill : ¬ (segment = [] ∨ segment = [dot]) := by
    rintro (rfl | rfl) <;> revert hin <;> decide
  have hparent : segment ≠ [dot, dot] := by
    rintro rfl
    revert hin
    decide
  have hstep : Step.name segment ∈ (joinPath root path).steps := by
    rw [joinPath, routeOf, if_neg (by cases path <;> simp_all)]
    refine List.mem_append_right _ (List.mem_map.mpr ⟨segment, hsegment, ?_⟩)
    rw [stepOf, if_neg hstill, if_neg hparent]
  rw [FileSystem.acceptPath, ite_error_eq_ok, Bool.not_eq_true, List.any_eq_false] at h
  exact h.1 _ hstep (List.contains_iff_mem.mpr hin)

theorem ReadAs.nulFree {place : List FileName} (h : ReadAs fs tools root member place document) :
    NulFree document.relativePath := by
  have hcanonical := h.canonical
  rw [FileSystem.canonicalize, bind_eq_ok] at hcanonical
  obtain ⟨⟨⟩, haccept, -⟩ := hcanonical
  rw [NulFree, h.path]
  exact acceptPath_nulFree haccept

theorem memberPreimage_cancel {path path' sha256 sha256' : String} {sizeBytes sizeBytes' : UInt64}
    {x y : List UInt8} (hpath : NulFree path) (hpath' : NulFree path') (hsha : NulFree sha256)
    (hsha' : NulFree sha256')
    (h : memberPreimage path sha256 sizeBytes ++ x = memberPreimage path' sha256' sizeBytes' ++ y) :
    (path, sha256, sizeBytes) = (path', sha256', sizeBytes') ∧ x = y := by
  have hdecimal : ∀ n : ℕ, 10 ∉ Utf8.bytes (toString n).toList := by
    intro n hmem
    have hchar := (Utf8.mem_bytes_ascii (c := '\n') (by decide)).mp hmem
    have hdigit := Nat.isDigit_of_mem_toDigits (by decide) (by decide) (Nat.toList_repr ▸ hchar)
    exact absurd hdigit (by decide)
  have htext : ∀ {text text' : String}, Utf8.bytes text.toList = Utf8.bytes text'.toList →
      text = text' := fun h => String.toList_injective (Utf8.bytes_injective h)
  simp only [memberPreimage, List.append_assoc, List.cons_append, List.nil_append] at h
  obtain ⟨heqPath, h⟩ := Delimited.cut_unique hpath hpath' h
  obtain ⟨heqSha, h⟩ := Delimited.cut_unique hsha hsha' h
  obtain ⟨heqSize, hxy⟩ := Delimited.cut_unique (hdecimal _) (hdecimal _) h
  have hsize := UInt64.toNat_inj.mp (Nat.repr_injective (htext heqSize))
  rw [htext heqPath, htext heqSha, hsize]
  exact ⟨rfl, hxy⟩

theorem aggregatePreimage_eq_iff {documents documents' : List CorpusDocument}
    (h : ∀ document ∈ documents, NulFree document.relativePath ∧ NulFree document.sha256)
    (h' : ∀ document ∈ documents', NulFree document.relativePath ∧ NulFree document.sha256) :
    aggregatePreimage documents = aggregatePreimage documents' ↔
      documents.map (·.entry) = documents'.map (·.entry) := by
  constructor
  · intro heq
    induction documents generalizing documents' with
    | nil =>
      cases documents' with
      | nil => rfl
      | cons document' documents' => simp [aggregatePreimage, memberPreimage] at heq
    | cons document documents ih =>
      cases documents' with
      | nil => simp [aggregatePreimage, memberPreimage] at heq
      | cons document' documents' =>
        rw [List.forall_mem_cons] at h h'
        obtain ⟨hentry, htail⟩ := memberPreimage_cancel h.1.1 h'.1.1 h.1.2 h'.1.2 heq
        rw [List.map_cons, List.map_cons, ih h.2 h'.2 htail]
        exact congrArg (· :: _) hentry
  · intro hentries
    have hflat : ∀ documents : List CorpusDocument, aggregatePreimage documents =
        (documents.map (·.entry)).flatMap fun entry =>
          memberPreimage entry.1 entry.2.1 entry.2.2 := by
      intro documents
      rw [List.flatMap_map]
      rfl
    rw [hflat, hflat, hentries]

theorem ReceiptOf.nulFree (h : ReceiptOf fs tools root maxTotalBytes manifest receipt) :
    ∀ document ∈ receipt.documents, NulFree document.relativePath ∧ NulFree document.sha256 := by
  intro document hdocument
  obtain ⟨member, -, place, hread⟩ := h.read_of_mem hdocument
  obtain ⟨content, -, -, hsha, -⟩ := hread.content
  refine ⟨hread.nulFree, ?_⟩
  rw [hread.sha256, ← hsha]
  exact sha256Hex_nulFree tools content.bytes

/-! ## What was read -/

/-- The place to which the path of a document leads, and the content of the document. -/
structure ReadFrom (fs : FileSystem) (root : List FileName) (document : CorpusDocument)
    (place : List FileName) : Prop where
  canonical : fs.canonicalize (joinPath root (Utf8.bytes document.relativePath.toList)) =
    .ok place
  content : ∃ content, fs.tree.node place = some (.file content) ∧
    content.bytes = document.content.toUTF8

theorem fromUTF8?_eq_some {bytes : ByteArray} {text : String} :
    String.fromUTF8? bytes = some text ↔ text.toUTF8 = bytes := by
  rw [String.fromUTF8?]
  constructor
  · intro h
    obtain ⟨hvalid, ⟨⟩⟩ := Option.dite_none_right_eq_some.mp h
    rfl
  · rintro rfl
    exact dif_pos text.isValidUTF8

theorem ReadAs.readFrom {place : List FileName}
    (h : ReadAs fs tools root member place document) : ReadFrom fs root document place := by
  obtain ⟨content, hnode, -, -, htext⟩ := h.content
  refine ⟨?_, content, hnode, (fromUTF8?_eq_some.mp htext).symm⟩
  rw [h.path]
  exact h.canonical

/-- Size and digest of a document are those of its content. -/
structure MatchesContent (tools : SealedCorpusTools) (document : CorpusDocument) : Prop where
  sizeBytes : document.sizeBytes.toNat = document.content.toUTF8.size
  sha256 : document.sha256 = sha256Hex tools document.content.toUTF8
  small : document.sizeBytes.toNat ≤ 262144

theorem ReadAs.matchesContent {place : List FileName}
    (h : ReadAs fs tools root member place document) : MatchesContent tools document := by
  obtain ⟨content, -, hlen, hsha, htext⟩ := h.content
  have hbytes := fromUTF8?_eq_some.mp htext
  refine ⟨?_, ?_, ?_⟩
  · have hsize := content.size_lt
    rw [h.sizeBytes, ← hlen, hbytes, FileContent.len, UInt64.toNat_ofNat']
    omega
  · rw [h.sha256, ← hsha, hbytes]
  · rw [h.sizeBytes]
    exact UInt64.le_iff_toNat_le.mp h.small

end

end SealedCorpusReadAdapter

open SealedCorpusReadAdapter in
/-- A receipt lists the members of the manifest in the order of their paths, with the exact
count and size of what was read, whatever order the manifest has, and the preimage of its
aggregate determines the list. -/
theorem receipt_exact :
    (∀ fs tools request receipt, readCandidateVisible fs tools request = .ok receipt →
      ∃ root manifest, loadManifest fs tools request = .ok (root, manifest) ∧
        receipt.documents.Pairwise (·.relativePath < ·.relativePath) ∧
        (receipt.documents.map (·.entry)).Perm (manifest.members.map (·.entry)) ∧
        (∀ document ∈ receipt.documents, MatchesContent tools document ∧
          ∃ place, ReadFrom fs root document place) ∧
        receipt.memberCount = manifest.members.length ∧
        1 ≤ receipt.memberCount ∧ receipt.memberCount ≤ 64 ∧
        receipt.totalBytes.toNat = (receipt.documents.map (·.sizeBytes.toNat)).sum ∧
        receipt.totalBytes ≤ request.maxTotalBytes ∧
        receipt.aggregateSha256 =
          sha256Hex tools (aggregatePreimage receipt.documents).toByteArray ∧
        (∀ manifest' parse, Rearranged manifest manifest' →
          loadManifest fs { tools with manifest := parse } request = .ok (root, manifest') →
          readCandidateVisible fs { tools with manifest := parse } request = .ok receipt) ∧
        (∀ manifest' fs' changed, Rearranged manifest manifest' → fs.SameBut fs' changed →
          (∀ document ∈ receipt.documents, ¬ ReadFrom fs root document changed) →
          loadManifest fs' tools request = .ok (root, manifest') →
          readCandidateVisible fs' tools request = .ok receipt)) ∧
    ∀ fs tools request receipt fs' tools' request' receipt',
      readCandidateVisible fs tools request = .ok receipt →
      readCandidateVisible fs' tools' request' = .ok receipt' →
      (aggregatePreimage receipt.documents = aggregatePreimage receipt'.documents ↔
        receipt.documents.map (·.entry) = receipt'.documents.map (·.entry)) := by
  constructor
  · intro fs tools request receipt h
    obtain ⟨root, manifest, hload, hroot, hreceipt⟩ := readCandidateVisible_receiptOf h
    have hcount := hreceipt.memberCount.trans hreceipt.length_eq
    have hread : readManifest fs tools root request.maxTotalBytes manifest = .ok receipt := by
      obtain ⟨loaded, hloaded, hread⟩ := bind_eq_ok.mp h
      rw [hload] at hloaded
      cases hloaded
      exact hread
    refine ⟨root, manifest, hload, hreceipt.sorted, hreceipt.perm, ?_, hcount, ?_, ?_,
      hreceipt.total, hreceipt.within, hreceipt.aggregate, ?_, ?_⟩
    · intro document hdocument
      obtain ⟨member, -, place, hdocumentRead⟩ := hreceipt.read_of_mem hdocument
      exact ⟨hdocumentRead.matchesContent, place, hdocumentRead.readFrom⟩
    · rw [hcount]
      exact List.length_pos_iff.mpr hreceipt.nonempty
    · rw [hcount]
      exact hreceipt.atMost
    · intro manifest' parse hmanifest hparse
      refine bind_eq_ok.mpr ⟨_, hparse, ?_⟩
      exact (readManifest_rearranged hreceipt.distinct hmanifest).trans hread
    · intro manifest' fs' changed hmanifest hsame hunread hload'
      refine bind_eq_ok.mpr ⟨_, hload', ?_⟩
      refine (readManifest_rearranged hreceipt.distinct hmanifest).trans ?_
      refine readManifest_same hsame ?_ hread
      -- a member at the changed place would be a document that was read from there
      intro member hmember hcanonical
      obtain ⟨document, hdocument, place, hmemberRead⟩ := hreceipt.document_of_mem hmember
      obtain rfl : place = changed := Except.ok.inj (hmemberRead.canonical.symm.trans hcanonical)
      exact hunread document hdocument hmemberRead.readFrom
  · intro fs tools request receipt fs' tools' request' receipt' h h'
    obtain ⟨root, manifest, -, -, hreceipt⟩ := readCandidateVisible_receiptOf h
    obtain ⟨root', manifest', -, -, hreceipt'⟩ := readCandidateVisible_receiptOf h'
    exact aggregatePreimage_eq_iff hreceipt.nulFree hreceipt'.nulFree

/-! A corpus whose notes are a link to its oracle, and a manifest that names the answer in two
spellings. -/

namespace Fixture

open SealedCorpusReadAdapter

def fileName (name : String) : FileName := Utf8.bytes name.toList

def answerText : String := "{}\n"

def answerSha256 : String := "ca3d163bab055381827226140568f3bef7eaac187cebd76878e0b63e9e442356"

def answerMember (path : String) : SealedCorpusMember := ⟨path, answerSha256, 3⟩

def linkedManifest : SealedCorpusManifest where
  schemaVersion := "FraaSealedCorpusManifest.v0"
  corpusId := "linked-corpus"
  exposureClass := "candidate_visible"
  aggregateProfile := "path-sha256-size-v1"
  members := [answerMember "notes/answer.json", answerMember "notes//answer.json"]

def swappedManifest : SealedCorpusManifest :=
  { linkedManifest with
    members := [answerMember "notes//answer.json", answerMember "notes/answer.json"] }

def memberValue (path : String) : Value := .object [
  ("path", .string path),
  ("sha256", .string answerSha256),
  ("size_bytes", .number "3")]

def manifestValue (paths : List String) : Value := .object [
  ("schema_version", .string "FraaSealedCorpusManifest.v0"),
  ("corpus_id", .string "linked-corpus"),
  ("exposure_class", .string "candidate_visible"),
  ("aggregate_profile", .string "path-sha256-size-v1"),
  ("members", .array (paths.map memberValue))]

def linkedManifestValue : Value := manifestValue ["notes/answer.json", "notes//answer.json"]

def swappedManifestValue : Value := manifestValue ["notes//answer.json", "notes/answer.json"]

def answerContent : FileContent := ⟨answerText.toUTF8, by decide⟩

theorem manifests_small {value : Value} (h : value ∈ [linkedManifestValue, swappedManifestValue]) :
    (jsonText value).toUTF8.size < 2 ^ 63 := by
  rw [jsonText, Utf8.size_toUTF8]
  revert value
  decide +kernel

def linkedManifestContent : FileContent :=
  ⟨(jsonText linkedManifestValue).toUTF8, manifests_small (by simp)⟩

def swappedManifestContent : FileContent :=
  ⟨(jsonText swappedManifestValue).toUTF8, manifests_small (by simp)⟩

def manifestPlace : List FileName := [fileName "corpus", fileName "manifest.json"]

def linkedEntries (manifest : FileContent) : List (List FileName × Node FileName FileContent) := [
  ([fileName "corpus"], .directory),
  (manifestPlace, .file manifest),
  ([fileName "corpus", fileName "oracle"], .directory),
  ([fileName "corpus", fileName "oracle", fileName "answer.json"], .file answerContent),
  ([fileName "corpus", fileName "notes"], .link ⟨false, [.name (fileName "oracle")]⟩)]

def linkedFiles : FileSystem where
  tree := Tree.ofList (linkedEntries linkedManifestContent) (by decide)
  workingDirectory := []
  working := rfl
  linkLimit := 40
  directoryLen := 4096

/-- The same files, but for the text of the manifest. -/
def swappedFiles : FileSystem :=
  { linkedFiles with
    tree := Tree.ofList (linkedEntries swappedManifestContent) (by decide)
    working := rfl }

theorem swappedFiles_same : linkedFiles.SameBut swappedFiles manifestPlace where
  elsewhere := fun _ hother => Tree.listed_of_ne [([fileName "corpus"], .directory)] _ hother
  file := ⟨linkedManifestContent, swappedManifestContent, rfl, rfl⟩
  workingDirectory := rfl
  linkLimit := rfl
  directoryLen := rfl

/-- The reader of the two manifests, and the SHA-256 of the answer and of the aggregate. -/
def linkedTools : SealedCorpusTools where
  manifest := fun text =>
    if text = jsonText swappedManifestValue then .ok swappedManifest
    else if text = jsonText linkedManifestValue then .ok linkedManifest
    else .error "expected value"
  digest := fun bytes =>
    if bytes = answerText.toUTF8 then
      #v[0xca, 0x3d, 0x16, 0x3b, 0xab, 0x05, 0x53, 0x81, 0x82, 0x72, 0x26, 0x14, 0x05, 0x68, 0xf3,
        0xbe, 0xf7, 0xea, 0xac, 0x18, 0x7c, 0xeb, 0xd7, 0x68, 0x78, 0xe0, 0xb6, 0x3e, 0x9e, 0x44,
        0x23, 0x56]
    else
      #v[0xd4, 0x3d, 0xff, 0xa1, 0xc6, 0x4b, 0x8d, 0x40, 0xec, 0xd8, 0x11, 0xee, 0x8d, 0x28, 0xb1,
        0xb3, 0x9f, 0xb9, 0x71, 0x42, 0x4b, 0x1e, 0x81, 0x6a, 0x17, 0x99, 0x2d, 0xa8, 0xa5, 0xd5,
        0x77, 0xac]

def linkedRequest : SealedCorpusReadRequest where
  allowedRoot := "/corpus"
  manifestRelativePath := "manifest.json"
  maxTotalBytes := 1048576

def answerDocument (path : String) : CorpusDocument := ⟨path, answerSha256, 3, answerText⟩

def linkedReceipt : SealedCorpusReadReceipt where
  corpusId := "linked-corpus"
  aggregateSha256 := "d43dffa1c64b8d40ecd811ee8d28b1b39fb971424b1e816a17992da8a5d577ac"
  memberCount := 2
  totalBytes := 6
  documents := [answerDocument "notes//answer.json", answerDocument "notes/answer.json"]

/-- The manifest is loaded from its place, whatever text stands there. -/
theorem linked_loaded {fs : FileSystem} {tools : SealedCorpusTools}
    {manifest : SealedCorpusManifest} {content : FileContent} {text : String}
    (hroot : canonicalDirectory fs (fileName "/corpus") = .ok [fileName "corpus"])
    (hfile : confinedRegularFile fs [fileName "corpus"] (fileName "manifest.json") =
      .ok manifestPlace)
    (hplace : fs.canonicalize (canonicalRoute manifestPlace) = .ok manifestPlace)
    (hnode : fs.tree.node manifestPlace = some (.file content))
    (htext : content.bytes = text.toUTF8) (hparse : tools.manifest text = .ok manifest) :
    loadManifest fs tools linkedRequest = .ok ([fileName "corpus"], manifest) := by
  have hpath : validateRelativePath "manifest.json" = .ok (fileName "manifest.json") := by
    decide
  have hread : fs.read (canonicalRoute manifestPlace) = .ok content.bytes := by
    rw [FileSystem.read, bind_eq_ok]
    refine ⟨.file content, ?_, rfl⟩
    rw [FileSystem.metadata, bind_eq_ok]
    exact ⟨_, hplace, FileSystem.nodeAt_eq_ok.mpr hnode⟩
  have hdecoded : String.fromUTF8? content.bytes = some text := fromUTF8?_eq_some.mpr htext.symm
  have hmanifest : fs.readToString (canonicalRoute manifestPlace) = .ok text := by
    rw [FileSystem.readToString, bind_eq_ok]
    refine ⟨_, hread, ?_⟩
    simp only [hdecoded]
  refine bind_eq_ok.mpr ⟨_, hroot, bind_eq_ok.mpr ⟨_, hpath, bind_eq_ok.mpr ⟨_, hfile, ?_⟩⟩⟩
  refine bind_eq_ok.mpr ⟨_, loaded_eq_ok.mpr hmanifest, ?_⟩
  rw [hparse]
  rfl

theorem linked_root : canonicalDirectory linkedFiles (fileName "/corpus") =
    .ok [fileName "corpus"] := by
  decide

theorem linked_file : confinedRegularFile linkedFiles [fileName "corpus"]
    (fileName "manifest.json") = .ok manifestPlace := by
  decide

theorem linked_manifestPlace :
    linkedFiles.canonicalize (canonicalRoute manifestPlace) = .ok manifestPlace := by
  decide

theorem linkedFiles_loaded {tools : SealedCorpusTools} {manifest : SealedCorpusManifest}
    (h : tools.manifest (jsonText linkedManifestValue) = .ok manifest) :
    loadManifest linkedFiles tools linkedRequest = .ok ([fileName "corpus"], manifest) := by
  have hnode : linkedFiles.tree.node manifestPlace = some (.file linkedManifestContent) := rfl
  have htext : linkedManifestContent.bytes = (jsonText linkedManifestValue).toUTF8 := by
    rw [linkedManifestContent]
  exact linked_loaded linked_root linked_file linked_manifestPlace hnode htext h

theorem linkedTools_linked :
    linkedTools.manifest (jsonText linkedManifestValue) = .ok linkedManifest := by
  have hne : jsonText linkedManifestValue ≠ jsonText swappedManifestValue := by
    intro h
    exact absurd (String.ofList_inj.mp h) (by decide +kernel)
  simp only [linkedTools, if_neg hne, if_true]

theorem linkedTools_swapped :
    linkedTools.manifest (jsonText swappedManifestValue) = .ok swappedManifest := by
  simp only [linkedTools, if_true]

theorem swappedFiles_loaded : loadManifest swappedFiles linkedTools linkedRequest =
    .ok ([fileName "corpus"], swappedManifest) := by
  have hnode : swappedFiles.tree.node manifestPlace = some (.file swappedManifestContent) := rfl
  have htext : swappedManifestContent.bytes = (jsonText swappedManifestValue).toUTF8 := by
    rw [swappedManifestContent]
  exact linked_loaded (canonicalDirectory_same swappedFiles_same linked_root)
    (confinedRegularFile_same swappedFiles_same linked_file)
    ((swappedFiles_same.canonicalize_eq _).trans linked_manifestPlace) hnode htext
    linkedTools_swapped

theorem linked_read : readCandidateVisible linkedFiles linkedTools linkedRequest =
    .ok linkedReceipt := by
  refine bind_eq_ok.mpr ⟨_, linkedFiles_loaded linkedTools_linked, ?_⟩
  decide +kernel

end Fixture

open SealedCorpusReadAdapter Fixture in
/-- The receipt stays when the manifest lists the second spelling first. -/
theorem receipt_exact_linked :
    (linkedReceipt.documents.map (·.entry)).Perm (linkedManifest.members.map (·.entry)) ∧
      linkedReceipt.memberCount = linkedManifest.members.length ∧
      readCandidateVisible linkedFiles
        { linkedTools with manifest := fun _ => .ok swappedManifest } linkedRequest =
          .ok linkedReceipt ∧
      readCandidateVisible swappedFiles linkedTools linkedRequest = .ok linkedReceipt ∧
      (aggregatePreimage linkedReceipt.documents = aggregatePreimage linkedReceipt.documents ↔
        linkedReceipt.documents.map (·.entry) = linkedReceipt.documents.map (·.entry)) := by
  obtain ⟨hreceipt, haggregate⟩ := receipt_exact
  obtain ⟨root, manifest, hload, -, hperm, -, hcount, -, -, -, -, -, hparsed, hwritten⟩ :=
    hreceipt _ _ _ _ linked_read
  obtain ⟨rfl, rfl⟩ : [fileName "corpus"] = root ∧ linkedManifest = manifest := by
    have heq := (linkedFiles_loaded linkedTools_linked).symm.trans hload
    simpa using heq
  have hswapped : Rearranged linkedManifest swappedManifest := ⟨_, List.Perm.swap _ _ _, rfl⟩
  have hunread : ∀ document ∈ linkedReceipt.documents,
      ¬ ReadFrom linkedFiles [fileName "corpus"] document manifestPlace := by
    have hplaces : ∀ document ∈ linkedReceipt.documents, linkedFiles.canonicalize
        (joinPath [fileName "corpus"] (Utf8.bytes document.relativePath.toList)) ≠
          .ok manifestPlace := by
      decide
    exact fun document hdocument hread => hplaces document hdocument hread.canonical
  refine ⟨hperm, hcount, hparsed swappedManifest _ hswapped (linkedFiles_loaded rfl), ?_, ?_⟩
  · exact hwritten swappedManifest swappedFiles manifestPlace hswapped swappedFiles_same hunread
      swappedFiles_loaded
  · exact haggregate _ _ _ _ _ _ _ _ linked_read linked_read

end FaLocal
