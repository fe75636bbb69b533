import FaLocal.SealedCorpusRead

/-!
# Where a sealed corpus is read

Every member of a corpus is read from a regular file under the root. Its path is checked as it
is written, but links to directories lead elsewhere, and one file can be written in several ways.
-/
namespace FaLocal

open FileTree

/-! ## Written paths -/

/-- A segment that stands still. -/
def standsStill (segment : FileName) : Bool := segment = [] ∨ segment = [dot]

/-- The names of a path, without what stands still. -/
def writtenNames (path : PathText) : List FileName := (segments path).filter (!standsStill ·)

/-- Segments that all are names or stand still, as components and as steps. -/
theorem names_of_normal {segs : List FileName}
    (h : (segs.filterMap componentOf).all Component.isNormal = true) :
    segs.filterMap componentOf = (segs.filter (!standsStill ·)).map .normal ∧
      (segs.map stepOf).filter Step.moves = (segs.filter (!standsStill ·)).map .name := by
  induction segs with
  | nil => exact ⟨rfl, rfl⟩
  | cons segment segs ih =>
    by_cases hstill : segment = [] ∨ segment = [dot]
    · have hnone : componentOf segment = none := if_pos hstill
      have hstep : stepOf segment = .current := if_pos hstill
      have hstands : standsStill segment = true := decide_eq_true hstill
      rw [List.filterMap_cons_none hnone] at h ⊢
      simpa [List.filter_cons, hstep, Step.moves, hstands] using ih h
    · have hstands : standsStill segment = false := decide_eq_false hstill
      by_cases hparent : segment = [dot, dot]
      · have hcomponent : componentOf segment = some .parentDir := by
          rw [componentOf, if_neg hstill, if_pos hparent]
        rw [List.filterMap_cons_some hcomponent] at h
        cases h
      · have hcomponent : componentOf segment = some (.normal segment) := by
          rw [componentOf, if_neg hstill, if_neg hparent]
        have hstep : stepOf segment = .name segment := by
          rw [stepOf, if_neg hstill, if_neg hparent]
        rw [List.filterMap_cons_some hcomponent, List.all_cons, Bool.and_eq_true] at h
        rw [List.filterMap_cons_some hcomponent]
        simpa [List.filter_cons, hstep, Step.moves, hstands] using ih h.2

namespace SealedCorpusReadAdapter

/-- A path that is let through, as components and as steps. -/
structure Written (path : PathText) : Prop where
  nonempty : path ≠ []
  components : components path = (writtenNames path).map .normal
  steps : (routeOf path).steps.filter Step.moves = (writtenNames path).map .name

theorem validateRelativePath_eq_ok {raw : String} {path : PathText}
    (h : validateRelativePath raw = .ok path) :
    path = Utf8.bytes raw.toList ∧ Written path := by
  simp only [validateRelativePath, seq_eq_ok, require_eq_ok] at h
  obtain ⟨hraw, hpath, ⟨⟩⟩ := h
  have hnonempty : Utf8.bytes raw.toList ≠ [] := by
    intro hempty
    rw [Utf8.bytes_eq_nil, String.toList_eq_nil_iff] at hempty
    rw [hempty] at hraw
    cases hraw
  simp only [Bool.not_eq_true', Bool.or_eq_false_iff, Bool.not_eq_false'] at hpath
  obtain ⟨habsolute, hnormal⟩ := hpath
  have hhead : (Utf8.bytes raw.toList).head? ≠ some slash := by simpa using habsolute
  rw [components, if_neg hhead, List.all_append, Bool.and_eq_true] at hnormal
  have hcur : (segments (Utf8.bytes raw.toList)).head? ≠ some [dot] := by
    intro hcur
    rw [if_pos hcur] at hnormal
    cases hnormal.1
  obtain ⟨hcomponents, hsteps⟩ := names_of_normal hnormal.2
  refine ⟨rfl, hnonempty, ?_, ?_⟩
  · rw [components, if_neg hhead, if_neg hcur, List.nil_append, hcomponents]
    rfl
  · rw [routeOf, if_neg (by simpa using hnonempty), hsteps]
    rfl

theorem rejectOracleComponent_eq_ok {path : PathText} (h : Written path) :
    rejectOracleComponent path = .ok () ↔ ∀ name ∈ writtenNames path, isOracle name = false := by
  rw [rejectOracleComponent, ExecutionPlanValidator.forM_eq_ok, h.components]
  simp only [List.forall_mem_map, rejectComponent, require_eq_ok, Bool.not_eq_true']

end SealedCorpusReadAdapter

/-! ## Files -/

namespace FileSystem

variable {fs : FileSystem} {path : Route FileName} {place : List FileName}
  {node : Node FileName FileContent}

theorem start_stands (fs : FileSystem) (path : Route FileName) :
    fs.tree.Stands (path.start fs.workingDirectory) :=
  Tree.stands_of_directory (Tree.start_directory path fs.working)

theorem canonicalize_leads (h : fs.canonicalize path = .ok place) :
    (∃ crossed, fs.tree.Leads (path.start fs.workingDirectory) path.steps place crossed) ∧
      fs.tree.Stands place := by
  rw [canonicalize, bind_eq_ok] at h
  obtain ⟨⟨⟩, -, hresolve⟩ := h
  obtain ⟨crossed, hleads⟩ := Tree.resolve_leads (mapError_eq_ok.mp hresolve)
  exact ⟨⟨crossed, hleads⟩, hleads.stands (start_stands fs path)⟩

theorem nodeAt_eq_ok : fs.nodeAt place = .ok node ↔ fs.tree.node place = some node := by
  rw [nodeAt]
  split <;> simp_all

theorem symlinkMetadata_located (h : fs.symlinkMetadata path = .ok node) :
    ∃ place, fs.tree.locate fs.linkLimit (path.start fs.workingDirectory) path.steps =
      .ok place ∧ fs.tree.node place = some node := by
  rw [symlinkMetadata, bind_eq_ok] at h
  obtain ⟨⟨⟩, -, h⟩ := h
  obtain ⟨place, hlocate, hnode⟩ := bind_eq_ok.mp h
  exact ⟨place, mapError_eq_ok.mp hlocate, nodeAt_eq_ok.mp hnode⟩

/-- A canonical path names its own place. -/
theorem canonicalize_canonical {found : List FileName} (hplace : fs.tree.Stands place)
    (h : fs.canonicalize (canonicalRoute place) = .ok found) : found = place := by
  obtain ⟨⟨crossed, hleads⟩, -⟩ := canonicalize_leads h
  obtain ⟨x, hnode, hlink⟩ := hplace
  have hnames : fs.tree.Leads [] (place.map .name) ([] ++ place) [] :=
    Tree.leads_names hnode hlink
  exact (hleads.unique hnames).1

theorem metadata_canonical (hplace : fs.tree.Stands place)
    (h : fs.metadata (canonicalRoute place) = .ok node) : fs.tree.node place = some node := by
  obtain ⟨found, hfound, hnode⟩ := bind_eq_ok.mp h
  rw [canonicalize_canonical hplace hfound] at hnode
  exact nodeAt_eq_ok.mp hnode

theorem read_canonical {bytes : ByteArray} (hplace : fs.tree.Stands place)
    (h : fs.read (canonicalRoute place) = .ok bytes) :
    ∃ content, fs.tree.node place = some (.file content) ∧ content.bytes = bytes := by
  obtain ⟨node, hnode, hread⟩ := bind_eq_ok.mp h
  have hat := metadata_canonical hplace hnode
  cases node with
  | file content =>
    cases hread
    exact ⟨content, hat, rfl⟩
  | directory => cases hread
  | link target => cases hread

/-- The file systems differ in nothing but what the regular file at a place holds. -/
structure SameBut (fs fs' : FileSystem) (place : List FileName) : Prop where
  elsewhere : ∀ other, other ≠ place → fs'.tree.node other = fs.tree.node other
  file : ∃ content content', fs.tree.node place = some (.file content) ∧
    fs'.tree.node place = some (.file content')
  workingDirectory : fs'.workingDirectory = fs.workingDirectory
  linkLimit : fs'.linkLimit = fs.linkLimit
  directoryLen : fs'.directoryLen = fs.directoryLen

section
variable {fs' : FileSystem} {changed : List FileName}

theorem SameBut.shape (h : SameBut fs fs' changed) : fs'.tree.shape = fs.tree.shape := by
  ext1
  funext other
  change (fs'.tree.node other).map Node.shape = (fs.tree.node other).map Node.shape
  by_cases hother : other = changed
  · obtain ⟨content, content', hnode, hnode'⟩ := h.file
    rw [hother, hnode, hnode']
    rfl
  · rw [h.elsewhere other hother]

theorem SameBut.canonicalize_eq (h : SameBut fs fs' changed) (path : Route FileName) :
    fs'.canonicalize path = fs.canonicalize path := by
  have hresolve : ∀ links here steps, fs'.tree.resolve links here steps =
      fs.tree.resolve links here steps := by
    intro links here steps
    rw [← Tree.resolve_shape, h.shape, Tree.resolve_shape]
  rw [canonicalize, canonicalize, hresolve, h.workingDirectory, h.linkLimit]

/-- What stands at the end of a path is of the same kind. -/
theorem SameBut.symlinkMetadata_ok (h : SameBut fs fs' changed)
    (hnode : fs.symlinkMetadata path = .ok node) :
    ∃ node', fs'.symlinkMetadata path = .ok node' ∧ node'.shape = node.shape := by
  rw [symlinkMetadata, bind_eq_ok] at hnode
  obtain ⟨⟨⟩, haccept, hnode⟩ := hnode
  obtain ⟨found, hlocate, hnode⟩ := bind_eq_ok.mp hnode
  have hfound : (fs'.tree.node found).map Node.shape = some node.shape := by
    have hshape := congrArg (fun tree => tree.node found) h.shape
    refine hshape.trans ?_
    change (fs.tree.node found).map Node.shape = _
    rw [nodeAt_eq_ok.mp hnode]
    rfl
  obtain ⟨node', hnode', hshape⟩ := Option.map_eq_some_iff.mp hfound
  refine ⟨node', bind_eq_ok.mpr ⟨_, haccept, bind_eq_ok.mpr ⟨found, ?_, ?_⟩⟩, hshape⟩
  · rw [← Tree.locate_shape, h.shape, Tree.locate_shape, h.workingDirectory, h.linkLimit]
    exact hlocate
  · exact nodeAt_eq_ok.mpr hnode'

/-- A path that leads elsewhere finds what it found. -/
theorem SameBut.metadata_eq (h : SameBut fs fs' changed) (hplace : fs.tree.Stands place)
    (hne : place ≠ changed) :
    fs'.metadata (canonicalRoute place) = fs.metadata (canonicalRoute place) := by
  rw [metadata, metadata, h.canonicalize_eq]
  cases hfound : fs.canonicalize (canonicalRoute place) with
  | error e => rfl
  | ok found =>
    obtain rfl := canonicalize_canonical hplace hfound
    change fs'.nodeAt found = fs.nodeAt found
    rw [nodeAt, nodeAt, h.elsewhere found hne]

theorem SameBut.nodeLen_eq (h : SameBut fs fs' changed) : fs'.nodeLen = fs.nodeLen := by
  funext node
  cases node <;> simp only [nodeLen, h.directoryLen]

end

end FileSystem

/-- Kinds of nodes are told by their shape. -/
theorem isFile_of_shape {node node' : Node FileName FileContent} (h : node'.shape = node.shape) :
    node'.isLink = node.isLink ∧ isDir node' = isDir node ∧ isFile node' = isFile node := by
  cases node <;> cases node' <;> cases h <;> exact ⟨rfl, rfl, rfl⟩

namespace SealedCorpusReadAdapter

variable {fs : FileSystem} {root place : List FileName} {path : PathText}

theorem canonicalDirectory_stands {directory : PathText}
    (h : canonicalDirectory fs directory = .ok root) : fs.tree.Stands root := by
  simp only [canonicalDirectory, bind_eq_ok, loaded_eq_ok] at h
  obtain ⟨-, -, -, -, hcanonical⟩ := h
  exact (FileSystem.canonicalize_leads hcanonical).2

/-- A joined path is walked from the root. -/
theorem leads_joined {steps : List (Step FileName)} {crossed : List (List FileName)}
    (hroot : fs.tree.Stands root)
    (h : fs.tree.Leads [] (root.map .name ++ steps) place crossed) :
    fs.tree.Leads root steps place crossed := by
  obtain ⟨x, hnode, hlink⟩ := hroot
  have hnames : fs.tree.Leads [] (root.map .name) ([] ++ root) [] :=
    Tree.leads_names hnode hlink
  obtain ⟨mid, front, back, hfront, hback, rfl⟩ := h.split
  obtain ⟨rfl, rfl⟩ := hfront.unique hnames
  exact hback

/-- A member lies under the root, in the directory to which the names before its last one
lead. -/
structure Confined (fs : FileSystem) (root : List FileName) (path : PathText)
    (place : List FileName) : Prop where
  under : root <+: place
  file : ∃ content, fs.tree.node place = some (.file content)
  leads : ∃ front n directory crossed, writtenNames path = front ++ [n] ∧
    fs.tree.Leads root (front.map .name) directory crossed ∧ place = directory ++ [n]

/-- The last step of a path that is let through to a file is a name. -/
theorem exists_last_name {L : List FileName} {content : FileContent} (hwritten : Written path)
    (hlocate : fs.tree.locate fs.linkLimit [] (joinPath root path).steps = .ok L)
    (hfile : fs.tree.node L = some (.file content)) :
    ∃ front n, (routeOf path).steps = front ++ [.name n] := by
  have hsteps : (routeOf path).steps ≠ [] := by
    rw [routeOf, if_neg (by simpa using hwritten.nonempty)]
    simp [segments, List.splitOn_ne_nil]
  have hsplit := List.dropLast_append_getLast hsteps
  cases hlast : (routeOf path).steps.getLast hsteps with
  | name n =>
    rw [hlast] at hsplit
    exact ⟨_, n, hsplit.symm⟩
  | parent =>
    have hmem : Step.parent ∈ (routeOf path).steps.filter Step.moves :=
      List.mem_filter.mpr ⟨hlast ▸ List.getLast_mem hsteps, rfl⟩
    rw [hwritten.steps] at hmem
    simp at hmem
  | current =>
    rw [hlast] at hsplit
    rw [joinPath, ← hsplit, ← List.append_assoc] at hlocate
    obtain ⟨crossed, hleads⟩ := Tree.locate_leads hlocate ⟨_, hfile, rfl⟩
    rw [hleads.ends_current] at hfile
    cases hfile

theorem confinedRegularFile_confined (hroot : fs.tree.Stands root) (hwritten : Written path)
    (h : confinedRegularFile fs root path = .ok place) : Confined fs root path place := by
  simp only [confinedRegularFile, bind_eq_ok, loaded_eq_ok] at h
  obtain ⟨node, hnode, _, hfile, canonical, hcanonical, _, hunder, ⟨⟩⟩ := h
  rw [require_eq_ok] at hfile hunder
  obtain ⟨L, hlocate, hL⟩ := FileSystem.symlinkMetadata_located hnode
  obtain ⟨content, rfl⟩ : ∃ content, node = .file content := by
    cases node with
    | file content => exact ⟨content, rfl⟩
    | directory => cases hfile
    | link target => cases hfile
  obtain ⟨front, n, hsteps⟩ := exists_last_name hwritten hlocate hL
  have hjoined : (joinPath root path).steps = (root.map .name ++ front) ++ [.name n] := by
    rw [joinPath, hsteps, List.append_assoc]
  rw [hjoined] at hlocate
  obtain ⟨directory, crossed, hdirectory, rfl⟩ := Tree.locate_name hlocate
  have hplace : place = directory ++ [n] := by
    obtain ⟨⟨_, hleads⟩, -⟩ := FileSystem.canonicalize_leads hcanonical
    rw [hjoined] at hleads
    exact (hleads.unique (hdirectory.append (.name hL rfl (.done _)))).1
  subst hplace
  have hnames := hwritten.steps
  rw [hsteps, List.filter_append] at hnames
  obtain ⟨names, last, hwrittenNames, hfront, hlast⟩ := List.append_eq_map_iff.mp hnames
  obtain rfl : last = [n] := by
    have hinj : Function.Injective (Step.name : FileName → Step FileName) :=
      fun _ _ => Step.name.inj
    exact hinj.list_map hlast
  refine ⟨List.isPrefixOf_iff_prefix.mp hunder, ⟨content, hL⟩, ?_⟩
  refine ⟨names, n, directory, crossed, hwrittenNames, ?_, rfl⟩
  rw [hfront]
  exact (leads_joined hroot hdirectory).moving

end SealedCorpusReadAdapter

end FaLocal
