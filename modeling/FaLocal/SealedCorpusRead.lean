import FaLocal.Library.FileTree
import FaLocal.Library.Utf8
import FaLocal.ReuseReconnaissanceService

/-!
# Reading a sealed corpus

`SealedCorpusReadAdapter::read_candidate_visible` over a tree of directories, regular files
and symbolic links that does not change while it is read. The reader of the manifest and the
SHA-256 are parameters.
-/
namespace FaLocal

open FileTree

/-! ## Paths -/

/-- The name of an entry of a directory, in bytes. -/
abbrev FileName := List UInt8

/-- A path as a text of bytes. -/
abbrev PathText := List UInt8

def slash : UInt8 := 47

def dot : UInt8 := 46

def segments (path : PathText) : List FileName := path.splitOn slash

/-- What the system does with the text between two separators. -/
def stepOf (segment : FileName) : Step FileName :=
  if segment = [] ∨ segment = [dot] then .current
  else if segment = [dot, dot] then .parent
  else .name segment

/-- How the system walks a path. -/
def routeOf (path : PathText) : Route FileName where
  absolute := path.head? == some slash
  steps := if path.isEmpty then [] else (segments path).map stepOf

/-- `std::path::Component` -/
inductive Component where
  | rootDir | curDir | parentDir
  | normal (name : FileName)
  deriving DecidableEq

def Component.isNormal : Component → Bool
  | .normal _ => true
  | _ => false

def componentOf (segment : FileName) : Option Component :=
  if segment = [] ∨ segment = [dot] then none
  else if segment = [dot, dot] then some .parentDir
  else some (.normal segment)

/-- `Path::components`: repeated separators are ignored, and so is every dot that stands not
in front. -/
def components (path : PathText) : List Component :=
  (if path.head? = some slash then [.rootDir]
    else if (segments path).head? = some [dot] then [.curDir]
    else []) ++ (segments path).filterMap componentOf

/-! ## Files -/

/-- The content of a regular file. -/
structure FileContent where
  bytes : ByteArray
  size_lt : bytes.size < 2 ^ 63

def FileContent.len (content : FileContent) : UInt64 := UInt64.ofNat content.bytes.size

structure FileSystem where
  tree : Tree FileName FileContent
  workingDirectory : List FileName
  working : tree.node workingDirectory = some .directory
  linkLimit : Nat
  directoryLen : UInt64

def refusalError : Refusal → FaLocalError
  | .noEntry => .io "No such file or directory (os error 2)"
  | .notADirectory => .io "Not a directory (os error 20)"
  | .tooManyLinks => .io "Too many levels of symbolic links (os error 40)"

def hasNul : Step FileName → Bool
  | .name n => n.contains 0
  | _ => false

namespace FileSystem

variable (fs : FileSystem)

/-- What `std` and the system refuse before a path is walked. -/
def acceptPath (path : Route FileName) : Except FaLocalError Unit :=
  if path.steps.any hasNul then .error (.io "file name contained an unexpected NUL byte")
  else if path.absolute = false ∧ path.steps = [] then .error (refusalError .noEntry)
  else .ok ()

def nodeAt (place : List FileName) : Except FaLocalError (Node FileName FileContent) :=
  match fs.tree.node place with
  | some node => .ok node
  | none => .error (refusalError .noEntry)

/-- `std::fs::symlink_metadata` -/
def symlinkMetadata (path : Route FileName) : Except FaLocalError (Node FileName FileContent) := do
  acceptPath path
  let place ← (fs.tree.locate fs.linkLimit (path.start fs.workingDirectory) path.steps).mapError
    refusalError
  fs.nodeAt place

/-- `std::fs::canonicalize` -/
def canonicalize (path : Route FileName) : Except FaLocalError (List FileName) := do
  acceptPath path
  (fs.tree.resolve fs.linkLimit (path.start fs.workingDirectory) path.steps).mapError refusalError

/-- `std::fs::metadata` -/
def metadata (path : Route FileName) : Except FaLocalError (Node FileName FileContent) := do
  let place ← fs.canonicalize path
  fs.nodeAt place

/-- `std::fs::read` -/
def read (path : Route FileName) : Except FaLocalError ByteArray := do
  let node ← fs.metadata path
  match node with
  | .file content => .ok content.bytes
  | _ => .error (.io "Is a directory (os error 21)")

/-- `std::fs::read_to_string` -/
def readToString (path : Route FileName) : Except FaLocalError String := do
  let bytes ← fs.read path
  match String.fromUTF8? bytes with
  | some text => .ok text
  | none => .error (.io "stream did not contain valid UTF-8")

end FileSystem

/-- A canonical path. -/
def canonicalRoute (place : List FileName) : Route FileName := ⟨true, place.map .name⟩

/-- `root.join(relative)` -/
def joinPath (root : List FileName) (relative : PathText) : Route FileName :=
  ⟨true, root.map .name ++ (routeOf relative).steps⟩

/-- `metadata.len()` -/
def FileSystem.nodeLen (fs : FileSystem) : Node FileName FileContent → UInt64
  | .file content => content.len
  | _ => fs.directoryLen

def isDir : Node FileName FileContent → Bool
  | .directory => true
  | _ => false

def isFile : Node FileName FileContent → Bool
  | .file _ => true
  | _ => false

/-! ## The manifest -/

structure SealedCorpusMember where
  path : String
  sha256 : String
  sizeBytes : UInt64
  deriving DecidableEq

structure SealedCorpusManifest where
  schemaVersion : String
  corpusId : String
  exposureClass : String
  aggregateProfile : String
  members : List SealedCorpusMember
  deriving DecidableEq

/-- `serde_json::from_str` for the manifest, and `Sha256::digest`. -/
structure SealedCorpusTools where
  manifest : String → Except String SealedCorpusManifest
  digest : ByteArray → Vector UInt8 32

def sha256Hex (tools : SealedCorpusTools) (bytes : ByteArray) : String :=
  String.ofList ((tools.digest bytes).toList.flatMap hexByte)

/-! ## The adapter -/

namespace SealedCorpusReadAdapter

def maxMemberCount : Nat := 64

def maxMemberBytes : UInt64 := 256 * 1024

def canonicalDirectory (fs : FileSystem) (path : PathText) : FaLocalResult (List FileName) := do
  let metadata ← loaded (fs.symlinkMetadata (routeOf path))
  require (!(metadata.isLink || !isDir metadata))
    "sealed corpus root must be a real directory, not a symlink"
  loaded (fs.canonicalize (routeOf path))

def confinedRegularFile (fs : FileSystem) (root : List FileName) (relative : PathText) :
    FaLocalResult (List FileName) := do
  let candidate := joinPath root relative
  let metadata ← loaded (fs.symlinkMetadata candidate)
  require (!(metadata.isLink || !isFile metadata))
    "sealed corpus member must be a regular non-symlink file"
  let canonical ← loaded (fs.canonicalize candidate)
  require (root.isPrefixOf canonical) "sealed corpus member escapes the admitted root"
  return canonical

def validateRelativePath (raw : String) : FaLocalResult PathText := do
  require (!(raw.isEmpty || raw.toList.contains '\\' || raw.toList.contains ':'))
    "sealed corpus paths must be nonempty repository-style relative paths"
  let path := Utf8.bytes raw.toList
  require (!(path.head? == some slash || !(components path).all Component.isNormal))
    "sealed corpus path contains an absolute, parent, or non-normal component"
  return path

def toAsciiLowercase (name : FileName) : FileName :=
  name.map fun byte => if 65 ≤ byte ∧ byte ≤ 90 then byte + 32 else byte

def oracleLabels : List FileName :=
  ["oracle", "hidden_oracle", "hidden-oracle"].map fun label => Utf8.bytes label.toList

/-- A name of hidden oracle material. -/
def isOracle (name : FileName) : Bool := oracleLabels.contains (toAsciiLowercase name)

def rejectComponent : Component → FaLocalResult Unit
  | .normal name => require (!isOracle name)
      "candidate-visible corpus manifest may not reference hidden oracle material"
  | _ => .error (contractInvalid "sealed corpus path is not normalized")

def rejectOracleComponent (path : PathText) : FaLocalResult Unit :=
  (components path).forM rejectComponent

/-- `members.sort_by(|left, right| left.path.cmp(&right.path))` -/
def Before (left right : SealedCorpusMember) : Prop := left.path ≤ right.path

instance : DecidableRel Before := fun left right =>
  inferInstanceAs (Decidable (left.path ≤ right.path))

/-- What the loop over the members has gathered. -/
structure Progress where
  seen : List String
  documents : List CorpusDocument
  totalBytes : UInt64
  aggregatePreimage : List UInt8

def Progress.start : Progress := ⟨[], [], 0, []⟩

/-- What a member adds to the preimage of the aggregate. -/
def memberPreimage (path sha256 : String) (sizeBytes : UInt64) : List UInt8 :=
  Utf8.bytes path.toList ++ 0 :: (Utf8.bytes sha256.toList ++
    0 :: (Utf8.bytes (toString sizeBytes.toNat).toList ++ [10]))

/-- `total_bytes.checked_add(len)` -/
def checkedAdd (total len : UInt64) : Option UInt64 :=
  if total.toNat + len.toNat < 2 ^ 64 then some (total + len) else none

section
variable (fs : FileSystem) (tools : SealedCorpusTools) (root : List FileName)
  (maxTotalBytes : UInt64)

def readMember (progress : Progress) (member : SealedCorpusMember) : FaLocalResult Progress := do
  require (!progress.seen.contains member.path)
    "sealed corpus manifest contains duplicate member paths"
  let relative ← validateRelativePath member.path
  rejectOracleComponent relative
  let path ← confinedRegularFile fs root relative
  let metadata ← loaded (fs.metadata (canonicalRoute path))
  require (!(fs.nodeLen metadata != member.sizeBytes || maxMemberBytes < fs.nodeLen metadata))
    ("sealed corpus member " ++ member.path ++ " size does not match admitted manifest")
  match checkedAdd progress.totalBytes (fs.nodeLen metadata) with
  | none => .error (contractInvalid "sealed corpus byte count overflowed")
  | some totalBytes => do
    require (totalBytes ≤ maxTotalBytes) "sealed corpus exceeds request max_total_bytes"
    let bytes ← loaded (fs.read (canonicalRoute path))
    require (sha256Hex tools bytes == member.sha256)
      ("sealed corpus member " ++ member.path ++ " digest mismatch")
    match String.fromUTF8? bytes with
    | none => .error (contractInvalid
        ("sealed corpus member " ++ member.path ++ " is not UTF-8 text"))
    | some content =>
      .ok {
        seen := member.path :: progress.seen
        documents := progress.documents ++ [⟨member.path, member.sha256, member.sizeBytes, content⟩]
        totalBytes := totalBytes
        aggregatePreimage := progress.aggregatePreimage ++
          memberPreimage member.path member.sha256 member.sizeBytes }

def readManifest (manifest : SealedCorpusManifest) : FaLocalResult SealedCorpusReadReceipt := do
  require (!(manifest.schemaVersion != "FraaSealedCorpusManifest.v0" ||
      manifest.exposureClass != "candidate_visible" ||
      manifest.aggregateProfile != "path-sha256-size-v1"))
    "sealed corpus manifest identity or exposure class is not admitted"
  require (!(manifest.members.isEmpty || maxMemberCount < manifest.members.length))
    "sealed corpus manifest member count is outside admitted bounds"
  let progress ← (manifest.members.insertionSort Before).foldlM
    (readMember fs tools root maxTotalBytes) .start
  return {
    corpusId := manifest.corpusId
    aggregateSha256 := sha256Hex tools progress.aggregatePreimage.toByteArray
    memberCount := progress.documents.length
    totalBytes := progress.totalBytes
    documents := progress.documents }

end

/-- Everything up to the parsed manifest. -/
def loadManifest (fs : FileSystem) (tools : SealedCorpusTools)
    (request : SealedCorpusReadRequest) : FaLocalResult (List FileName × SealedCorpusManifest) := do
  let root ← canonicalDirectory fs (Utf8.bytes request.allowedRoot.toList)
  let manifestRelative ← validateRelativePath request.manifestRelativePath
  let manifestPath ← confinedRegularFile fs root manifestRelative
  let manifestRaw ← loaded (fs.readToString (canonicalRoute manifestPath))
  let manifest ← deserialized (tools.manifest manifestRaw)
  return (root, manifest)

def readCandidateVisible (fs : FileSystem) (tools : SealedCorpusTools)
    (request : SealedCorpusReadRequest) : FaLocalResult SealedCorpusReadReceipt := do
  let (root, manifest) ← loadManifest fs tools request
  readManifest fs tools root request.maxTotalBytes manifest

end SealedCorpusReadAdapter

end FaLocal
