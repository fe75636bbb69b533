import FaLocal.IdSegment
import FaLocal.Library.Flags
import FaLocal.Pipeline

/-!
# Command lines

What the commands of `fa-local-run` read of their arguments, and the values of `--adapter`. How
characters are quoted and how a parser words its errors are parameters.
-/
namespace FaLocal

/-- The exit code behind a call that did not return `Ok`; a panic ends the process with 101. -/
def Abort.exitCode : Abort → Nat
  | .returned _ => 1
  | .panicked _ => 101

theorem Abort.exitCode_ne_zero (error : Abort) : error.exitCode ≠ 0 := by
  cases error <;> simp [exitCode]

/-! ## Identifiers -/

namespace Uuid

theorem size_toArray {bytes : List UInt8} (h : bytes.length = 16) : bytes.toArray.size = 16 :=
  List.size_toArray.trans h

/-- 32 digits without hyphens. -/
def parseSimple (text : List UInt8) : Option Uuid := do
  let bytes ← decodeHex text
  if h : bytes.length = 16 then some ⟨⟨bytes.toArray, size_toArray h⟩⟩ else none

/-- `Uuid::parse_str`: the simple, the hyphenated, the braced or the URN form. -/
def parseStr (text : List UInt8) : Option Uuid :=
  if text.length = 32 then parseSimple text
  else if text.length = 36 then parseHyphenated text
  else if text.length = 38 ∧ text.head? = some 123 ∧ text.getLast? = some 125 then
    parseHyphenated (text.drop 1).dropLast
  else if text.length = 45 ∧ text.take 9 = Utf8.bytes "urn:uuid:".toList then
    parseHyphenated (text.drop 9)
  else none

end Uuid

/-! ## Values of `--adapter` -/

/-- How messages quote what they are about. -/
structure CommandTexts where
  plainChar : Char → Bool
  uuidError : String → String

namespace CommandTexts

variable (texts : CommandTexts)

def quoted (s : String) : String := debugString texts.plainChar s

/-- The selection that the words behind the identifier name. -/
def parseSelection (value kind param : String) (rest : List String) :
    Except String AdapterSelection :=
  if kind = "local-file-write" then
    match rest with
    | [] => .ok (.localFileWrite param)
    | _ :: _ => .error ("invalid --adapter value " ++ texts.quoted value ++
        ": local-file-write takes exactly one parameter, the delivery directory")
  else if kind = "nmap-preflight" then
    match rest with
    | [] => .ok (.nmapPreflight param .loopbackTcpConnectV1)
    | [profile] =>
      if profile = "loopback" then .ok (.nmapPreflight param .loopbackTcpConnectV1)
      else if profile = "private-subnet" then
        .ok (.nmapPreflight param .authorizedPrivateSubnetTcpConnectV1)
      else .error ("invalid --adapter nmap profile " ++ texts.quoted profile ++
        " (expected loopback or private-subnet)")
    | _ :: _ :: _ => .error ("invalid --adapter value " ++ texts.quoted value ++
        ": nmap-preflight takes <BINARY>[:<loopback|private-subnet>]")
  else .error ("unknown --adapter kind " ++ texts.quoted kind ++
    " (expected local-file-write or nmap-preflight)")

def parseCapabilityScopedAdapter (value : String) :
    Except String CapabilityScopedAdapterSelection :=
  match (value.toList.splitOn ':').map String.ofList with
  | idText :: kind :: param :: rest => do
    let capabilityId ← match Uuid.parseStr (Utf8.bytes idText.toList) with
      | some uuid => .ok ⟨uuid⟩
      | none => .error ("invalid --adapter capability id " ++ texts.quoted idText ++ ": " ++
          texts.uuidError idText)
    let selection ← texts.parseSelection value kind param rest
    return { capabilityId := capabilityId, selection := selection }
  | _ => .error ("invalid --adapter value " ++ texts.quoted value ++
      " (expected <CAPABILITY_UUID>:<local-file-write|nmap-preflight>:<PARAMS>)")

end CommandTexts

/-- The words behind the identifier by which a selection is given. -/
def AdapterSelection.spellings : AdapterSelection → List (List String)
  | .localFileWrite deliveryRoot => [["local-file-write", deliveryRoot]]
  | .nmapPreflight nmapBinary .loopbackTcpConnectV1 =>
    [["nmap-preflight", nmapBinary], ["nmap-preflight", nmapBinary, "loopback"]]
  | .nmapPreflight nmapBinary .authorizedPrivateSubnetTcpConnectV1 =>
    [["nmap-preflight", nmapBinary, "private-subnet"]]

namespace CommandTexts

variable {texts : CommandTexts} {value kind param : String} {rest : List String}

theorem parseSelection_eq_ok {selection : AdapterSelection} :
    texts.parseSelection value kind param rest = .ok selection ↔
      kind :: param :: rest ∈ selection.spellings := by
  have hkinds : "local-file-write" ≠ "nmap-preflight" := by decide
  have hprofiles : "loopback" ≠ "private-subnet" := by decide
  rw [parseSelection.eq_def]
  split
  · rename_i hkind
    subst hkind
    cases rest with
    | nil => rcases selection with root | ⟨binary, _ | _⟩ <;> simp [AdapterSelection.spellings]
    | cons profile rest =>
      rcases selection with root | ⟨binary, _ | _⟩ <;> simp [AdapterSelection.spellings]
  · rename_i hlocal
    split
    · rename_i hkind
      subst hkind
      rcases rest with _ | ⟨profile, _ | ⟨other, rest⟩⟩
      · rcases selection with root | ⟨binary, _ | _⟩ <;> simp [AdapterSelection.spellings, eq_comm]
      · by_cases hloop : profile = "loopback"
        · subst hloop
          rcases selection with root | ⟨binary, _ | _⟩ <;>
            simp [AdapterSelection.spellings, eq_comm]
        · by_cases hsubnet : profile = "private-subnet"
          · subst hsubnet
            rcases selection with root | ⟨binary, _ | _⟩ <;>
              simp [AdapterSelection.spellings, eq_comm]
          · rcases selection with root | ⟨binary, _ | _⟩ <;>
              simp [AdapterSelection.spellings, hloop, hsubnet]
      · rcases selection with root | ⟨binary, _ | _⟩ <;> simp [AdapterSelection.spellings]
    · rename_i hnmap
      rcases selection with root | ⟨binary, _ | _⟩ <;>
        simp [AdapterSelection.spellings, hlocal, hnmap]

theorem fields_eq_iff {fields : List String} (hne : fields ≠ []) :
    (value.toList.splitOn ':').map String.ofList = fields ↔
      (∀ field ∈ fields, ':' ∉ field.toList) ∧ value = String.intercalate ":" fields := by
  have hlists : (value.toList.splitOn ':').map String.ofList = fields ↔
      value.toList.splitOn ':' = fields.map String.toList := by
    constructor
    · rintro rfl
      rw [List.map_map]
      exact (List.map_id'' (fun _ => String.toList_ofList) _).symm
    · intro h
      rw [h, List.map_map]
      exact List.map_id'' (fun _ => String.ofList_toList) _
  have hvalue : value.toList = [':'].intercalate (fields.map String.toList) ↔
      value = String.intercalate ":" fields := by
    rw [← String.toList_inj, String.toList_intercalate]
    rfl
  rw [hlists, Flags.splitOn_eq_iff, hvalue, List.forall_mem_map]
  exact and_iff_right (mt List.map_eq_nil_iff.mp hne)

/-- A value is taken for an adapter exactly if it is one of its spellings: an identifier in one of
the forms without a colon, and words without one. -/
theorem parseCapabilityScopedAdapter_eq_ok {entry : CapabilityScopedAdapterSelection} :
    texts.parseCapabilityScopedAdapter value = .ok entry ↔
      ∃ idText words, words ∈ entry.selection.spellings ∧
        Uuid.parseStr (Utf8.bytes idText.toList) = some entry.capabilityId.uuid ∧
        (∀ word ∈ idText :: words, ':' ∉ word.toList) ∧
        value = String.intercalate ":" (idText :: words) := by
  have hread : ∀ {idText : String} {words : List String},
      ((∀ word ∈ idText :: words, ':' ∉ word.toList) ∧
        value = String.intercalate ":" (idText :: words)) ↔
      (value.toList.splitOn ':').map String.ofList = idText :: words :=
    fun {_ _} => (fields_eq_iff (List.cons_ne_nil _ _)).symm
  simp only [hread]
  rw [parseCapabilityScopedAdapter]
  generalize (value.toList.splitOn ':').map String.ofList = fields
  constructor
  · intro h
    split at h
    · rename_i idText kind param rest
      cases huuid : Uuid.parseStr (Utf8.bytes idText.toList) with
      | none =>
        rw [huuid] at h
        cases h
      | some uuid =>
        rw [huuid] at h
        cases hselection : texts.parseSelection value kind param rest with
        | error message =>
          rw [hselection] at h
          cases h
        | ok selection =>
          rw [hselection] at h
          cases h
          exact ⟨idText, _, parseSelection_eq_ok.mp hselection, huuid, rfl⟩
    · cases h
  · rintro ⟨idText, words, hwords, huuid, rfl⟩
    obtain ⟨kind, param, rest, rfl⟩ : ∃ kind param rest, words = kind :: param :: rest := by
      rcases entry with ⟨_, root | ⟨binary, _ | _⟩⟩ <;>
        simp only [AdapterSelection.spellings, List.mem_cons, List.not_mem_nil, or_false] at hwords
      · exact ⟨_, _, _, hwords⟩
      · rcases hwords with h | h <;> exact ⟨_, _, _, h⟩
      · exact ⟨_, _, _, hwords⟩
    have hselection := (@parseSelection_eq_ok texts value _ _ _ _).mpr hwords
    simp only [huuid, hselection]
    rfl

end CommandTexts

end FaLocal
