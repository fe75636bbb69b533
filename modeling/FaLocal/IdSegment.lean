import FaLocal.DecisionSchema
import FaLocal.Library.Utf8

/-!
# Identifiers in paths

`parse_capability_id_segment` reads the hyphenated form of a UUID. Segments of any
other form are no identifiers; versions and variants are not looked at.
-/
namespace FaLocal

/-- `u8::is_ascii_hexdigit` -/
def isAsciiHexdigit (byte : UInt8) : Bool :=
  (48 ≤ byte && byte ≤ 57) || (97 ≤ byte && byte ≤ 102) || (65 ≤ byte && byte ≤ 70)

def hexValue (byte : UInt8) : Option UInt8 :=
  if 48 ≤ byte && byte ≤ 57 then some (byte - 48)
  else if 97 ≤ byte && byte ≤ 102 then some (byte - 87)
  else if 65 ≤ byte && byte ≤ 70 then some (byte - 55)
  else none

/-- Two digits are a byte. -/
def decodeHex : List UInt8 → Option (List UInt8)
  | [] => some []
  | high :: low :: rest => do
    let h ← hexValue high
    let l ← hexValue low
    let bytes ← decodeHex rest
    return (h * 16 + l) :: bytes
  | [_] => none

def hyphenPlaces : List Nat := [8, 13, 18, 23]

/-- `Uuid::parse_str` on 36 bytes, which are read in the hyphenated form. -/
def Uuid.parseHyphenated (text : List UInt8) : Option Uuid :=
  if hyphenPlaces.all fun place => text[place]? == some 45 then do
    let bytes ← decodeHex (text.take 8 ++ ((text.drop 9).take 4 ++ ((text.drop 14).take 4 ++
      ((text.drop 19).take 4 ++ (text.drop 24).take 12))))
    if h : bytes.length = 16 then some ⟨⟨bytes.toArray, by simpa using h⟩⟩ else none
  else none

/-- The check of the byte at a place. -/
def segmentByte (index : Nat) (byte : UInt8) : Bool :=
  if hyphenPlaces.contains index then byte == 45 else isAsciiHexdigit byte

def parseCapabilityIdSegment (segment : String) : Option CapabilityId :=
  let bytes := Utf8.bytes segment.toList
  if bytes.length ≠ 36 then none
  else if bytes.zipIdx.all fun entry => segmentByte entry.2 entry.1 then
    (Uuid.parseHyphenated bytes).map UuidId.mk
  else none

/-- The characters of an identifier in a path. -/
def segmentShape : List (Char → Bool) :=
  let hex := fun n => List.replicate n isHex
  let hyphen := fun c : Char => c == '-'
  hex 8 ++ hyphen :: hex 4 ++ hyphen :: hex 4 ++ hyphen :: hex 4 ++ hyphen :: hex 12

/-- A segment that names an identifier. -/
def IsIdSegment (segment : String) : Prop := matchesShape segmentShape segment.toList = true

instance : DecidablePred IsIdSegment := fun segment =>
  inferInstanceAs (Decidable (matchesShape segmentShape segment.toList = true))

/-! ## The form -/

/-- The check of the character at a place. -/
def segmentChar (index : Nat) (c : Char) : Bool :=
  if hyphenPlaces.contains index then c == '-' else isHex c

theorem segmentShape_eq : segmentShape = (List.range' 0 36).map segmentChar := rfl

theorem matchesShape_range (check : Nat → Char → Bool) (n first : Nat) (text : List Char) :
    matchesShape ((List.range' first n).map check) text = true ↔
      text.length = n ∧ ∀ entry ∈ text.zipIdx first, check entry.2 entry.1 = true := by
  induction n generalizing first text with
  | zero => cases text <;> simp [matchesShape]
  | succ n ih =>
    cases text with
    | nil => simp [matchesShape, List.range'_succ]
    | cons c rest =>
      simp only [List.range'_succ, List.map_cons, matchesShape, Bool.and_eq_true, ih,
        List.zipIdx_cons, List.mem_cons, forall_eq_or_imp, List.length_cons, Nat.add_right_cancel_iff]
      tauto

theorem isIdSegment_iff (segment : String) :
    IsIdSegment segment ↔ segment.toList.length = 36 ∧
      ∀ entry ∈ segment.toList.zipIdx, segmentChar entry.2 entry.1 = true := by
  rw [IsIdSegment, segmentShape_eq, matchesShape_range]

theorem exists_mem_zipIdx {β : Type} {b : β} {l : List β} (h : b ∈ l) :
    ∃ index, (b, index) ∈ l.zipIdx := by
  obtain ⟨index, hindex⟩ := List.getElem?_of_mem h
  exact ⟨index, List.mk_mem_zipIdx_iff_getElem?.mpr hindex⟩

/-- An identifier's segment is one segment. -/
theorem IsIdSegment.single {segment : String} (h : IsIdSegment segment) :
    ¬ (segment = "" ∨ '/' ∈ segment.toList) := by
  obtain ⟨hlength, hchars⟩ := (isIdSegment_iff segment).mp h
  rintro (rfl | hslash)
  · simp at hlength
  · obtain ⟨index, hindex⟩ := exists_mem_zipIdx hslash
    have hchar := hchars _ hindex
    rw [segmentChar] at hchar
    split at hchar
    · cases hchar
    · cases hchar

/-! ## Bytes and characters -/

theorem ascii_checks : ∀ n < 128, isAsciiHexdigit (UInt8.ofNat n) = isHex (Char.ofNat n) ∧
    (UInt8.ofNat n == 45) = (Char.ofNat n == '-') := by decide

theorem segmentByte_ofNat (index : Nat) {c : Char} (h : c.toNat < 128) :
    segmentByte index (UInt8.ofNat c.toNat) = segmentChar index c := by
  obtain ⟨hhex, hhyphen⟩ := ascii_checks c.toNat h
  rw [Char.ofNat_toNat] at hhex hhyphen
  rw [segmentByte, segmentChar, hhex, hhyphen]

theorem isAsciiHexdigit_lt {byte : UInt8} (h : isAsciiHexdigit byte = true) :
    byte.toNat < 128 := by
  have h9 : (57 : UInt8).toNat = 57 := rfl
  have hf : (102 : UInt8).toNat = 102 := rfl
  have hF : (70 : UInt8).toNat = 70 := rfl
  simp only [isAsciiHexdigit, Bool.or_eq_true, Bool.and_eq_true, decide_eq_true_eq,
    UInt8.le_iff_toNat_le] at h
  omega

theorem segmentByte_lt {index : Nat} {byte : UInt8} (h : segmentByte index byte = true) :
    byte.toNat < 128 := by
  rw [segmentByte] at h
  split at h
  · rw [eq_of_beq h]
    decide
  · exact isAsciiHexdigit_lt h

theorem isHex_lt {c : Char} (h : isHex c = true) : c.toNat < 128 := by
  have h9 : '9'.toNat = 57 := rfl
  have hf : 'f'.toNat = 102 := rfl
  have hF : 'F'.toNat = 70 := rfl
  simp only [isHex, Char.isDigit, Bool.or_eq_true, Bool.and_eq_true, decide_eq_true_eq,
    Char.le_def, ge_iff_le, UInt32.le_iff_toNat_le, Char.toNat_val] at h
  have hdigit : (57 : UInt32).toNat = 57 := rfl
  omega

theorem segmentChar_lt {index : Nat} {c : Char} (h : segmentChar index c = true) :
    c.toNat < 128 := by
  rw [segmentChar] at h
  split at h
  · rw [eq_of_beq h]
    decide
  · exact isHex_lt h

/-- The checks of the bytes are those of the characters. -/
theorem segmentBytes_iff (text : List Char) :
    ((Utf8.bytes text).length = 36 ∧
      ∀ entry ∈ (Utf8.bytes text).zipIdx, segmentByte entry.2 entry.1 = true) ↔
    text.length = 36 ∧ ∀ entry ∈ text.zipIdx, segmentChar entry.2 entry.1 = true := by
  have hchecks : (∀ c ∈ text, c.toNat < 128) →
      ((∀ entry ∈ (text.map fun c => UInt8.ofNat c.toNat).zipIdx,
        segmentByte entry.2 entry.1 = true) ↔
      ∀ entry ∈ text.zipIdx, segmentChar entry.2 entry.1 = true) := by
    intro hascii
    rw [List.zipIdx_map]
    simp only [List.mem_map, forall_exists_index, and_imp, forall_apply_eq_imp_iff₂]
    refine forall₂_congr fun entry hentry => ?_
    rw [Prod.map_fst, Prod.map_snd, id_eq,
      segmentByte_ofNat _ (hascii entry.1 (List.fst_mem_of_mem_zipIdx hentry))]
  constructor
  · rintro ⟨hlength, hbytes⟩
    have hascii : ∀ c ∈ text, c.toNat < 128 := by
      apply Utf8.ascii_of_bytes
      intro b hb
      obtain ⟨index, hindex⟩ := exists_mem_zipIdx hb
      exact segmentByte_lt (hbytes _ hindex)
    rw [Utf8.bytes_ascii hascii] at hlength hbytes
    exact ⟨by simpa using hlength, (hchecks hascii).mp hbytes⟩
  · rintro ⟨hlength, hchars⟩
    have hascii : ∀ c ∈ text, c.toNat < 128 := by
      intro c hc
      obtain ⟨index, hindex⟩ := exists_mem_zipIdx hc
      exact segmentChar_lt (hchars _ hindex)
    rw [Utf8.bytes_ascii hascii]
    exact ⟨by simpa using hlength, (hchecks hascii).mpr hchars⟩

/-! ## The identifier -/

theorem hexValue_isSome {byte : UInt8} : (hexValue byte).isSome = isAsciiHexdigit byte := by
  unfold hexValue isAsciiHexdigit
  split
  · simp_all
  · split
    · simp_all
    · split <;> simp_all

/-- Digits in pairs are decoded. -/
theorem decodeHex_some (n : Nat) {digits : List UInt8} (hlength : digits.length = 2 * n)
    (h : ∀ b ∈ digits, isAsciiHexdigit b = true) :
    ∃ bytes, decodeHex digits = some bytes ∧ bytes.length = n := by
  induction n generalizing digits with
  | zero => exact ⟨[], by rw [List.length_eq_zero_iff.mp hlength]; rfl, rfl⟩
  | succ n ih =>
    rcases digits with _ | ⟨high, _ | ⟨low, rest⟩⟩
    · simp at hlength
    · simp only [List.length_singleton] at hlength
      omega
    · have hrest : rest.length = 2 * n := by
        simp only [List.length_cons] at hlength
        omega
      obtain ⟨bytes, hbytes, hn⟩ := ih hrest fun b hb => h b (by simp [hb])
      obtain ⟨hi, hhigh⟩ := Option.isSome_iff_exists.mp
        (hexValue_isSome.trans (h high (by simp)))
      obtain ⟨lo, hlow⟩ := Option.isSome_iff_exists.mp (hexValue_isSome.trans (h low (by simp)))
      exact ⟨(hi * 16 + lo) :: bytes, by simp [decodeHex, hhigh, hlow, hbytes], by simp [hn]⟩

/-- A part of the bytes without a hyphen. -/
theorem digits_of_part {bytes : List UInt8} {first n : Nat}
    (h : ∀ entry ∈ bytes.zipIdx, segmentByte entry.2 entry.1 = true)
    (hplaces : ∀ i, first ≤ i → i < first + n → hyphenPlaces.contains i = false) :
    ∀ b ∈ (bytes.drop first).take n, isAsciiHexdigit b = true := by
  intro b hb
  obtain ⟨i, hi⟩ := List.getElem?_of_mem hb
  have hlt : i < n := by
    have hlen := (List.getElem?_eq_some_iff.mp hi).1
    exact hlen.trans_le (List.length_take_le n _)
  rw [List.getElem?_take_of_lt hlt, List.getElem?_drop] at hi
  have hbyte := h (b, first + i) (List.mk_mem_zipIdx_iff_getElem?.mpr hi)
  rwa [segmentByte, hplaces (first + i) (by omega) (by omega)] at hbyte

theorem parseHyphenated_some {bytes : List UInt8} (hlength : bytes.length = 36)
    (h : ∀ entry ∈ bytes.zipIdx, segmentByte entry.2 entry.1 = true) :
    ∃ u, Uuid.parseHyphenated bytes = some u := by
  have hhyphens : hyphenPlaces.all (fun place => bytes[place]? == some 45) = true := by
    rw [List.all_eq_true]
    intro place hplace
    have hlt : place < bytes.length := by
      simp only [hyphenPlaces, List.mem_cons, List.not_mem_nil, or_false] at hplace
      omega
    have hbyte := h (bytes[place], place)
      (List.mk_mem_zipIdx_iff_getElem?.mpr (List.getElem?_eq_getElem hlt))
    rw [segmentByte, List.contains_iff_mem.mpr hplace, if_pos rfl] at hbyte
    simpa [List.getElem?_eq_getElem hlt] using hbyte
  have hpart : ∀ first n, (∀ i, first ≤ i → i < first + n → hyphenPlaces.contains i = false) →
      ∀ b ∈ (bytes.drop first).take n, isAsciiHexdigit b = true := by
    intro first n
    exact digits_of_part h
  have hdigits : ∀ b ∈ bytes.take 8 ++ ((bytes.drop 9).take 4 ++ ((bytes.drop 14).take 4 ++
      ((bytes.drop 19).take 4 ++ (bytes.drop 24).take 12))), isAsciiHexdigit b = true := by
    simp only [List.mem_append]
    rintro b (hb | hb | hb | hb | hb)
    · refine hpart 0 8 ?_ b (by simpa using hb)
      decide
    · exact hpart 9 4 (by decide) b hb
    · exact hpart 14 4 (by decide) b hb
    · exact hpart 19 4 (by decide) b hb
    · exact hpart 24 12 (by decide) b hb
  obtain ⟨decoded, hdecoded, hsize⟩ := decodeHex_some 16
    (by simp [hlength]) hdigits
  simp [Uuid.parseHyphenated, hhyphens, hdecoded, hsize]

/-- The identifiers of paths are the segments of the form. -/
theorem parseCapabilityIdSegment_isSome (segment : String) :
    (parseCapabilityIdSegment segment).isSome = true ↔ IsIdSegment segment := by
  rw [isIdSegment_iff, ← segmentBytes_iff]
  by_cases hlength : (Utf8.bytes segment.toList).length = 36
  · by_cases hbytes : ((Utf8.bytes segment.toList).zipIdx.all fun entry =>
        segmentByte entry.2 entry.1) = true
    · have hchecks := List.all_eq_true.mp hbytes
      obtain ⟨u, hu⟩ := parseHyphenated_some hlength hchecks
      simp only [parseCapabilityIdSegment, hlength, ne_eq, not_true_eq_false, if_false, hbytes,
        if_true, hu, Option.map_some, Option.isSome_some, true_and]
      exact iff_of_true trivial hchecks
    · have hnone : parseCapabilityIdSegment segment = none := by
        simp only [parseCapabilityIdSegment, hlength, ne_eq, not_true_eq_false, if_false, hbytes]
        rfl
      rw [hnone]
      refine iff_of_false (by simp) ?_
      rintro ⟨-, hall⟩
      exact hbytes (List.all_eq_true.mpr hall)
  · simp [parseCapabilityIdSegment, hlength]

end FaLocal
