import Mathlib.Tactic.Common

/-!
# Texts and their bytes

A character below 128 is one byte, and every other one has a byte from 128 on. A check of
bytes that passes no byte from 128 on is thus a check of characters.
-/
namespace Utf8

/-- The bytes of a text in UTF-8. -/
def bytes (text : List Char) : List UInt8 := text.flatMap String.utf8EncodeChar

theorem bytes_eq_nil {text : List Char} : bytes text = [] ↔ text = [] := by
  cases text <;> simp [bytes]

theorem size_toUTF8 (text : List Char) :
    (String.ofList text).toUTF8.size = (bytes text).length := by
  have hencode : (String.ofList text).toUTF8 = (bytes text).toByteArray :=
    String.toByteArray_ofList
  rw [hencode, List.size_toByteArray]

/-- A text is determined by its bytes. -/
theorem bytes_injective : Function.Injective bytes := by
  intro text text' h
  have hencode : text.utf8Encode = text'.utf8Encode := congrArg List.toByteArray h
  rw [← String.toByteArray_ofList, ← String.toByteArray_ofList, String.toByteArray_inj] at hencode
  exact String.ofList_injective hencode

theorem encode_ascii {c : Char} (h : c.toNat < 128) :
    String.utf8EncodeChar c = [UInt8.ofNat c.toNat] := by
  have hc : c.val.toNat ≤ 127 := Nat.le_of_lt_succ h
  simp only [String.utf8EncodeChar, hc, if_true]
  rfl

/-- Every byte of another character is from 128 on. -/
theorem le_of_mem_encode {c : Char} (h : 128 ≤ c.toNat) {b : UInt8}
    (hb : b ∈ String.utf8EncodeChar c) : 128 ≤ b.toNat := by
  have hc : ¬ c.val.toNat ≤ 127 := Nat.not_le.mpr h
  simp only [String.utf8EncodeChar, hc, if_false] at hb
  split at hb
  · simp only [List.mem_cons, List.not_mem_nil, or_false] at hb
    rcases hb with rfl | rfl <;> simp <;> omega
  · split at hb
    · simp only [List.mem_cons, List.not_mem_nil, or_false] at hb
      rcases hb with rfl | rfl | rfl <;> simp <;> omega
    · simp only [List.mem_cons, List.not_mem_nil, or_false] at hb
      rcases hb with rfl | rfl | rfl | rfl <;> simp <;> omega

theorem encode_other {c : Char} (h : 128 ≤ c.toNat) :
    ∃ b ∈ String.utf8EncodeChar c, 128 ≤ b.toNat := by
  cases hbytes : String.utf8EncodeChar c with
  | nil => exact absurd hbytes (by simp)
  | cons b rest =>
    have hb : b ∈ String.utf8EncodeChar c := hbytes ▸ List.mem_cons_self
    exact ⟨b, List.mem_cons_self, le_of_mem_encode h hb⟩

theorem bytes_ascii {text : List Char} (h : ∀ c ∈ text, c.toNat < 128) :
    bytes text = text.map fun c => UInt8.ofNat c.toNat := by
  induction text with
  | nil => rfl
  | cons c rest ih =>
    have hrest := ih fun d hd => h d (List.mem_cons_of_mem c hd)
    rw [bytes, List.flatMap_cons, encode_ascii (h c List.mem_cons_self), ← bytes, hrest]
    rfl

theorem ascii_of_bytes {text : List Char} (h : ∀ b ∈ bytes text, b.toNat < 128) :
    ∀ c ∈ text, c.toNat < 128 := by
  intro c hc
  by_contra hother
  obtain ⟨b, hb, hle⟩ := encode_other (Nat.not_lt.mp hother)
  have hlt := h b (List.mem_flatMap.mpr ⟨c, hc, hb⟩)
  omega

/-- A byte below 128 stands for its character. -/
theorem mem_bytes_ascii {text : List Char} {c : Char} (h : c.toNat < 128) :
    UInt8.ofNat c.toNat ∈ bytes text ↔ c ∈ text := by
  rw [bytes, List.mem_flatMap]
  constructor
  · rintro ⟨d, hd, hb⟩
    have hof : (UInt8.ofNat c.toNat).toNat = c.toNat := by
      rw [UInt8.toNat_ofNat']
      omega
    by_cases hlow : d.toNat < 128
    · rw [encode_ascii hlow, List.mem_singleton] at hb
      have hnat := congrArg UInt8.toNat hb
      rw [hof, UInt8.toNat_ofNat', Nat.mod_eq_of_lt (by omega)] at hnat
      rwa [Char.toNat_inj.mp hnat]
    · have hle := le_of_mem_encode (Nat.not_lt.mp hlow) hb
      omega
  · intro hc
    exact ⟨c, hc, by rw [encode_ascii h]; exact List.mem_cons_self⟩

end Utf8
