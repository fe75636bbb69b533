import FaLocal.IdSegment

/-!
# Identifiers read back

The text of an identifier in a contract is read in the hyphenated form. What is read prints
as that text in lower case, so that a printed identifier is read back.
-/
namespace FaLocal

/-- `Uuid::parse_str`; of the forms that it takes, the schemas let only the hyphenated one
through. -/
def UuidId.ofText {k : IdKind} (text : String) : Option (UuidId k) :=
  let bytes := Utf8.bytes text.toList
  if bytes.length = 36 then (Uuid.parseHyphenated bytes).map UuidId.mk else none

/-! ## Digits -/

/-- The character of a byte below 128, in lower case. -/
def lowerChar (byte : UInt8) : Char := (Char.ofNat byte.toNat).toLower

theorem hexValue_digits : ∀ n < 256, (hexValue (UInt8.ofNat n)).all (fun value =>
    decide (value.toNat < 16) && Nat.digitChar value.toNat == lowerChar (UInt8.ofNat n)) = true := by
  decide +kernel

theorem hexValue_digit {byte value : UInt8} (h : hexValue byte = some value) :
    value.toNat < 16 ∧ Nat.digitChar value.toNat = lowerChar byte := by
  have hdigits := hexValue_digits byte.toNat byte.toNat_lt
  rw [UInt8.ofNat_toNat, h] at hdigits
  simpa using hdigits

/-- What is decoded prints as the digits. -/
theorem hexBytes_of_decodeHex {digits bytes : List UInt8} (h : decodeHex digits = some bytes) :
    bytes.flatMap hexByte = digits.map lowerChar := by
  induction digits using decodeHex.induct generalizing bytes with
  | case1 =>
    cases h
    rfl
  | case2 high low rest ih =>
    simp only [decodeHex, Option.bind_eq_bind, Option.bind_eq_some_iff, Option.pure_def,
      Option.some.injEq] at h
    obtain ⟨hi, hhigh, lo, hlow, decoded, hdecoded, rfl⟩ := h
    obtain ⟨hhi, hhighChar⟩ := hexValue_digit hhigh
    obtain ⟨hlo, hlowChar⟩ := hexValue_digit hlow
    have hbyte : (hi * 16 + lo).toNat = hi.toNat * 16 + lo.toNat := by
      have h16 : (16 : UInt8).toNat = 16 := rfl
      rw [UInt8.toNat_add, UInt8.toNat_mul, h16]
      omega
    have hdiv : (hi.toNat * 16 + lo.toNat) / 16 = hi.toNat := by omega
    have hmod : (hi.toNat * 16 + lo.toNat) % 16 = lo.toNat := by omega
    rw [List.flatMap_cons, ih hdecoded, hexByte, hbyte, hdiv, hmod, hhighChar, hlowChar]
    rfl
  | case3 => cases h

/-! ## Shapes -/

theorem matchesShape_append {shape shape' : List (Char → Bool)} {l l' : List Char}
    (h : shape.length = l.length) : matchesShape (shape ++ shape') (l ++ l') =
      (matchesShape shape l && matchesShape shape' l') := by
  induction shape generalizing l with
  | nil =>
    rw [List.length_eq_zero_iff.mp h.symm]
    rfl
  | cons check shape ih =>
    cases l with
    | nil => cases h
    | cons c rest =>
      simp only [List.cons_append, matchesShape, ih (Nat.succ.inj h), Bool.and_assoc]

theorem matchesShape_replicate {n : Nat} {check : Char → Bool} {l : List Char} :
    matchesShape (List.replicate n check) l = true ↔
      l.length = n ∧ ∀ c ∈ l, check c = true := by
  induction n generalizing l with
  | zero => cases l <;> simp [matchesShape]
  | succ n ih =>
    cases l with
    | nil => simp [matchesShape, List.replicate_succ]
    | cons c rest =>
      simp only [List.replicate_succ, matchesShape, Bool.and_eq_true, ih, List.length_cons,
        Nat.add_right_cancel_iff, List.forall_mem_cons]
      tauto

/-- A shape is kept by what keeps its checks. -/
theorem matchesShape_map {shape : List (Char → Bool)} {f : Char → Char} {l : List Char}
    (hf : ∀ check ∈ shape, ∀ c, check c = true → check (f c) = true)
    (h : matchesShape shape l = true) : matchesShape shape (l.map f) = true := by
  induction shape generalizing l with
  | nil =>
    cases l with
    | nil => rfl
    | cons c rest => cases h
  | cons check shape ih =>
    cases l with
    | nil => cases h
    | cons c rest =>
      simp only [matchesShape, Bool.and_eq_true] at h
      rw [List.map_cons, matchesShape, hf check List.mem_cons_self c h.1,
        ih (fun p hp => hf p (List.mem_cons_of_mem _ hp)) h.2]
      rfl

theorem matchesShape_mem {shape : List (Char → Bool)} {l : List Char} {c : Char}
    (h : matchesShape shape l = true) (hc : c ∈ l) : ∃ check ∈ shape, check c = true := by
  induction shape generalizing l with
  | nil =>
    cases l with
    | nil => cases hc
    | cons d rest => cases h
  | cons check shape ih =>
    cases l with
    | nil => cases h
    | cons d rest =>
      simp only [matchesShape, Bool.and_eq_true] at h
      rcases List.mem_cons.mp hc with rfl | hc
      · exact ⟨check, List.mem_cons_self, h.1⟩
      · obtain ⟨p, hp, hcheck⟩ := ih h.2 hc
        exact ⟨p, List.mem_cons_of_mem _ hp, hcheck⟩

/-! ## What is read -/

/-- A part, the byte behind it and what follows. -/
theorem drop_part {l : List UInt8} {i n : Nat} {b : UInt8} (h : l[i + n]? = some b) :
    l.drop i = (l.drop i).take n ++ b :: l.drop (i + n + 1) := by
  obtain ⟨hlt, hb⟩ := List.getElem?_eq_some_iff.mp h
  rw [← hb, ← List.drop_eq_getElem_cons hlt, ← List.drop_drop, List.take_append_drop]

theorem parseHyphenated_eq_some {text : List UInt8} {u : Uuid}
    (h : Uuid.parseHyphenated text = some u) :
    (∀ place ∈ hyphenPlaces, text[place]? = some 45) ∧
      decodeHex (text.take 8 ++ ((text.drop 9).take 4 ++ ((text.drop 14).take 4 ++
        ((text.drop 19).take 4 ++ (text.drop 24).take 12)))) = some u.bytes.toList := by
  rw [Uuid.parseHyphenated] at h
  split at h
  · rename_i hhyphens
    simp only [Option.bind_eq_bind, Option.bind_eq_some_iff] at h
    obtain ⟨bytes, hbytes, h⟩ := h
    split at h
    · cases h
      refine ⟨fun place hplace => ?_, by simpa using hbytes⟩
      simpa using List.all_eq_true.mp hhyphens place hplace
    · cases h
  · cases h

/-- An identifier that is read prints as its text in lower case. -/
theorem hyphenated_of_parse {text : List UInt8} {u : Uuid} (hlength : text.length = 36)
    (h : Uuid.parseHyphenated text = some u) : u.hyphenated = text.map lowerChar := by
  obtain ⟨hhyphens, hdigits⟩ := parseHyphenated_eq_some h
  have hhex := hexBytes_of_decodeHex hdigits
  rw [u.bytes_parts] at hhex
  simp only [List.flatMap_append, List.map_append] at hhex
  have hpart : ∀ i n j m, m = 2 * n → i + n ≤ 16 → j + m ≤ 36 →
      (((u.bytes.toList.drop i).take n).flatMap hexByte).length =
        (((text.drop j).take m).map lowerChar).length := by
    intro i n j m hm hi hj
    simp only [flatMap_hexByte_length, List.length_map, List.length_take, List.length_drop,
      Vector.length_toList, hlength]
    omega
  obtain ⟨h₀, hhex⟩ := List.append_inj hhex (hpart 0 4 0 8 rfl (by decide) (by decide))
  obtain ⟨h₁, hhex⟩ := List.append_inj hhex (hpart 4 2 9 4 rfl (by decide) (by decide))
  obtain ⟨h₂, hhex⟩ := List.append_inj hhex (hpart 6 2 14 4 rfl (by decide) (by decide))
  obtain ⟨h₃, h₄⟩ := List.append_inj hhex (hpart 8 2 19 4 rfl (by decide) (by decide))
  have htext : text = text.take 8 ++ 45 :: ((text.drop 9).take 4 ++ 45 :: ((text.drop 14).take 4 ++
      45 :: ((text.drop 19).take 4 ++ 45 :: (text.drop 24).take 12))) := by
    have hlast : (text.drop 24).take 12 = text.drop 24 :=
      List.take_of_length_le (by simp [hlength])
    rw [hlast, ← drop_part (hhyphens 23 (by decide)), ← drop_part (hhyphens 18 (by decide)),
      ← drop_part (hhyphens 13 (by decide))]
    exact drop_part (i := 0) (n := 8) (hhyphens 8 (by decide))
  have hyphen : lowerChar 45 = '-' := by decide
  rw [htext]
  simp only [List.map_append, List.map_cons, hyphen, Uuid.hyphenated, List.drop_zero, h₀, h₁, h₂,
    h₃, h₄]

/-- Of a text of characters below 128 that is the text in lower case. -/
theorem hyphenated_of_parse_ascii {text : List Char} {u : Uuid} (hascii : ∀ c ∈ text, c.toNat < 128)
    (hlength : (Utf8.bytes text).length = 36)
    (h : Uuid.parseHyphenated (Utf8.bytes text) = some u) :
    u.hyphenated = text.map Char.toLower := by
  rw [hyphenated_of_parse hlength h, Utf8.bytes_ascii hascii, List.map_map]
  refine List.map_congr_left fun c hc => ?_
  have hbyte : (UInt8.ofNat c.toNat).toNat = c.toNat :=
    UInt8.toNat_ofNat_of_lt' ((hascii c hc).trans (by decide))
  rw [Function.comp_apply, lowerChar, hbyte, Char.ofNat_toNat]

theorem ofText_eq_some {k : IdKind} {text : String} {i : UuidId k}
    (h : UuidId.ofText text = some i) : (Utf8.bytes text.toList).length = 36 ∧
      Uuid.parseHyphenated (Utf8.bytes text.toList) = some i.uuid := by
  rw [UuidId.ofText] at h
  split at h
  · rename_i hlength
    obtain ⟨u, hu, rfl⟩ := Option.map_eq_some_iff.mp h
    exact ⟨hlength, hu⟩
  · cases h

/-! ## Printed identifiers -/

theorem hexDigits_checks : hexDigits.all (fun c =>
    isHex c && decide (c.toNat < 128) && c.toLower == c) = true := by
  decide +kernel

theorem hexDigit_check {c : Char} (h : c ∈ hexDigits) :
    isHex c = true ∧ c.toNat < 128 ∧ c.toLower = c := by
  simpa [and_assoc] using List.all_eq_true.mp hexDigits_checks c h

theorem hyphenated_check {u : Uuid} {c : Char} (h : c ∈ u.hyphenated) :
    c.toNat < 128 ∧ c.toLower = c := by
  rcases mem_hyphenated h with rfl | h
  · exact ⟨by decide, by decide⟩
  · exact (hexDigit_check h).2

/-- A printed identifier has the form of the identifiers in paths. -/
theorem hyphenated_shape (u : Uuid) : matchesShape segmentShape u.hyphenated = true := by
  have hlength : ∀ i n, i + n ≤ 16 →
      (((u.bytes.toList.drop i).take n).flatMap hexByte).length = 2 * n := by
    intro i n h
    simp only [flatMap_hexByte_length, List.length_take, List.length_drop, Vector.length_toList]
    omega
  have hpart : ∀ i n, i + n ≤ 16 → matchesShape (List.replicate (2 * n) isHex)
      (((u.bytes.toList.drop i).take n).flatMap hexByte) = true := by
    intro i n h
    refine matchesShape_replicate.mpr ⟨hlength i n h, fun c hc => ?_⟩
    obtain ⟨b, -, hb⟩ := List.mem_flatMap.mp hc
    exact (hexDigit_check (mem_hexByte hb)).1
  have hstep : ∀ i n, i + n ≤ 16 → ∀ shape rest, matchesShape shape rest = true →
      matchesShape (List.replicate (2 * n) isHex ++ (fun c : Char => c == '-') :: shape)
        (((u.bytes.toList.drop i).take n).flatMap hexByte ++ '-' :: rest) = true := by
    intro i n h shape rest hrest
    rw [matchesShape_append (by rw [hlength i n h, List.length_replicate]), hpart i n h]
    exact hrest
  refine hstep 0 4 (by decide) _ _ (hstep 4 2 (by decide) _ _ (hstep 6 2 (by decide) _ _
    (hstep 8 2 (by decide) _ _ (hpart 10 6 (by decide)))))

/-- A printed identifier is read back. -/
theorem UuidId.ofText_display {k : IdKind} (i : UuidId k) : UuidId.ofText i.display = some i := by
  have hascii : ∀ c ∈ i.uuid.hyphenated, c.toNat < 128 := fun c hc => (hyphenated_check hc).1
  have hsegment : IsIdSegment i.display := by
    rw [IsIdSegment, UuidId.display, String.toList_ofList]
    exact hyphenated_shape i.uuid
  obtain ⟨hlength, hbytes⟩ := (segmentBytes_iff _).mpr ((isIdSegment_iff _).mp hsegment)
  obtain ⟨u, hu⟩ := parseHyphenated_some hlength hbytes
  have hread : UuidId.ofText i.display = some (⟨u⟩ : UuidId k) := by
    rw [UuidId.ofText, if_pos hlength, hu]
    rfl
  rw [UuidId.display, String.toList_ofList] at hlength hu
  have hlower : u.hyphenated = i.uuid.hyphenated := by
    rw [hyphenated_of_parse_ascii hascii hlength hu]
    exact (List.map_congr_left fun c hc => (hyphenated_check hc).2).trans (List.map_id _)
  rw [hread, hyphenated_inj hlower]

theorem isHex_toLower {c : Char} (h : isHex c = true) : isHex c.toLower = true := by
  have hall : ((List.range 128).all fun n =>
      !isHex (Char.ofNat n) || isHex (Char.ofNat n).toLower) = true := by
    decide +kernel
  have hc := List.all_eq_true.mp hall c.toNat (List.mem_range.mpr (isHex_lt h))
  rw [Char.ofNat_toNat, h] at hc
  simpa using hc

/-- The checks of the pattern pass hexadecimal digits and hyphens only, and they pass
these in lower case as well. -/
theorem uuidShape_check {check : Char → Bool} (hcheck : check ∈ uuidShape) {c : Char}
    (hc : check c = true) : c.toNat < 128 ∧ check c.toLower = true := by
  have hhyphen : c = '-' → c.toNat < 128 ∧ (c.toLower == '-') = true := by
    rintro rfl
    exact ⟨by decide, by decide⟩
  have hdigit : '1' ≤ c → c ≤ '5' → c ∈ ['1', '2', '3', '4', '5'] := by
    intro h₁ h₅
    have h₁ := Char.le_def.mp h₁
    have h₅ := Char.le_def.mp h₅
    rw [← Char.ofNat_toNat c]
    have hle : 49 ≤ c.toNat := h₁
    have hge : c.toNat ≤ 53 := h₅
    generalize c.toNat = n at hle hge
    interval_cases n <;> decide
  simp only [uuidShape, List.mem_append, List.mem_cons, List.mem_replicate, List.cons_append,
    List.append_assoc] at hcheck
  rcases hcheck with ⟨-, rfl⟩ | rfl | ⟨-, rfl⟩ | rfl | rfl | ⟨-, rfl⟩ | rfl | rfl | ⟨-, rfl⟩ |
    rfl | ⟨-, rfl⟩
  all_goals first
    | exact ⟨isHex_lt hc, isHex_toLower hc⟩
    | exact hhyphen (by simpa using hc)
    | skip
  · simp only [Bool.and_eq_true, decide_eq_true_eq] at hc
    have hmem := hdigit hc.1 hc.2
    simp only [List.mem_cons, List.not_mem_nil, or_false] at hmem
    rcases hmem with rfl | rfl | rfl | rfl | rfl <;> exact ⟨by decide, by decide⟩
  · simp only [List.contains_iff_mem, List.mem_cons, List.not_mem_nil, or_false] at hc
    rcases hc with rfl | rfl | rfl | rfl | rfl | rfl <;> exact ⟨by decide, by decide⟩

/-- The identifiers that are read from texts of the pattern print in the pattern. -/
theorem UuidId.ofText_versioned {k : IdKind} {text : String} {i : UuidId k}
    (h : UuidId.ofText text = some i) (htext : isUuidText text = true) : i.Versioned := by
  obtain ⟨hlength, hread⟩ := ofText_eq_some h
  have hascii : ∀ c ∈ text.toList, c.toNat < 128 := by
    intro c hc
    obtain ⟨check, hcheck, hpass⟩ := matchesShape_mem htext hc
    exact (uuidShape_check hcheck hpass).1
  have hlower := hyphenated_of_parse_ascii hascii hlength hread
  rw [UuidId.Versioned, isUuidText, UuidId.display, String.toList_ofList, hlower]
  exact matchesShape_map (fun check hcheck c hc => (uuidShape_check hcheck hc).2) htext

end FaLocal
