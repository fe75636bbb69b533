import FaLocal.Library.Calendar
import Mathlib.Data.String.Basic
import Mathlib.Tactic.Linarith
import Mathlib.Tactic.Ring

/-!
# Times as texts

RFC 3339 with a fraction of three, six or nine digits where there is one, and the offset
behind it. The texts of two times compare as their instants do: a fraction goes on with a
digit where a shorter one goes on with the sign of the offset, which is less than any digit.
-/
namespace Rfc3339

open Calendar

/-! ## Digits -/

/-- A number in a width of decimal digits. -/
def digits : Nat → Nat → List Char
  | 0, _ => []
  | w + 1, n => Nat.digitChar (n / 10 ^ w) :: digits w (n % 10 ^ w)

theorem digitChar_lt {n m : Nat} (h : n < m) (hm : m < 10) :
    Nat.digitChar n < Nat.digitChar m := by
  have hall : ∀ m < 10, ∀ n < m, Nat.digitChar n < Nat.digitChar m := by decide
  exact hall m hm n h

theorem plus_lt_digitChar {n : Nat} (h : n < 10) : '+' < Nat.digitChar n := by
  have hall : ∀ n < 10, '+' < Nat.digitChar n := by decide
  exact hall n h

/-- The first digit of a number of a width. -/
theorem div_lt_ten {w n : Nat} (h : n < 10 ^ (w + 1)) : n / 10 ^ w < 10 :=
  Nat.div_lt_of_lt_mul (by rwa [Nat.pow_succ] at h)

/-- Numbers of one width compare as their digits do, whatever follows these. -/
theorem digits_lt {w n m : Nat} (h : n < m) (hm : m < 10 ^ w) (v v' : List Char) :
    digits w n ++ v < digits w m ++ v' := by
  induction w generalizing n m with
  | zero => omega
  | succ w ih =>
    rw [digits, digits, List.cons_append, List.cons_append, List.cons_lt_cons_iff]
    rcases (Nat.div_le_div_right (c := 10 ^ w) h.le).lt_or_eq with hlt | heq
    · exact .inl (digitChar_lt hlt (div_lt_ten hm))
    · refine .inr ⟨congrArg Nat.digitChar heq, ih ?_ (Nat.mod_lt m (Nat.pow_pos (by decide)))⟩
      have hn := Nat.div_add_mod n (10 ^ w)
      have hm := Nat.div_add_mod m (10 ^ w)
      rw [heq] at hn
      omega

/-! ## Fractions -/

/-- Fractions compare by their first digits, and by what is left behind equal ones. -/
theorem first_digits {P Q A B r s : Nat} (hs : s < Q) (h : (P * A + r) * Q < (Q * B + s) * P) :
    A < B ∨ A = B ∧ r * Q < s * P := by
  rcases lt_trichotomy A B with hlt | rfl | hgt
  · exact .inl hlt
  · refine .inr ⟨rfl, ?_⟩
    have hleft : (P * A + r) * Q = Q * A * P + r * Q := by ring
    rw [hleft, Nat.add_mul] at h
    exact Nat.lt_of_add_lt_add_left h
  · have hle : Q * (B + 1) ≤ Q * A := Nat.mul_le_mul_left Q hgt
    have hbelow : Q * B + s ≤ Q * A := by
      rw [Nat.mul_succ] at hle
      omega
    have hcontra : (Q * B + s) * P ≤ (P * A + r) * Q :=
      calc (Q * B + s) * P ≤ Q * A * P := Nat.mul_le_mul_right P hbelow
        _ = P * A * Q := by ring
        _ ≤ (P * A + r) * Q := Nat.mul_le_mul_right Q (Nat.le_add_right _ _)
    exact absurd h (not_lt.mpr hcontra)

/-- Of two decimal fractions the smaller one has the smaller text, if a sign follows both. -/
theorem decimals_lt {p q a b : Nat} (ha : a < 10 ^ p) (hb : b < 10 ^ q)
    (h : a * 10 ^ q < b * 10 ^ p) (v v' : List Char) :
    digits p a ++ '+' :: v < digits q b ++ '+' :: v' := by
  induction p generalizing q a b with
  | zero =>
    cases q with
    | zero => omega
    | succ q =>
      rw [digits, digits, List.nil_append, List.cons_append, List.cons_lt_cons_iff]
      exact .inl (plus_lt_digitChar (div_lt_ten hb))
  | succ p ih =>
    cases q with
    | zero =>
      have hzero : b = 0 := by simpa using hb
      simp [hzero] at h
    | succ q =>
      have hamod : a % 10 ^ p < 10 ^ p := Nat.mod_lt a (Nat.pow_pos (by decide))
      have hbmod : b % 10 ^ q < 10 ^ q := Nat.mod_lt b (Nat.pow_pos (by decide))
      have hparts : (10 ^ p * (a / 10 ^ p) + a % 10 ^ p) * 10 ^ q <
          (10 ^ q * (b / 10 ^ q) + b % 10 ^ q) * 10 ^ p := by
        rw [Nat.div_add_mod, Nat.div_add_mod]
        rw [Nat.pow_succ, Nat.pow_succ, ← Nat.mul_assoc, ← Nat.mul_assoc] at h
        exact Nat.lt_of_mul_lt_mul_right h
      rw [digits, digits, List.cons_append, List.cons_append, List.cons_lt_cons_iff]
      rcases first_digits hbmod hparts with hlt | ⟨heq, hrest⟩
      · exact .inl (digitChar_lt hlt (div_lt_ten hb))
      · exact .inr ⟨congrArg Nat.digitChar heq, ih hamod hbmod hrest⟩

/-- The fraction of a second, in as few groups of three digits as it needs. -/
def fraction (nanosecond : Nat) : List Char :=
  if nanosecond = 0 then []
  else if nanosecond % 1000000 = 0 then '.' :: digits 3 (nanosecond / 1000000)
  else if nanosecond % 1000 = 0 then '.' :: digits 6 (nanosecond / 1000)
  else '.' :: digits 9 nanosecond

/-- A fraction that is there is one of its nanoseconds. -/
theorem fraction_decimals {n : Nat} (hn : n ≠ 0) (hlt : n < 1000000000) :
    ∃ p a, fraction n = '.' :: digits p a ∧ a < 10 ^ p ∧ n * 10 ^ p = a * 1000000000 := by
  rw [fraction, if_neg hn]
  split
  · exact ⟨3, n / 1000000, rfl, by omega, by omega⟩
  · split
    · exact ⟨6, n / 1000, rfl, by omega, by omega⟩
    · exact ⟨9, n, rfl, hlt, rfl⟩

theorem fraction_lt {n m : Nat} (h : n < m) (hm : m < 1000000000) (v v' : List Char) :
    fraction n ++ '+' :: v < fraction m ++ '+' :: v' := by
  obtain ⟨q, b, hfraction, hb, hmb⟩ := fraction_decimals (Nat.ne_zero_of_lt h) hm
  by_cases hn : n = 0
  · rw [hfraction, fraction, if_pos hn, List.nil_append, List.cons_append, List.cons_lt_cons_iff]
    exact .inl (by decide)
  · obtain ⟨p, a, hfraction', ha, hna⟩ := fraction_decimals hn (h.trans hm)
    have hscaled : a * 10 ^ q * 1000000000 < b * 10 ^ p * 1000000000 :=
      calc a * 10 ^ q * 1000000000 = n * 10 ^ p * 10 ^ q := by rw [hna]; ring
        _ < m * 10 ^ p * 10 ^ q := by gcongr
        _ = m * 10 ^ q * 10 ^ p := by ring
        _ = b * 10 ^ p * 1000000000 := by rw [hmb]; ring
    rw [hfraction, hfraction', List.cons_append, List.cons_append, List.cons_lt_cons_iff]
    exact .inr ⟨rfl, decimals_lt ha hb (Nat.lt_of_mul_lt_mul_right hscaled) v v'⟩

/-! ## Texts of times -/

/-- The offset of UTC. -/
def offset : List Char := ['+', '0', '0', ':', '0', '0']

/-- A time with its offset. -/
def text (time : CivilTime) : List Char :=
  digits 4 time.year ++ '-' :: (digits 2 time.month ++ '-' :: (digits 2 time.day ++ 'T' ::
    (digits 2 time.hour ++ ':' :: (digits 2 time.minute ++ ':' :: (digits 2 time.second ++
      (fraction time.nanosecond ++ offset))))))

def toRfc3339 (time : CivilTime) : String := String.ofList (text time)

/-- Numbers decide, or what stands behind equal ones. -/
theorem field_lt {w n m : Nat} {v v' : List Char} (hm : m < 10 ^ w) (h : n < m ∨ n = m ∧ v < v') :
    digits w n ++ v < digits w m ++ v' := by
  rcases h with h | ⟨rfl, h⟩
  · exact digits_lt h hm v v'
  · exact List.append_left_lt h

/-- The same with a separator. -/
theorem separated_lt {w n m : Nat} {c : Char} {v v' : List Char} (hm : m < 10 ^ w)
    (h : n < m ∨ n = m ∧ v < v') : digits w n ++ c :: v < digits w m ++ c :: v' :=
  field_lt hm (h.imp_right (And.imp_right fun h => List.cons_lt_cons_iff.mpr (.inr ⟨rfl, h⟩)))

/-- The text of an earlier time is the smaller one. -/
theorem text_lt {a b : CivilTime} (h : a.fields < b.fields) : text a < text b := by
  simp only [CivilTime.fields, List.cons_lt_cons_iff, List.not_lt_nil, and_false, or_false] at h
  refine separated_lt b.year_lt (h.imp_right (And.imp_right fun h => ?_))
  refine separated_lt (b.month_le.trans_lt (by decide)) (h.imp_right (And.imp_right fun h => ?_))
  refine separated_lt (b.day_le_31.trans_lt (by decide)) (h.imp_right (And.imp_right fun h => ?_))
  refine separated_lt (b.hour_lt.trans (by decide)) (h.imp_right (And.imp_right fun h => ?_))
  refine separated_lt (b.minute_lt.trans (by decide)) (h.imp_right (And.imp_right fun h => ?_))
  refine field_lt (b.second_lt.trans (by decide)) (h.imp_right (And.imp_right fun h => ?_))
  exact fraction_lt h b.nanosecond_lt _ _

theorem toRfc3339_lt {a b : CivilTime} (h : a.fields < b.fields) : toRfc3339 a < toRfc3339 b := by
  rw [String.lt_iff_toList_lt, toRfc3339, toRfc3339, String.toList_ofList, String.toList_ofList]
  exact text_lt h

/-- The texts of two times compare as their instants do. -/
theorem toRfc3339_le_iff (a b : CivilTime) :
    toRfc3339 a ≤ toRfc3339 b ↔ a.instant ≤ b.instant := by
  rcases lt_trichotomy a.fields b.fields with hlt | heq | hgt
  · exact iff_of_true (toRfc3339_lt hlt).le (CivilTime.instant_lt hlt).le
  · rw [CivilTime.fields_inj heq]
    exact iff_of_true le_rfl le_rfl
  · exact iff_of_false (not_le.mpr (toRfc3339_lt hgt)) (not_le.mpr (CivilTime.instant_lt hgt))

example : toRfc3339 (CivilTime.ofInstant 1893456630500000000 (by decide)) =
    "2030-01-01T00:10:30.500+00:00" := by decide +kernel

end Rfc3339
