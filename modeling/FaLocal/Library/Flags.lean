import Mathlib.Data.List.Basic
import Mathlib.Tactic.Common

/-!
# Flags in a list of words

A program that looks for its flags in all pairs of neighbouring words takes a value for a flag if
it is spelled like one. On lines without such values it finds what a reader finds who takes the
line apart from its beginning. A value itself can consist of fields.
-/
namespace Flags

variable {ω : Type} [DecidableEq ω]

/-- The pairs of neighbouring words. -/
def windows : List ω → List (ω × ω)
  | first :: second :: rest => (first, second) :: windows (second :: rest)
  | _ => []

/-- The word behind the first place of a flag. -/
def firstValue (words : List ω) (flag : ω) : Option ω :=
  ((windows words).find? (·.1 == flag)).map Prod.snd

/-- The words behind all places of a flag. -/
def values (words : List ω) (flag : ω) : List ω :=
  ((windows words).filter (·.1 == flag)).map Prod.snd

def present (words : List ω) (flag : ω) : Bool := words.any (· == flag)

theorem firstValue_eq_head? (words : List ω) (flag : ω) :
    firstValue words flag = (values words flag).head? := by
  rw [firstValue, values, List.head?_map, List.head?_filter]

theorem values_cons_of_ne {first flag : ω} (h : first ≠ flag) (rest : List ω) :
    values (first :: rest) flag = values rest flag := by
  cases rest with
  | nil => rfl
  | cons second rest => simp [values, windows, h]

theorem values_pair (flag value : ω) (rest : List ω) :
    values (flag :: value :: rest) flag = value :: values (value :: rest) flag := by
  simp [values, windows]

/-! ## Parts of a line -/

/-- A word by itself, or a flag with its value. -/
inductive Argument (ω : Type) where
  | bare (word : ω)
  | option (flag value : ω)

namespace Argument

def words : Argument ω → List ω
  | .bare word => [word]
  | .option flag value => [flag, value]

/-- The value that the part gives to a flag. -/
def value? (flag : ω) : Argument ω → Option ω
  | .bare _ => none
  | .option flag' value => if flag' = flag then some value else none

/-- The part is the word itself. -/
def isWord (flag : ω) : Argument ω → Bool
  | .bare word => word == flag
  | .option _ _ => false

/-- A part in which a flag that takes a value stands only in front of one. -/
def Takes (flag : ω) : Argument ω → Prop
  | .bare word => word ≠ flag
  | .option _ value => value ≠ flag

/-- A part in which a flag without a value stands only by itself. -/
def Switches (flag : ω) : Argument ω → Prop
  | .bare _ => True
  | .option flag' value => flag' ≠ flag ∧ value ≠ flag

instance (flag : ω) : DecidablePred (Takes flag)
  | .bare word => inferInstanceAs (Decidable (word ≠ flag))
  | .option _ value => inferInstanceAs (Decidable (value ≠ flag))

instance (flag : ω) : DecidablePred (Switches flag)
  | .bare _ => inferInstanceAs (Decidable True)
  | .option flag' value => inferInstanceAs (Decidable (flag' ≠ flag ∧ value ≠ flag))

end Argument

/-- The words of a line. -/
def line (parts : List (Argument ω)) : List ω := parts.flatMap Argument.words

/-- The values of a flag, part by part. -/
theorem values_line {parts : List (Argument ω)} {flag : ω} (h : ∀ part ∈ parts, part.Takes flag) :
    values (line parts) flag = parts.filterMap (Argument.value? flag) := by
  induction parts with
  | nil => rfl
  | cons part parts ih =>
    obtain ⟨hpart, hparts⟩ := List.forall_mem_cons.mp h
    have hrest := ih hparts
    cases part with
    | bare word =>
      rw [List.filterMap_cons_none rfl, ← hrest]
      exact values_cons_of_ne hpart _
    | option flag' value =>
      have hvalue : values (value :: line parts) flag = values (line parts) flag :=
        values_cons_of_ne hpart _
      by_cases hflag : flag' = flag
      · have hsome : (Argument.option flag' value).value? flag = some value := if_pos hflag
        rw [List.filterMap_cons_some hsome, ← hrest, ← hvalue, ← hflag]
        exact values_pair _ _ _
      · have hnone : (Argument.option flag' value).value? flag = none := if_neg hflag
        rw [List.filterMap_cons_none hnone, ← hrest, ← hvalue]
        exact values_cons_of_ne hflag _

theorem present_line {parts : List (Argument ω)} {flag : ω} (h : ∀ part ∈ parts, part.Switches flag) :
    present (line parts) flag = parts.any (Argument.isWord flag) := by
  induction parts with
  | nil => rfl
  | cons part parts ih =>
    obtain ⟨hpart, hparts⟩ := List.forall_mem_cons.mp h
    have hrest := ih hparts
    rw [List.any_cons, ← hrest]
    cases part with
    | bare word => rfl
    | option flag' value =>
      have hflag : (flag' == flag) = false := beq_eq_false_iff_ne.mpr hpart.1
      have hvalue : (value == flag) = false := beq_eq_false_iff_ne.mpr hpart.2
      simp [present, line, Argument.words, Argument.isWord, hflag, hvalue]

/-! ## Fields -/

/-- The fields between separators have none themselves. -/
theorem notMem_of_mem_splitOn {separator : ω} {value field : List ω}
    (h : field ∈ value.splitOn separator) : separator ∉ field := by
  induction value generalizing field with
  | nil =>
    rw [List.splitOn_nil, List.mem_singleton] at h
    rw [h]
    exact List.not_mem_nil
  | cons symbol value ih =>
    rw [List.splitOn_cons_eq_if_modifyHead] at h
    split at h
    · rcases List.mem_cons.mp h with rfl | h
      · exact List.not_mem_nil
      · exact ih h
    · rename_i hne
      obtain ⟨first, rest, hfields⟩ := List.exists_cons_of_ne_nil
        (List.splitOn_ne_nil separator value)
      rw [hfields, List.modifyHead_cons] at h
      rcases List.mem_cons.mp h with rfl | h
      · apply List.not_mem_cons_of_ne_of_not_mem
        · rintro rfl
          exact hne (beq_self_eq_true _)
        · exact ih (hfields ▸ List.mem_cons_self)
      · exact ih (hfields ▸ List.mem_cons_of_mem _ h)

/-- Fields are told apart exactly if they have no separators. -/
theorem splitOn_eq_iff {separator : ω} {value : List ω} {fields : List (List ω)} :
    value.splitOn separator = fields ↔
      fields ≠ [] ∧ (∀ field ∈ fields, separator ∉ field) ∧
        value = [separator].intercalate fields := by
  constructor
  · rintro rfl
    exact ⟨List.splitOn_ne_nil _ _, fun field => notMem_of_mem_splitOn,
      (List.intercalate_splitOn separator).symm⟩
  · rintro ⟨hne, hfields, rfl⟩
    exact List.splitOn_intercalate separator hfields hne

end Flags
