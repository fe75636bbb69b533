import Mathlib.Data.List.Basic
import Mathlib.Tactic.Common

/-!
# Files of lines

A file is a list of symbols, and a line of it is complete when its separator is there.
Whatever is appended keeps the complete lines; a line that is appended behind a separator is
a line of its own.
-/
namespace Lines

variable {γ : Type} [DecidableEq γ] {t : γ} {file line rest : List γ}

/-- The lines of a file, without what stands behind the last separator. -/
def complete (t : γ) (file : List γ) : List (List γ) := (file.splitOn t).dropLast

/-- A file that has no line broken off at its end. -/
def Terminated (t : γ) (file : List γ) : Prop := file = [] ∨ ∃ lines, file = lines ++ [t]

instance : Decidable (Terminated t file) :=
  decidable_of_iff (file = [] ∨ file.getLast? = some t)
    (or_congr_right List.getLast?_eq_some_iff)

@[simp] theorem complete_nil : complete t ([] : List γ) = [] := by
  rw [complete, List.splitOn_nil]
  rfl

theorem complete_of_notMem (h : t ∉ file) : complete t file = [] := by
  rw [complete, List.splitOn_eq_singleton h]
  rfl

/-- A separator completes everything in front of it. -/
theorem complete_append_cons :
    complete t (file ++ t :: rest) = file.splitOn t ++ complete t rest := by
  rw [complete, List.splitOn_append_cons_self,
    List.dropLast_append_of_ne_nil (List.splitOn_ne_nil t rest), complete]

/-- A file without a separator, or one with a last separator. -/
theorem last_separator (t : γ) (file : List γ) :
    t ∉ file ∨ ∃ lines last, file = lines ++ t :: last ∧ t ∉ last := by
  induction file with
  | nil => exact .inl (List.not_mem_nil)
  | cons c file ih =>
    rcases ih with hnone | ⟨lines, last, rfl, hlast⟩
    · by_cases hc : t = c
      · exact .inr ⟨[], file, by rw [hc]; rfl, hnone⟩
      · exact .inl (List.not_mem_cons_of_ne_of_not_mem hc hnone)
    · exact .inr ⟨c :: lines, last, rfl, hlast⟩

/-- What is appended leaves the complete lines as they are. -/
theorem complete_prefix (file rest : List γ) :
    complete t file <+: complete t (file ++ rest) := by
  rcases last_separator t file with hnone | ⟨lines, last, rfl, hlast⟩
  · rw [complete_of_notMem hnone]
    exact List.nil_prefix
  · rw [complete_append_cons, complete_of_notMem hlast, List.append_nil, List.append_assoc,
      List.cons_append, complete_append_cons]
    exact List.prefix_append _ _

/-- A line behind a separator. -/
theorem complete_append_line (h : Terminated t file) (hline : t ∉ line) :
    complete t (file ++ (line ++ [t])) = complete t file ++ [line] := by
  have hlast : complete t (line ++ [t]) = [line] := by
    rw [complete_append_cons, List.splitOn_eq_singleton hline, complete_nil]
    rfl
  rcases h with rfl | ⟨lines, rfl⟩
  · rw [List.nil_append, hlast, complete_nil]
    rfl
  · rw [List.append_assoc, List.singleton_append, complete_append_cons, hlast,
      complete_append_cons, complete_nil, List.append_nil]

end Lines
