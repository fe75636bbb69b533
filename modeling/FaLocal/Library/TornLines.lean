import FaLocal.Library.Lines

/-!
# Lines that may break off

Lines are appended to a file one after another, and each may break off behind some of its
symbols. As long as only the last one does, the file has all the others as lines of its own.
-/
namespace Lines

variable {γ : Type} {t : γ}

/-- What is appended of a line: all of it with its separator, or as many symbols as a cut says. -/
def piece (t : γ) (line : List γ) : Option Nat → List γ
  | none => line ++ [t]
  | some count => (line ++ [t]).take count

/-- What is appended for lines with their cuts. -/
def pieces (t : γ) (lines : List (List γ × Option Nat)) : List γ :=
  lines.flatMap fun line => piece t line.1 line.2

@[simp] theorem pieces_nil : pieces t [] = [] := rfl

@[simp] theorem pieces_cons (line : List γ × Option Nat) (lines : List (List γ × Option Nat)) :
    pieces t (line :: lines) = piece t line.1 line.2 ++ pieces t lines := rfl

theorem pieces_append (a b : List (List γ × Option Nat)) :
    pieces t (a ++ b) = pieces t a ++ pieces t b := List.flatMap_append

theorem terminated_piece (file line : List γ) : Terminated t (file ++ piece t line none) :=
  .inr ⟨file ++ line, (List.append_assoc _ _ _).symm⟩

variable {file line rest : List γ} {lines : List (List γ × Option Nat)}

/-- Whole lines leave a file that ends with one. -/
theorem terminated_pieces (hfile : Terminated t file) (hwhole : ∀ line ∈ lines, line.2 = none) :
    Terminated t (file ++ pieces t lines) := by
  induction lines generalizing file with
  | nil => simpa using hfile
  | cons line lines ih =>
    obtain ⟨hnone, hrest⟩ := List.forall_mem_cons.mp hwhole
    rw [pieces_cons, ← List.append_assoc, hnone]
    exact ih (terminated_piece file line.1) hrest

variable [DecidableEq γ]

/-- Symbols behind a separator complete nothing without another one. -/
theorem complete_append_notMem (h : Terminated t file) (hrest : t ∉ rest) :
    complete t (file ++ rest) = complete t file := by
  rcases h with rfl | ⟨lines, rfl⟩
  · rw [List.nil_append, complete_of_notMem hrest, complete_nil]
  · rw [List.append_assoc, List.singleton_append, complete_append_cons, complete_of_notMem hrest,
      complete_append_cons, complete_nil]

/-- A cut piece completes its line or nothing. -/
theorem complete_cut (h : Terminated t file) (hline : t ∉ line) (count : Nat) :
    complete t (file ++ piece t line (some count)) = complete t file ∨
      complete t (file ++ piece t line (some count)) = complete t file ++ [line] := by
  rw [piece]
  by_cases hcount : count ≤ line.length
  · rw [List.take_append_of_le_length hcount]
    exact .inl (complete_append_notMem h fun hm => hline (List.mem_of_mem_take hm))
  · have hwhole : (line ++ [t]).take count = line ++ [t] := by
      apply List.take_of_length_le
      rw [List.length_append, List.length_singleton]
      omega
    rw [hwhole]
    exact .inr (complete_append_line h hline)

/-- By induction on the lines: each whole one leaves a file for the next. -/
theorem complete_pieces (hfile : Terminated t file) (hlines : ∀ line ∈ lines, t ∉ line.1)
    (hwhole : ∀ line ∈ lines.dropLast, line.2 = none) :
    ∃ written, (lines.filter (·.2.isNone)).map Prod.fst <+: written ∧
      written <+: lines.map Prod.fst ∧
      complete t (file ++ pieces t lines) = complete t file ++ written := by
  induction lines generalizing file with
  | nil => exact ⟨[], List.prefix_rfl, List.prefix_rfl, by simp⟩
  | cons line lines ih =>
    obtain ⟨line, cut⟩ := line
    obtain ⟨hline, hrest⟩ := List.forall_mem_cons.mp hlines
    cases cut with
    | none =>
      have hinit : ∀ line ∈ lines.dropLast, line.2 = none := by
        cases lines with
        | nil => simp
        | cons next lines => exact (List.forall_mem_cons.mp hwhole).2
      obtain ⟨written, hkept, hall, hcomplete⟩ := ih (terminated_piece file line) hrest hinit
      refine ⟨line :: written, (List.prefix_cons_inj line).mpr hkept,
        (List.prefix_cons_inj line).mpr hall, ?_⟩
      rw [pieces_cons, ← List.append_assoc, hcomplete, piece, complete_append_line hfile hline,
        List.append_assoc]
      rfl
    | some count =>
      cases lines with
      | cons next lines =>
        cases (List.forall_mem_cons.mp hwhole).1
      | nil =>
        rw [pieces_cons, pieces_nil, List.append_nil]
        rcases complete_cut hfile hline count with h | h
        · exact ⟨[], List.prefix_rfl, List.nil_prefix, by rw [h, List.append_nil]⟩
        · exact ⟨[line], List.nil_prefix, List.prefix_rfl, h⟩

end Lines
