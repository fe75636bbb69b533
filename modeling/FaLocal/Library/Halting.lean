import FaLocal.Library.Rounds

/-!
# Computations that a bad entry ends

An answer from outside can be bad. A computation halts on it if nothing is appended behind a
bad entry and the computation fails there; sequences and loops of such computations halt too.
-/
namespace Traced

variable {κ ε β γ : Type} {bad : κ → Prop}

/-- A bad entry is the last one, and there is none if the computation returns. -/
def Halts (bad : κ → Prop) (x : Traced κ ε β) : Prop :=
  ∀ log, ∃ entries, (x log).2 = log ++ entries ∧
    (∀ b, (x log).1 = .ok b → ∀ entry ∈ entries, ¬ bad entry) ∧
    ∀ entry ∈ entries.dropLast, ¬ bad entry

/-- Entries of another kind are not bad. -/
theorem Appends.halts {P : List κ → Prop} {x : Traced κ ε β} (h : x.Appends P)
    (hP : ∀ entries, P entries → ∀ entry ∈ entries, ¬ bad entry) : x.Halts bad := by
  intro log
  obtain ⟨entries, hentries, he⟩ := h log
  exact ⟨entries, he, fun _ _ => hP entries hentries,
    fun entry hm => hP entries hentries entry (List.dropLast_subset _ hm)⟩

theorem halts_lift (x : Except ε β) : (lift x : Traced κ ε β).Halts bad :=
  fun log => ⟨[], by simp, by simp, by simp⟩

theorem halts_pure (b : β) : (Pure.pure b : Traced κ ε β).Halts bad :=
  fun log => ⟨[], by simp, by simp, by simp⟩

theorem halts_emit {entries : List κ} (h : ∀ entry ∈ entries, ¬ bad entry) :
    (emit entries : Traced κ ε Unit).Halts bad :=
  fun _ => ⟨entries, rfl, fun _ _ => h, fun entry hm => h entry (List.dropLast_subset _ hm)⟩

/-- An answer that is checked at once. -/
theorem halts_checked {act : List κ → κ × β} {check : β → Except ε γ}
    (h : ∀ log c, check (act log).2 = .ok c → ¬ bad (act log).1) :
    (perform act >>= fun b => lift (check b) : Traced κ ε γ).Halts bad := by
  intro log
  refine ⟨[(act log).1], ?_, ?_, by simp⟩
  · rw [bind_of_ok (perform_apply _ _)]
    rfl
  · intro c hc entry hentry
    rw [bind_of_ok (perform_apply _ _)] at hc
    rw [List.mem_singleton.mp hentry]
    exact h log c hc

/-- What comes second runs only behind entries that are not bad. -/
theorem Halts.bind {x : Traced κ ε β} {f : β → Traced κ ε γ} (hx : x.Halts bad)
    (hf : ∀ b, (f b).Halts bad) : (x >>= f).Halts bad := by
  intro log
  obtain ⟨a, ha, hgood, hinit⟩ := hx log
  rw [bind_apply]
  cases h : x log with
  | mk r mid =>
    rw [h] at ha hgood
    cases r with
    | error e => exact ⟨a, ha, by rintro c ⟨⟩, hinit⟩
    | ok b =>
      obtain rfl : mid = log ++ a := ha
      obtain ⟨c, hc, hgood', hinit'⟩ := hf b (log ++ a)
      refine ⟨a ++ c, ?_, ?_, ?_⟩
      · rw [← List.append_assoc]
        exact hc
      · intro d hd entry hentry
        rcases List.mem_append.mp hentry with hm | hm
        · exact hgood b rfl entry hm
        · exact hgood' d hd entry hm
      · intro entry hentry
        by_cases hnil : c = []
        · rw [hnil, List.append_nil] at hentry
          exact hinit entry hentry
        · rw [List.dropLast_append_of_ne_nil hnil] at hentry
          rcases List.mem_append.mp hentry with hm | hm
          · exact hgood b rfl entry hm
          · exact hinit' entry hm

theorem Halts.eachFrom {body : Nat → β → Traced κ ε γ} (h : ∀ index b, (body index b).Halts bad)
    (index : Nat) (l : List β) : (eachFrom body index l).Halts bad := by
  induction l generalizing index with
  | nil => exact halts_pure []
  | cons b rest ih =>
    rw [Traced.eachFrom]
    exact (h index b).bind fun c => (ih (index + 1)).bind fun cs => halts_pure (c :: cs)

end Traced
