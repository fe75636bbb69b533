import Mathlib.Data.List.Basic
import Mathlib.Tactic.Common

/-!
# Texts that tell where they end

A writer is self-delimiting when its texts can be told apart with anything
written behind them. Such writers compose: behind a literal, one behind the
other, in a list with a closing character. Quoted texts with escapes are one.
-/
namespace Delimited

variable {β γ δ : Type}

/-- Whatever is written behind two texts, only texts of one value agree. -/
def SelfDelimiting (write : β → List γ) : Prop :=
  ∀ b c x y, write b ++ x = write c ++ y → b = c ∧ x = y

theorem SelfDelimiting.cancel {write : β → List γ} (h : SelfDelimiting write) {b c : β}
    {x y : List γ} (he : write b ++ x = write c ++ y) : b = c ∧ x = y := h b c x y he

theorem SelfDelimiting.comp {write : β → List γ} (h : SelfDelimiting write) {f : δ → β}
    (hf : Function.Injective f) : SelfDelimiting (write ∘ f) := by
  intro b c x y he
  obtain ⟨hb, hxy⟩ := h.cancel he
  exact ⟨hf hb, hxy⟩

/-- A literal in front. -/
theorem SelfDelimiting.behind {write : β → List γ} (h : SelfDelimiting write) (literal : List γ) :
    SelfDelimiting fun b => literal ++ write b := by
  intro b c x y he
  simp only [List.append_assoc] at he
  exact h.cancel (List.append_cancel_left he)

/-- The first stop character of a text cuts it. -/
theorem cut_unique {t : γ} {u v x y : List γ} (hu : t ∉ u) (hv : t ∉ v)
    (h : u ++ t :: x = v ++ t :: y) : u = v ∧ x = y := by
  induction u generalizing v with
  | nil =>
    cases v with
    | nil => exact ⟨rfl, (List.cons.inj h).2⟩
    | cons d v => exact absurd (List.cons.inj h).1 fun he => hv (he ▸ List.mem_cons_self)
  | cons c u ih =>
    cases v with
    | nil => exact absurd (List.cons.inj h).1 fun he => hu (he ▸ List.mem_cons_self)
    | cons d v =>
      obtain ⟨rfl, htail⟩ := List.cons.inj h
      obtain ⟨rfl, hxy⟩ := ih (fun hm => hu (List.mem_cons_of_mem _ hm))
        (fun hm => hv (List.mem_cons_of_mem _ hm)) htail
      exact ⟨rfl, hxy⟩

/-- So does its last one. -/
theorem cut_last {t : γ} {u v x y : List γ} (hu : t ∉ u) (hv : t ∉ v)
    (h : x ++ t :: u = y ++ t :: v) : x = y ∧ u = v := by
  have hreverse : u.reverse ++ t :: x.reverse = v.reverse ++ t :: y.reverse := by
    simpa using congrArg List.reverse h
  obtain ⟨hends, hstarts⟩ := cut_unique (by simpa using hu) (by simpa using hv) hreverse
  exact ⟨List.reverse_inj.mp hstarts, List.reverse_inj.mp hends⟩

/-- An injective writer is closed by a character that it does not use. -/
theorem SelfDelimiting.closed {write : β → List γ} (hinj : Function.Injective write) {t : γ}
    (ht : ∀ b, t ∉ write b) : SelfDelimiting fun b => write b ++ [t] := by
  intro b c x y he
  simp only [List.append_assoc, List.singleton_append] at he
  obtain ⟨hb, hxy⟩ := cut_unique (ht b) (ht c) he
  exact ⟨hinj hb, hxy⟩

/-! ## Lists -/

/-- The items one behind the other, closed by a character. -/
def items (write : β → List γ) (t : γ) (l : List β) : List γ := l.flatMap write ++ [t]

@[simp] theorem items_nil (write : β → List γ) (t : γ) : items write t [] = [t] := rfl

@[simp] theorem items_cons (write : β → List γ) (t : γ) (b : β) (l : List β) :
    items write t (b :: l) = write b ++ items write t l := by
  simp [items]

/-- The closing character opens no item. -/
theorem SelfDelimiting.items {write : β → List γ} (h : SelfDelimiting write) {t : γ}
    (hhead : ∀ b, ∃ c rest, write b = c :: rest ∧ c ≠ t) : SelfDelimiting (items write t) := by
  intro l m x y he
  induction l generalizing m with
  | nil =>
    cases m with
    | nil => exact ⟨rfl, by simpa using he⟩
    | cons c m =>
      obtain ⟨d, rest, hd, hne⟩ := hhead c
      rw [items_nil, items_cons, hd] at he
      exact absurd (List.cons.inj he).1.symm hne
  | cons b l ih =>
    cases m with
    | nil =>
      obtain ⟨d, rest, hd, hne⟩ := hhead b
      rw [items_nil, items_cons, hd] at he
      exact absurd (List.cons.inj he).1 hne
    | cons c m =>
      simp only [items_cons, List.append_assoc] at he
      obtain ⟨rfl, htail⟩ := h.cancel he
      obtain ⟨rfl, hxy⟩ := ih m htail
      exact ⟨rfl, hxy⟩

/-- A bracketed list with commas between its items. -/
def array (write : β → List Char) : List β → List Char
  | [] => ['[', ']']
  | b :: l => '[' :: write b ++ items (fun c => ',' :: write c) ']' l

theorem SelfDelimiting.array {write : β → List Char} (h : SelfDelimiting write)
    (hhead : ∀ b, ∃ c rest, write b = c :: rest ∧ c ≠ ']') : SelfDelimiting (array write) := by
  have hitems : SelfDelimiting (Delimited.items (fun c => ',' :: write c) ']') :=
    SelfDelimiting.items (h.behind [',']) fun b => ⟨',', write b, rfl, by decide⟩
  intro l m x y he
  cases l with
  | nil =>
    cases m with
    | nil => exact ⟨rfl, by simpa [Delimited.array] using he⟩
    | cons c m =>
      obtain ⟨d, rest, hd, hne⟩ := hhead c
      simp only [Delimited.array, hd, List.cons_append, List.nil_append, List.cons.injEq,
        true_and] at he
      exact absurd he.1.symm hne
  | cons b l =>
    cases m with
    | nil =>
      obtain ⟨d, rest, hd, hne⟩ := hhead b
      simp only [Delimited.array, hd, List.cons_append, List.nil_append, List.cons.injEq,
        true_and] at he
      exact absurd he.1 hne
    | cons c m =>
      simp only [Delimited.array, List.cons_append, List.append_assoc, List.cons.injEq,
        true_and] at he
      obtain ⟨rfl, htail⟩ := h.cancel he
      obtain ⟨rfl, hxy⟩ := hitems.cancel htail
      exact ⟨rfl, hxy⟩

/-! ## Quoted texts -/

/-- The characters with an escape of two characters. -/
def shortEscapes : List (Char × Char) := [('"', '"'), ('\\', '\\'), (Char.ofNat 8, 'b'),
  (Char.ofNat 9, 't'), (Char.ofNat 10, 'n'), (Char.ofNat 12, 'f'), (Char.ofNat 13, 'r')]

/-- A character inside quotes; other control characters are written by number. -/
def escapeChar (c : Char) : List Char :=
  match shortEscapes.lookup c with
  | some e => ['\\', e]
  | none =>
    if c.toNat < 32 then
      ['\\', 'u', '0', '0', Nat.digitChar (c.toNat / 16), Nat.digitChar (c.toNat % 16)]
    else [c]

theorem mem_of_lookup {c e : Char} {l : List (Char × Char)} (h : l.lookup c = some e) :
    (c, e) ∈ l := by
  obtain ⟨before, after, rfl, -⟩ := List.lookup_eq_some_iff.mp h
  exact List.mem_append_right before List.mem_cons_self

theorem lookup_ne_u {c e : Char} (h : shortEscapes.lookup c = some e) : e ≠ 'u' := by
  have hall : ∀ p ∈ shortEscapes, p.2 ≠ 'u' := by decide
  exact hall _ (mem_of_lookup h)

theorem lookup_inj {c d e : Char} (hc : shortEscapes.lookup c = some e)
    (hd : shortEscapes.lookup d = some e) : c = d := by
  have hall : ∀ p ∈ shortEscapes, ∀ q ∈ shortEscapes, p.2 = q.2 → p.1 = q.1 := by decide
  exact hall _ (mem_of_lookup hc) _ (mem_of_lookup hd) rfl

theorem digitChar_inj {i j : Nat} (hi : i < 16) (hj : j < 16)
    (h : Nat.digitChar i = Nat.digitChar j) : i = j := by
  have hall : ∀ i < 16, ∀ j < 16, Nat.digitChar i = Nat.digitChar j → i = j := by decide
  exact hall i hi j hj h

/-- The control characters that are written by number. -/
theorem numbered_inj {c d : Char} (hc : c.toNat < 32) (hd : d.toNat < 32)
    (hhigh : Nat.digitChar (c.toNat / 16) = Nat.digitChar (d.toNat / 16))
    (hlow : Nat.digitChar (c.toNat % 16) = Nat.digitChar (d.toNat % 16)) : c = d := by
  have h₁ := digitChar_inj (by omega) (by omega) hhigh
  have h₂ := digitChar_inj (Nat.mod_lt _ (by decide)) (Nat.mod_lt _ (by decide)) hlow
  have hn : c.toNat = d.toNat := by omega
  exact Char.toNat_inj.mp hn

theorem escapeChar_selfDelimiting : SelfDelimiting escapeChar := by
  intro c d x y he
  have hslash : ∀ {c : Char}, shortEscapes.lookup c = none → c ≠ '\\' := by
    rintro c hc rfl
    cases hc
  cases hc : shortEscapes.lookup c with
  | some e =>
    cases hd : shortEscapes.lookup d with
    | some f =>
      simp only [escapeChar, hc, hd, List.cons_append, List.nil_append, List.cons.injEq,
        true_and] at he
      obtain ⟨rfl, hxy⟩ := he
      exact ⟨lookup_inj hc hd, hxy⟩
    | none =>
      simp only [escapeChar, hc, hd] at he
      split at he
      · exact absurd (List.cons.inj (List.cons.inj he).2).1 (lookup_ne_u hc)
      · exact absurd (List.cons.inj he).1.symm (hslash hd)
  | none =>
    cases hd : shortEscapes.lookup d with
    | some f =>
      simp only [escapeChar, hc, hd] at he
      split at he
      · exact absurd (List.cons.inj (List.cons.inj he).2).1.symm (lookup_ne_u hd)
      · exact absurd (List.cons.inj he).1 (hslash hc)
    | none =>
      simp only [escapeChar, hc, hd] at he
      split at he <;> split at he
      · rename_i hcn hdn
        simp only [List.cons_append, List.nil_append, List.cons.injEq, true_and] at he
        exact ⟨numbered_inj hcn hdn he.1 he.2.1, he.2.2⟩
      · exact absurd (List.cons.inj he).1.symm (hslash hd)
      · exact absurd (List.cons.inj he).1 (hslash hc)
      · exact List.cons.inj he

theorem escapeChar_head (c : Char) : ∃ d rest, escapeChar c = d :: rest ∧ d ≠ '"' := by
  cases hc : shortEscapes.lookup c with
  | some e => exact ⟨'\\', [e], by rw [escapeChar, hc], by decide⟩
  | none =>
    rw [escapeChar, hc]
    dsimp only
    split
    · exact ⟨'\\', _, rfl, by decide⟩
    · refine ⟨c, [], rfl, ?_⟩
      rintro rfl
      cases hc

def quoted (s : String) : List Char := '"' :: items escapeChar '"' s.toList

theorem quoted_selfDelimiting : SelfDelimiting quoted := by
  have h := (SelfDelimiting.items escapeChar_selfDelimiting escapeChar_head).behind ['"']
  exact h.comp fun _ _ he => String.toList_injective he

theorem digitChar_not_control {n : Nat} (h : n < 16) : 32 ≤ (Nat.digitChar n).toNat := by
  have hall : ∀ n < 16, 32 ≤ (Nat.digitChar n).toNat := by decide
  exact hall n h

/-- A quoted text has no control character. -/
theorem quoted_not_control {s : String} {c : Char} (h : c ∈ quoted s) : 32 ≤ c.toNat := by
  have hchar : ∀ d, ∀ c ∈ escapeChar d, 32 ≤ c.toNat := by
    intro d c hc
    cases hd : shortEscapes.lookup d with
    | some e =>
      have hall : ∀ p ∈ shortEscapes, 32 ≤ p.2.toNat := by decide
      rw [escapeChar, hd, List.mem_cons, List.mem_singleton] at hc
      rcases hc with rfl | rfl
      · decide
      · exact hall _ (mem_of_lookup hd)
    | none =>
      rw [escapeChar, hd] at hc
      dsimp only at hc
      split at hc
      · simp only [List.mem_cons, List.not_mem_nil, or_false] at hc
        rcases hc with rfl | rfl | rfl | rfl | rfl | rfl
        · decide
        · decide
        · decide
        · decide
        · exact digitChar_not_control (by omega)
        · exact digitChar_not_control (Nat.mod_lt _ (by decide))
      · rw [List.mem_singleton.mp hc]
        omega
  rw [quoted, items, List.mem_cons, List.mem_append, List.mem_flatMap, List.mem_singleton] at h
  rcases h with rfl | ⟨d, -, hc⟩ | rfl
  · decide
  · exact hchar d c hc
  · decide

/-! ## Numbers -/

/-- A number in decimal, closed by a character that is no digit. -/
theorem decimal_selfDelimiting {t : Char} (ht : t.isDigit = false) :
    SelfDelimiting fun n => Nat.toDigits 10 n ++ [t] := by
  refine SelfDelimiting.closed (fun m n h => ?_) fun n hm => ?_
  · rw [← Nat.ofDigitChars_ten_toDigits (n := m), h, Nat.ofDigitChars_ten_toDigits]
  · rw [Nat.isDigit_of_mem_toDigits (by decide) (by decide) hm] at ht
    cases ht

end Delimited
