import Mathlib.Tactic.Common

/-!
# Computations that leave a trace

A computation reads the log of everything that has happened so far, may extend
it, and ends in a value or in an exception. The log survives an exception: what
was done stays done.
-/

/-- `κ` is the type of log entries, `ε` of exceptions, `β` of results. -/
def Traced (κ ε β : Type) : Type := List κ → Except ε β × List κ

namespace Traced

variable {κ ε β γ : Type}

def pure (b : β) : Traced κ ε β := fun log => (.ok b, log)

def bind (x : Traced κ ε β) (f : β → Traced κ ε γ) : Traced κ ε γ := fun log =>
  match x log with
  | (.ok b, mid) => f b mid
  | (.error e, mid) => (.error e, mid)

instance : Monad (Traced κ ε) where
  pure := Traced.pure
  bind := Traced.bind

/-- A computation that touches nothing outside. -/
def lift (x : Except ε β) : Traced κ ε β := fun log => (x, log)

/-- Compute an entry and an answer from the history, and append the entry. -/
def perform (act : List κ → κ × β) : Traced κ ε β := fun log =>
  (.ok (act log).2, log ++ [(act log).1])

/-- Append entries that need no answer. -/
def emit (entries : List κ) : Traced κ ε Unit := fun log => (.ok (), log ++ entries)

@[simp] theorem pure_apply (b : β) (log : List κ) :
    (Pure.pure b : Traced κ ε β) log = (.ok b, log) := rfl

@[simp] theorem lift_apply (x : Except ε β) (log : List κ) :
    (lift x : Traced κ ε β) log = (x, log) := rfl

@[simp] theorem perform_apply (act : List κ → κ × β) (log : List κ) :
    (perform act : Traced κ ε β) log = (.ok (act log).2, log ++ [(act log).1]) := rfl

@[simp] theorem emit_apply (entries log : List κ) :
    (emit entries : Traced κ ε Unit) log = (.ok (), log ++ entries) := rfl

theorem bind_apply (x : Traced κ ε β) (f : β → Traced κ ε γ) (log : List κ) :
    (x >>= f) log = match x log with
      | (.ok b, mid) => f b mid
      | (.error e, mid) => (.error e, mid) := rfl

theorem bind_of_ok {x : Traced κ ε β} {log mid : List κ} {b : β} (h : x log = (.ok b, mid))
    (f : β → Traced κ ε γ) : (x >>= f) log = f b mid := by
  rw [bind_apply, h]

theorem bind_of_error {x : Traced κ ε β} {log mid : List κ} {e : ε}
    (h : x log = (.error e, mid)) (f : β → Traced κ ε γ) :
    (x >>= f) log = (.error e, mid) := by
  rw [bind_apply, h]

@[simp] theorem lift_ok_bind (b : β) (f : β → Traced κ ε γ) :
    ((lift (.ok b) : Traced κ ε β) >>= f) = f b := rfl

@[simp] theorem lift_error_bind (e : ε) (f : β → Traced κ ε γ) :
    ((lift (.error e) : Traced κ ε β) >>= f) = lift (.error e) := rfl

/-- A sequence that returns has a returning first half and a returning second half. -/
theorem bind_eq_ok {x : Traced κ ε β} {f : β → Traced κ ε γ} {log out : List κ} {c : γ}
    (h : (x >>= f) log = (.ok c, out)) :
    ∃ b mid, x log = (.ok b, mid) ∧ f b mid = (.ok c, out) := by
  rw [bind_apply] at h
  split at h
  · rename_i b mid hx
    exact ⟨b, mid, hx, h⟩
  · cases h

/-- A returning sequence that begins with a computation that touches nothing. -/
theorem lift_bind_eq_ok {x : Except ε β} {f : β → Traced κ ε γ} {log out : List κ} {c : γ} :
    (lift x >>= f) log = (.ok c, out) ↔ ∃ b, x = .ok b ∧ f b log = (.ok c, out) := by
  cases x with
  | error e => simp [bind_apply]
  | ok b => simp

/-- A sequence that throws does so in its first half, or in its second half
after a returning first half. -/
theorem bind_eq_error {x : Traced κ ε β} {f : β → Traced κ ε γ} {log out : List κ} {e : ε}
    (h : (x >>= f) log = (.error e, out)) :
    x log = (.error e, out) ∨ ∃ b mid, x log = (.ok b, mid) ∧ f b mid = (.error e, out) := by
  rw [bind_apply] at h
  split at h
  · rename_i b mid hx
    exact .inr ⟨b, mid, hx, h⟩
  · rename_i e' mid hx
    cases h
    exact .inl hx

theorem id_map (x : Traced κ ε β) : id <$> x = x := by
  funext log
  change Traced.bind x (fun b => Traced.pure (id b)) log = x log
  rw [Traced.bind]
  cases h : x log with
  | mk r out => cases r <;> rfl

theorem bind_assoc {δ : Type} (x : Traced κ ε β) (f : β → Traced κ ε γ)
    (g : γ → Traced κ ε δ) : x >>= f >>= g = x >>= fun b => f b >>= g := by
  funext log
  simp only [bind_apply]
  cases h : x log with
  | mk r out => cases r <;> rfl

instance : LawfulMonad (Traced κ ε) := LawfulMonad.mk' _ id_map (fun _ _ => rfl) bind_assoc

/-- A computation that extends the log by entries of one kind. -/
def Appends (P : List κ → Prop) (x : Traced κ ε β) : Prop :=
  ∀ log, ∃ entries, P entries ∧ (x log).2 = log ++ entries

section
variable {P Q R : List κ → Prop}

theorem Appends.mono {x : Traced κ ε β} (h : x.Appends P) (hi : ∀ entries, P entries → Q entries) :
    x.Appends Q := by
  intro log
  obtain ⟨entries, hp, he⟩ := h log
  exact ⟨entries, hi entries hp, he⟩

theorem appends_lift (hnil : P []) (x : Except ε β) : (lift x : Traced κ ε β).Appends P :=
  fun _ => ⟨[], hnil, by simp⟩

theorem appends_perform {act : List κ → κ × β} (h : ∀ log, P [(act log).1]) :
    (perform act : Traced κ ε β).Appends P :=
  fun log => ⟨_, h log, rfl⟩

theorem appends_emit {entries : List κ} (h : P entries) :
    (emit entries : Traced κ ε Unit).Appends P :=
  fun _ => ⟨entries, h, rfl⟩

/-- Behind a check that touches nothing. -/
theorem appends_lift_bind (hnil : P []) {x : Except ε β} {f : β → Traced κ ε γ}
    (hf : ∀ b, x = .ok b → (f b).Appends P) : (lift x >>= f).Appends P := by
  cases hx : x with
  | error e => exact appends_lift hnil _
  | ok b => exact hf b hx

/-- A sequence appends what its halves append; the second may not be reached. -/
theorem Appends.bind_returned (happ : ∀ {a b}, P a → Q b → R (a ++ b)) (hnil : Q [])
    {x : Traced κ ε β} {f : β → Traced κ ε γ} (hx : x.Appends P)
    (hf : ∀ log b mid, x log = (.ok b, mid) → (f b).Appends Q) : (x >>= f).Appends R := by
  intro log
  obtain ⟨e₁, h₁, he₁⟩ := hx log
  rw [bind_apply]
  cases h : x log with
  | mk r mid =>
    have hmid : mid = log ++ e₁ := by simpa [h] using he₁
    cases r with
    | error e => exact ⟨e₁, by simpa using happ h₁ hnil, hmid⟩
    | ok b =>
      obtain ⟨e₂, h₂, he₂⟩ := hf log b mid h mid
      exact ⟨e₁ ++ e₂, happ h₁ h₂, by simpa [hmid] using he₂⟩

theorem Appends.bind (happ : ∀ {a b}, P a → Q b → R (a ++ b)) (hnil : Q []) {x : Traced κ ε β}
    {f : β → Traced κ ε γ} (hx : x.Appends P) (hf : ∀ b, (f b).Appends Q) :
    (x >>= f).Appends R :=
  hx.bind_returned happ hnil fun _ b _ _ => hf b

end

/-- A kind of entries that no entries are of, and that appending keeps. -/
structure Closed (P : List κ → Prop) : Prop where
  nil : P []
  append : ∀ {a b : List κ}, P a → P b → P (a ++ b)

namespace Closed

variable {P : List κ → Prop} (hP : Closed P)

theorem any : Closed fun _ : List κ => True := ⟨trivial, fun _ _ => trivial⟩

include hP

theorem lift (x : Except ε β) : (Traced.lift x : Traced κ ε β).Appends P := appends_lift hP.nil x

theorem pure (b : β) : (Pure.pure b : Traced κ ε β).Appends P := fun _ => ⟨[], hP.nil, by simp⟩

theorem bind {x : Traced κ ε β} {f : β → Traced κ ε γ} (hx : x.Appends P)
    (hf : ∀ b, (f b).Appends P) : (x >>= f).Appends P :=
  hx.bind hP.append hP.nil hf

theorem foldlM {f : γ → β → Traced κ ε γ} {l : List β} (hf : ∀ c, ∀ b ∈ l, (f c b).Appends P)
    (c : γ) : (l.foldlM f c).Appends P := by
  induction l generalizing c with
  | nil => exact hP.pure c
  | cons b l ih =>
    rw [List.foldlM_cons]
    exact hP.bind (hf c b List.mem_cons_self) (ih fun c b hb => hf c b (List.mem_cons_of_mem _ hb))

end Closed

end Traced
