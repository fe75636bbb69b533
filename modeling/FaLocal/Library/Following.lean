import FaLocal.Library.Rounds

/-!
# Entries that follow a log

Which entry may come next can depend on all entries before it: an answer is given
to a history. A computation is lawful if, behind any log, each entry that it appends
is one that may come at its place; what single entries keep, whole computations keep.
-/
namespace Traced

variable {κ ε β γ : Type}

/-- Each of the entries may come behind the log and the entries before it. -/
def Follow (may : List κ → κ → Prop) : List κ → List κ → Prop
  | _, [] => True
  | log, entry :: entries => may log entry ∧ Follow may (log ++ [entry]) entries

/-- A computation that appends only what may come. -/
def Lawful (may : List κ → κ → Prop) (x : Traced κ ε β) : Prop :=
  ∀ log, ∃ entries, Follow may log entries ∧ (x log).2 = log ++ entries

section
variable {may may' : List κ → κ → Prop} {log : List κ}

@[simp] theorem follow_nil : Follow may log [] := trivial

@[simp] theorem follow_cons {entry : κ} {entries : List κ} :
    Follow may log (entry :: entries) ↔ may log entry ∧ Follow may (log ++ [entry]) entries :=
  Iff.rfl

theorem follow_append {a b : List κ} :
    Follow may log (a ++ b) ↔ Follow may log a ∧ Follow may (log ++ a) b := by
  induction a generalizing log with
  | nil => simp
  | cons entry a ih =>
    rw [List.cons_append, follow_cons, follow_cons, ih, ← List.append_cons, and_assoc]

/-- The law of one place. -/
theorem Follow.at {entries pre post : List κ} {entry : κ} (h : Follow may log entries)
    (he : entries = pre ++ entry :: post) : may (log ++ pre) entry := by
  rw [he, follow_append, follow_cons] at h
  exact h.2.1

theorem Follow.mono {entries : List κ} (h : Follow may log entries)
    (hi : ∀ log entry, may log entry → may' log entry) : Follow may' log entries := by
  induction entries generalizing log with
  | nil => trivial
  | cons entry entries ih => exact ⟨hi _ _ h.1, ih h.2⟩

/-- Lawful entries of one kind. -/
theorem Follow.and_mem {P : κ → Prop} {entries : List κ} (h : Follow may log entries)
    (hP : ∀ entry ∈ entries, P entry) :
    Follow (fun log entry => may log entry ∧ P entry) log entries := by
  induction entries generalizing log with
  | nil => trivial
  | cons entry entries ih =>
    obtain ⟨hentry, hentries⟩ := List.forall_mem_cons.mp hP
    exact ⟨⟨h.1, hentry⟩, ih h.2 hentries⟩

/-- Entries that may come whatever the log is. -/
theorem follow_of_forall {entries : List κ} (h : ∀ entry ∈ entries, ∀ log, may log entry) :
    Follow may log entries := by
  induction entries generalizing log with
  | nil => trivial
  | cons entry entries ih =>
    obtain ⟨h₁, h₂⟩ := List.forall_mem_cons.mp h
    exact ⟨h₁ log, ih h₂⟩

/-- What each lawful entry keeps, lawful entries keep. -/
theorem Follow.invariant {I : List κ → Prop} {entries : List κ} (h : Follow may log entries)
    (hstep : ∀ log entry, I log → may log entry → I (log ++ [entry])) (hlog : I log) :
    I (log ++ entries) := by
  induction entries generalizing log with
  | nil => simpa using hlog
  | cons entry entries ih =>
    rw [List.append_cons]
    exact ih h.2 (hstep log entry hlog h.1)

theorem Lawful.invariant {x : Traced κ ε β} (h : x.Lawful may) {I : List κ → Prop}
    (hstep : ∀ log entry, I log → may log entry → I (log ++ [entry])) (hlog : I log) :
    I (x log).2 := by
  obtain ⟨entries, hf, he⟩ := h log
  rw [he]
  exact hf.invariant hstep hlog

/-- If nothing may come, nothing is appended. -/
theorem Lawful.silent {x : Traced κ ε β} (h : x.Lawful fun _ _ => False) (log : List κ) :
    (x log).2 = log := by
  obtain ⟨entries, hf, he⟩ := h log
  cases entries with
  | nil => rw [he, List.append_nil]
  | cons entry entries => exact hf.1.elim

/-! ## Replaying -/

section
variable {σ : Type} (step : List κ → κ → σ → σ)

/-- The state behind some entries, each taking its step behind the log before it. -/
def replay : List κ → List κ → σ → σ
  | _, [], state => state
  | log, entry :: entries, state => replay (log ++ [entry]) entries (step log entry state)

theorem replay_append (log a b : List κ) (state : σ) :
    replay step log (a ++ b) state = replay step (log ++ a) b (replay step log a state) := by
  induction a generalizing log state with
  | nil => rw [List.append_nil]; rfl
  | cons entry a ih => rw [List.cons_append, replay, ih, ← List.append_cons]; rfl

theorem replay_snoc (log : List κ) (entry : κ) (state : σ) :
    replay step [] (log ++ [entry]) state = step log entry (replay step [] log state) := by
  rw [replay_append]
  rfl

end

/-! ## Computations -/

theorem lawful_lift (x : Except ε β) : (lift x : Traced κ ε β).Lawful may :=
  fun log => ⟨[], trivial, by simp⟩

theorem lawful_pure (b : β) : (Pure.pure b : Traced κ ε β).Lawful may :=
  fun log => ⟨[], trivial, by simp⟩

theorem lawful_perform {act : List κ → κ × β} (h : ∀ log, may log (act log).1) :
    (perform act : Traced κ ε β).Lawful may :=
  fun log => ⟨[(act log).1], ⟨h log, trivial⟩, rfl⟩

theorem lawful_emit {entries : List κ} (h : ∀ entry ∈ entries, ∀ log, may log entry) :
    (emit entries : Traced κ ε Unit).Lawful may :=
  fun _ => ⟨entries, follow_of_forall h, rfl⟩

/-- The second half of a sequence runs behind the log that the first one leaves. -/
theorem Lawful.bind {x : Traced κ ε β} {f : β → Traced κ ε γ} (hx : x.Lawful may)
    (hf : ∀ b, (f b).Lawful may) : (x >>= f).Lawful may := by
  intro log
  obtain ⟨a, ha, he⟩ := hx log
  rw [bind_apply]
  cases h : x log with
  | mk r mid =>
    obtain rfl : mid = log ++ a := by simpa [h] using he
    cases r with
    | error e => exact ⟨a, ha, rfl⟩
    | ok b =>
      obtain ⟨c, hc, hec⟩ := hf b (log ++ a)
      refine ⟨a ++ c, follow_append.mpr ⟨ha, hc⟩, ?_⟩
      rw [← List.append_assoc]
      exact hec

theorem lawful_lift_bind {x : Except ε β} {f : β → Traced κ ε γ}
    (hf : ∀ b, x = .ok b → (f b).Lawful may) : (lift x >>= f).Lawful may := by
  cases hx : x with
  | error e => exact lawful_lift _
  | ok b => exact hf b hx

theorem Lawful.foldlM {f : γ → β → Traced κ ε γ} {l : List β}
    (hf : ∀ c b, (f c b).Lawful may) (c : γ) : (l.foldlM f c).Lawful may := by
  induction l generalizing c with
  | nil => exact lawful_pure c
  | cons b l ih =>
    rw [List.foldlM_cons]
    exact (hf c b).bind ih

theorem Lawful.eachFrom {body : Nat → β → Traced κ ε γ}
    (h : ∀ index b, (body index b).Lawful may) (index : Nat) (l : List β) :
    (eachFrom body index l).Lawful may := by
  induction l generalizing index with
  | nil => exact lawful_pure []
  | cons b rest ih =>
    rw [Traced.eachFrom]
    exact (h index b).bind fun c => (ih (index + 1)).bind fun cs => lawful_pure (c :: cs)

end

end Traced
