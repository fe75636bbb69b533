import FaLocal.Library.FallbackRun

/-!
# Laws of fallback runs

No step is attempted twice, even by a run that is broken off. Under a stopping
policy only the fallback of an uncompleted step may still follow it; a run that
never stops attempts every step. The first uncompleted verdict is never a skip.
-/
namespace FallbackRun

variable {σ ω : Type}

section
variable {P : Policy σ ω} {pre rest : List σ} {c : Config σ ω} {a : List (σ × ω)}
  {v : List (σ × Verdict σ ω)}

theorem Ledger.verdict (h : Ledger P pre rest c a v) {s : σ} (hs : s ∈ pre) :
    ∃ w, (s, w) ∈ v := by
  rw [← h.listed] at hs
  obtain ⟨⟨t, w⟩, hw, rfl⟩ := List.mem_map.mp hs
  exact ⟨w, hw⟩

/-- Every verdict but `skipped` is about a step that was attempted. -/
theorem Ledger.attempted (h : Ledger P pre rest c a v) {s : σ} {w : Verdict σ ω}
    (hw : (s, w) ∈ v) (hne : w ≠ .skipped) : ∃ o, (s, o) ∈ a := by
  cases w with
  | own o => exact ⟨o, h.own s o hw⟩
  | via f =>
    obtain ⟨-, ⟨o, ho, -⟩, -⟩ := h.via s f hw
    exact ⟨o, ho⟩
  | skipped => exact absurd rfl hne

theorem Ledger.skipped_iff (h : Ledger P pre rest c a v) {s : σ} (hs : s ∈ pre) :
    (s, .skipped) ∈ v ↔ ∀ o, (s, o) ∉ a := by
  refine ⟨h.skipped s, fun hn => ?_⟩
  obtain ⟨w, hw⟩ := h.verdict hs
  cases w with
  | skipped => exact hw
  | own o => exact absurd (h.own s o hw) (hn o)
  | via f =>
    obtain ⟨-, ⟨o, ho, -⟩, -⟩ := h.via s f hw
    exact absurd ho (hn o)

/-- Two recorded attempts of one step are the same attempt. -/
theorem Ledger.unique (h : Ledger P pre rest c a v) {s : σ} {o o' : ω} (ho : (s, o) ∈ a)
    (ho' : (s, o') ∈ a) : o = o' :=
  congrArg Prod.snd (List.inj_on_of_nodup_map h.once ho ho' rfl)

/-- Once every turn is over, only listed steps have been attempted. -/
theorem Ledger.closed {d : Config σ ω} (h : Ledger P pre [] d a v) {s : σ} {o : ω}
    (ha : (s, o) ∈ a) : s ∈ pre := by
  rcases h.scope s o ha with hp | ⟨o', ho⟩
  · exact hp
  · simpa using (h.held s o' ho).1

end

variable [DecidableEq σ]

/-- A walk that may be broken off anywhere begins no step twice. -/
theorem Begun.fresh {P : Policy σ ω} {steps l : List σ} {c : Config σ ω} {b : List (σ × ω)}
    (hb : Begun P c steps b l) {pre : List σ} {a : List (σ × ω)} {v : List (σ × Verdict σ ω)}
    (hl : Layout P (pre ++ steps)) (h : Ledger P pre steps c a v) :
    (a.map Prod.fst ++ (b.map Prod.fst ++ l)).Nodup := by
  induction hb generalizing pre a v with
  | nil c rest => simpa using h.once
  | @turn c m s rest l b b' w ht hr ih =>
    have hl' : Layout P ((pre ++ [s]) ++ rest) := by simpa using hl
    simpa using ih hl' (h.step hl ht)
  | @own c s rest hn hs =>
    refine List.Nodup.append h.once (by simp) ?_
    simpa using h.fresh hl.turn.1 hn
  | @returned c s rest o hn hs =>
    refine List.Nodup.append h.once (by simp) ?_
    simpa using h.fresh hl.turn.1 hn
  | @retry c s f rest o hn hs hav =>
    obtain ⟨hf, hfn⟩ := available_eq_some.mp hav
    obtain ⟨hsp, hsr, hrp⟩ := hl.turn
    have hfr : f ∈ rest := hl.later s f pre rest hf rfl
    have hfs : s ≠ f := by rintro rfl; exact hsr hfr
    refine List.Nodup.append h.once (by simp [hfs]) ?_
    simpa using ⟨h.fresh hsp hn, h.fresh (hrp f hfr) hfn⟩

theorem Begun.nodup {P : Policy σ ω} {steps l : List σ} {a : List (σ × ω)}
    (hl : Layout P steps) (hb : Begun P start steps a l) : (a.map Prod.fst ++ l).Nodup := by
  have hl' : Layout P ([] ++ steps) := by simpa using hl
  simpa using hb.fresh hl' (Ledger.initial P steps)

theorem singleton_eq_split {β : Type} {x y : β} {pre post : List β} :
    [x] = pre ++ y :: post ↔ pre = [] ∧ x = y ∧ post = [] := by
  cases pre <;> simp [eq_comm]

theorem pair_eq_split {β : Type} {x x' y : β} {pre post : List β} :
    [x, x'] = pre ++ y :: post ↔
      (pre = [] ∧ x = y ∧ post = [x']) ∨ (pre = [x] ∧ x' = y ∧ post = []) := by
  cases pre with
  | nil => simp [eq_comm]
  | cons z pre =>
    rw [List.cons_append, List.cons.injEq, singleton_eq_split]
    simp [eq_comm, and_assoc]

/-- A stopped walk makes no further attempt. -/
theorem Begun.stopped {P : Policy σ ω} {steps l : List σ} {c : Config σ ω} {a : List (σ × ω)}
    (hb : Begun P c steps a l) (hc : c.stopped = true) : a = [] ∧ l = [] := by
  induction hb with
  | nil c rest => exact ⟨rfl, rfl⟩
  | turn ht hr ih =>
    cases ht with
    | reuse o ho => simpa using ih hc
    | skip hn hs => simpa using ih hc
    | own o hn hs hav => simp [hs] at hc
    | retry o o' f hn hs hno hav => simp [hs] at hc
  | own hn hs => simp [hs] at hc
  | returned o hn hs => simp [hs] at hc
  | retry o hn hs hav => simp [hs] at hc

/-- Under a stopping policy nothing is begun after an attempt that did not
complete, except the fallback of its step; and after a fallback that did not
complete either, nothing at all. -/
theorem Begun.stop {P : Policy σ ω} (hP : P.stops = true) {steps l : List σ} {c : Config σ ω}
    {a : List (σ × ω)} (hb : Begun P c steps a l) {pre tail : List (σ × ω)} {s : σ} {o : ω}
    (ha : a = pre ++ (s, o) :: tail) (ho : P.completes o = false)
    (hf : ∀ f o', P.fallback s = some f → (f, o') ∈ tail → P.completes o' = false) :
    tail.map Prod.fst ++ l = [] ∨ ∃ f, P.fallback s = some f ∧ tail.map Prod.fst ++ l = [f] := by
  induction hb generalizing pre with
  | nil c rest => simp at ha
  | @turn c m t rest l a₁ a₂ w ht hr ih =>
    rcases List.append_eq_append_iff.mp ha with ⟨pre', rfl, ha₂⟩ | ⟨l₁, ha₁, htail⟩
    · exact ih ha₂
    · cases l₁ with
      | nil =>
        have ha₂ : a₂ = [] ++ (s, o) :: tail := htail.symm
        exact ih ha₂
      | cons q l₁ =>
        simp only [List.cons_append, List.cons.injEq] at htail
        obtain ⟨rfl, rfl⟩ := htail
        cases ht with
        | reuse o₁ ho₁ => simp at ha₁
        | skip hn hs => simp at ha₁
        | own o₁ hn hs hav =>
          obtain ⟨rfl, he, rfl⟩ := singleton_eq_split.mp ha₁
          cases he
          obtain ⟨rfl, rfl⟩ := hr.stopped (by simp [ho, hP])
          exact .inl rfl
        | retry o₁ o₂ f hn hs hno hav =>
          rcases pair_eq_split.mp ha₁ with ⟨rfl, he, rfl⟩ | ⟨rfl, he, rfl⟩
          · cases he
            have hfall := (available_eq_some.mp hav).1
            have ho₂ : P.completes o₂ = false := hf f o₂ hfall (by simp)
            obtain ⟨rfl, rfl⟩ := hr.stopped (by simp [ho₂, hP])
            exact .inr ⟨f, hfall, rfl⟩
          · cases he
            obtain ⟨rfl, rfl⟩ := hr.stopped (by simp [ho, hP])
            exact .inl rfl
  | own hn hs => simp at ha
  | @returned c t rest o₁ hn hs =>
    obtain ⟨rfl, he, rfl⟩ := singleton_eq_split.mp ha
    exact .inl rfl
  | @retry c t f rest o₁ hn hs hav =>
    obtain ⟨rfl, he, rfl⟩ := singleton_eq_split.mp ha
    cases he
    exact .inr ⟨f, (available_eq_some.mp hav).1, rfl⟩

/-- An uncompleted verdict. -/
def failing (P : Policy σ ω) (q : σ × Verdict σ ω) : Bool := !q.2.completed P

/-- Who is to blame: a stopped run, and a held outcome that does not complete,
each go back to a step that was attempted and did not complete. -/
structure Blame (P : Policy σ ω) (c : Config σ ω) (v : List (σ × Verdict σ ω)) : Prop where
  stopped : c.stopped = true → ∃ s o, (s, .own o) ∈ v ∧ P.completes o = false
  held : ∀ s o, c.held s = some o → P.completes o = false →
    ∃ t o', (t, .own o') ∈ v ∧ P.completes o' = false
  first : ∀ s, v.find? (failing P) ≠ some (s, .skipped)

omit [DecidableEq σ] in
theorem Blame.initial (P : Policy σ ω) : Blame P start [] := by
  constructor <;> simp [start]

omit [DecidableEq σ] in
theorem Blame.skip {P : Policy σ ω} {c : Config σ ω} {v : List (σ × Verdict σ ω)}
    (h : Blame P c v) (hs : c.stopped = true) : ∃ q, v.find? (failing P) = some q := by
  obtain ⟨s, o, hv, ho⟩ := h.stopped hs
  cases hf : v.find? (failing P) with
  | some q => exact ⟨q, rfl⟩
  | none =>
    have := List.find?_eq_none.mp hf _ hv
    simp [failing, Verdict.completed, ho] at this

omit [DecidableEq σ] in
theorem Blame.first_append {P : Policy σ ω} {c : Config σ ω} {v : List (σ × Verdict σ ω)}
    (h : Blame P c v) {s : σ} {w : Verdict σ ω} (hw : w = .skipped → c.stopped = true) (t : σ) :
    (v ++ [(s, w)]).find? (failing P) ≠ some (t, .skipped) := by
  rw [List.find?_append]
  cases hf : v.find? (failing P) with
  | some q => simpa [hf] using h.first t
  | none =>
    intro hc
    have hws : w = .skipped := by
      simp only [Option.none_or, List.find?_singleton] at hc
      split at hc
      · exact congrArg Prod.snd (Option.some.inj hc)
      · cases hc
    obtain ⟨q, hq⟩ := h.skip (hw hws)
    simp [hf] at hq

/-- One turn keeps the blame. -/
theorem Blame.step {P : Policy σ ω} {c d : Config σ ω} {v : List (σ × Verdict σ ω)}
    (h : Blame P c v) {s : σ} {b : List (σ × ω)} {w : Verdict σ ω} (ht : Turn P c s b w d) :
    Blame P d (v ++ [(s, w)]) := by
  have old : (∃ t o, (t, Verdict.own o) ∈ v ∧ P.completes o = false) →
      ∃ t o, (t, Verdict.own o) ∈ v ++ [(s, w)] ∧ P.completes o = false := by
    rintro ⟨t, o, hv, hp⟩
    exact ⟨t, o, List.mem_append_left _ hv, hp⟩
  cases ht with
  | reuse o ho =>
    refine ⟨fun hs => old (h.stopped hs), ?_, h.first_append (by simp)⟩
    intro t o' hd hc
    by_cases hts : t = s
    · simp [hts] at hd
    · exact old (h.held t o' (by simpa [hts] using hd) hc)
  | skip hn hs =>
    exact ⟨fun hs => old (h.stopped hs), fun t o' hd hc => old (h.held t o' hd hc),
      h.first_append fun _ => hs⟩
  | own o hn hs hav =>
    refine ⟨?_, fun t o' hd hc => old (h.held t o' hd hc), h.first_append (by simp)⟩
    intro hd
    simp only [Bool.and_eq_true, Bool.not_eq_true'] at hd
    exact ⟨s, o, by simp, hd.1⟩
  | retry o o' f hn hs hno hav =>
    refine ⟨?_, ?_, h.first_append (by split <;> simp)⟩
    · intro hd
      simp only [Bool.and_eq_true, Bool.not_eq_true'] at hd
      exact ⟨s, o, by simp [hd.1], hno⟩
    · intro t o₁ hd hc
      by_cases htf : t = f
      · subst htf
        simp only [Function.update_self, Option.some.injEq] at hd
        subst hd
        exact ⟨s, o, by simp [hc], hno⟩
      · exact old (h.held t o₁ (by simpa [htf] using hd) hc)

/-- A whole run keeps the blame. -/
theorem Blame.run {P : Policy σ ω} {c d : Config σ ω} {steps : List σ} {b : List (σ × ω)}
    {w : List (σ × Verdict σ ω)} (hr : Run P c steps b w d) {v : List (σ × Verdict σ ω)}
    (h : Blame P c v) : Blame P d (v ++ w) := by
  induction hr generalizing v with
  | nil c => simpa using h
  | cons ht hr ih => simpa using ih (h.step ht)

theorem blame_of_run {P : Policy σ ω} {d : Config σ ω} {steps : List σ} {a : List (σ × ω)}
    {v : List (σ × Verdict σ ω)} (hr : Run P start steps a v d) : Blame P d v := by
  simpa using (Blame.initial P).run hr

/-- The first step is attempted at its own turn. -/
theorem Run.attempts_ne_nil {P : Policy σ ω} {d : Config σ ω} {steps : List σ}
    {a : List (σ × ω)} {v : List (σ × Verdict σ ω)} (hr : Run P start steps a v d)
    (hne : steps ≠ []) : a ≠ [] := by
  cases hr with
  | nil c => exact absurd rfl hne
  | cons ht hr =>
    cases ht with
    | reuse o ho => simp [start] at ho
    | skip hn hs => simp [start] at hs
    | own o hn hs hav => simp
    | retry o o' f hn hs hno hav => simp

/-- Nothing is skipped unless the policy stops. -/
theorem Run.no_skip {P : Policy σ ω} {c d : Config σ ω} {steps : List σ} {a : List (σ × ω)}
    {v : List (σ × Verdict σ ω)} (hr : Run P c steps a v d) (hP : P.stops = false)
    (hc : c.stopped = false) (s : σ) : (s, .skipped) ∉ v := by
  induction hr with
  | nil c => simp
  | cons ht hr ih =>
    cases ht with
    | reuse o ho => simpa using ih hc
    | skip hn hs => simp [hc] at hs
    | own o hn hs hav => simpa using ih (by simp [hP])
    | retry o o' f hn hs hno hav =>
      have h := ih (by simp [hP])
      split <;> simpa using h

/-- A run that never stops attempts every step exactly once. -/
theorem Run.all_attempted {P : Policy σ ω} {d : Config σ ω} {steps : List σ} {a : List (σ × ω)}
    {v : List (σ × Verdict σ ω)} (hl : Layout P steps) (hr : Run P start steps a v d)
    (hP : P.stops = false) : (a.map Prod.fst).Perm steps := by
  have h := ledger_of_run hl hr
  rw [List.perm_ext_iff_of_nodup h.once hl.nodup]
  intro s
  constructor
  · intro hs
    obtain ⟨⟨t, o⟩, ho, rfl⟩ := List.mem_map.mp hs
    exact h.closed ho
  · intro hs
    obtain ⟨w, hw⟩ := h.verdict hs
    have hne : w ≠ .skipped := by
      rintro rfl
      exact hr.no_skip hP rfl s hw
    obtain ⟨o, ho⟩ := h.attempted hw hne
    exact List.mem_map_of_mem (f := Prod.fst) ho

end FallbackRun
