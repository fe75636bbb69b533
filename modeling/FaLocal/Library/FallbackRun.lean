import Mathlib.Data.List.Nodup
import Mathlib.Data.List.Perm.Basic
import Mathlib.Logic.Function.Basic
import Mathlib.Tactic.Common

/-!
# Runs over a list of steps with out-of-order fallbacks

A dispatcher walks a list of steps. A step whose attempt does not complete may
send it ahead to a fallback step, whose outcome is then held until that step's
own turn comes. An uncompleted step may stop all remaining attempts. Steps and
outcomes are arbitrary; only the completing outcomes are told apart.
-/
namespace FallbackRun

variable {σ ω : Type}

structure Policy (σ ω : Type) where
  completes : ω → Bool
  fallback : σ → Option σ
  stops : Bool

structure Config (σ ω : Type) where
  held : σ → Option ω
  stopped : Bool

def start : Config σ ω := ⟨fun _ => none, false⟩

/-- What is finally said about a step. -/
inductive Verdict (σ ω : Type) where
  | own : ω → Verdict σ ω
  | via : σ → Verdict σ ω
  | skipped : Verdict σ ω

def Verdict.completed (P : Policy σ ω) : Verdict σ ω → Bool
  | .own o => P.completes o
  | .via _ => true
  | .skipped => false

/-- The declared fallback, unless its outcome is already held. -/
def available (P : Policy σ ω) (c : Config σ ω) (s : σ) : Option σ :=
  (P.fallback s).filter fun f => (c.held f).isNone

theorem available_eq_some {P : Policy σ ω} {c : Config σ ω} {s f : σ} :
    available P c s = some f ↔ P.fallback s = some f ∧ c.held f = none := by
  simp [available, Option.filter_eq_some_iff]

/-- The steps are distinct and every fallback lies behind its step. -/
structure Layout (P : Policy σ ω) (steps : List σ) : Prop where
  nodup : steps.Nodup
  later : ∀ s f pre post, P.fallback s = some f → steps = pre ++ s :: post → f ∈ post

/-- What the attempts made so far say about the verdicts given so far. -/
structure Ledger (P : Policy σ ω) (pre rest : List σ) (c : Config σ ω) (a : List (σ × ω))
    (v : List (σ × Verdict σ ω)) : Prop where
  listed : v.map Prod.fst = pre
  once : (a.map Prod.fst).Nodup
  scope : ∀ s o, (s, o) ∈ a → s ∈ pre ∨ ∃ o', c.held s = some o'
  held : ∀ s o, c.held s = some o → s ∈ rest ∧ (s, o) ∈ a
  own : ∀ s o, (s, .own o) ∈ v → (s, o) ∈ a
  via : ∀ s f, (s, .via f) ∈ v → P.fallback s = some f ∧
    (∃ o, (s, o) ∈ a ∧ P.completes o = false) ∧ ∃ o, (f, o) ∈ a ∧ P.completes o = true
  skipped : ∀ s, (s, .skipped) ∈ v → ∀ o, (s, o) ∉ a

theorem Ledger.initial (P : Policy σ ω) (steps : List σ) :
    Ledger P [] steps start [] [] := by
  constructor <;> simp [start]

section
variable {P : Policy σ ω} {pre rest : List σ} {c : Config σ ω} {a : List (σ × ω)}
  {v : List (σ × Verdict σ ω)} {s : σ}

/-- A step whose turn has not come and that is not held has not been attempted. -/
theorem Ledger.fresh (h : Ledger P pre rest c a v) {t : σ} (hp : t ∉ pre)
    (hn : c.held t = none) (o : ω) : (t, o) ∉ a := by
  intro ha
  rcases h.scope t o ha with ht | ⟨o', ho⟩
  · exact hp ht
  · simp [hn] at ho

/-- A held step that is not at its turn comes behind it. -/
theorem Ledger.held_behind (h : Ledger P pre (s :: rest) c a v) {t : σ} {o : ω} (hne : t ≠ s)
    (ho : c.held t = some o) : t ∈ rest ∧ (t, o) ∈ a := by
  obtain ⟨hm, ha⟩ := h.held t o ho
  exact ⟨(List.mem_cons.mp hm).resolve_left hne, ha⟩

theorem Ledger.mem_pre (h : Ledger P pre rest c a v) {t : σ} {w : Verdict σ ω}
    (hv : (t, w) ∈ v) : t ∈ pre :=
  h.listed ▸ List.mem_map_of_mem (f := Prod.fst) hv

/-- More attempts do not take back what a fallback has completed. -/
theorem Ledger.via_append (h : Ledger P pre rest c a v) (b : List (σ × ω)) {t f : σ}
    (hv : (t, .via f) ∈ v) : P.fallback t = some f ∧
      (∃ o, (t, o) ∈ a ++ b ∧ P.completes o = false) ∧
        ∃ o, (f, o) ∈ a ++ b ∧ P.completes o = true := by
  obtain ⟨hf, ⟨o, ho, hno⟩, o', ho', hc⟩ := h.via t f hv
  exact ⟨hf, ⟨o, List.mem_append_left b ho, hno⟩, o', List.mem_append_left b ho', hc⟩

theorem Layout.turn (hl : Layout P (pre ++ s :: rest)) :
    s ∉ pre ∧ s ∉ rest ∧ ∀ t ∈ rest, t ∉ pre := by
  have hn := List.nodup_append.mp hl.nodup
  have hs := List.nodup_cons.mp hn.2.1
  refine ⟨fun hp => hn.2.2 s hp s (by simp) rfl, hs.1, fun t ht hp => ?_⟩
  exact hn.2.2 t hp t (by simp [ht]) rfl

end

variable [DecidableEq σ]

/-- One turn of the loop, with the attempts it makes in order. -/
inductive Turn (P : Policy σ ω) (c : Config σ ω) (s : σ) :
    List (σ × ω) → Verdict σ ω → Config σ ω → Prop where
  | reuse (o : ω) : c.held s = some o →
      Turn P c s [] (.own o) ⟨Function.update c.held s none, c.stopped⟩
  | skip : c.held s = none → c.stopped = true → Turn P c s [] .skipped c
  | own (o : ω) : c.held s = none → c.stopped = false →
      (P.completes o = true ∨ available P c s = none) →
      Turn P c s [(s, o)] (.own o) ⟨c.held, !P.completes o && P.stops⟩
  | retry (o o' : ω) (f : σ) : c.held s = none → c.stopped = false → P.completes o = false →
      available P c s = some f →
      Turn P c s [(s, o), (f, o')] (if P.completes o' then .via f else .own o)
        ⟨Function.update c.held f (some o'), !P.completes o' && P.stops⟩

/-- A completed walk over a list of steps. -/
inductive Run (P : Policy σ ω) : Config σ ω → List σ → List (σ × ω) →
    List (σ × Verdict σ ω) → Config σ ω → Prop where
  | nil (c : Config σ ω) : Run P c [] [] [] c
  | cons {c m d : Config σ ω} {s : σ} {rest : List σ} {a b : List (σ × ω)} {v : Verdict σ ω}
      {w : List (σ × Verdict σ ω)} : Turn P c s a v m → Run P m rest b w d →
      Run P c (s :: rest) (a ++ b) ((s, v) :: w) d

/-- A walk that may have been broken off anywhere: the attempts that returned,
and the step whose attempt was begun last and did not return, if there is one. -/
inductive Begun (P : Policy σ ω) : Config σ ω → List σ → List (σ × ω) → List σ → Prop where
  | nil (c : Config σ ω) (rest : List σ) : Begun P c rest [] []
  | turn {c m : Config σ ω} {s : σ} {rest l : List σ} {a b : List (σ × ω)} {v : Verdict σ ω} :
      Turn P c s a v m → Begun P m rest b l → Begun P c (s :: rest) (a ++ b) l
  | own {c : Config σ ω} {s : σ} {rest : List σ} : c.held s = none → c.stopped = false →
      Begun P c (s :: rest) [] [s]
  | returned {c : Config σ ω} {s : σ} {rest : List σ} (o : ω) : c.held s = none →
      c.stopped = false → Begun P c (s :: rest) [(s, o)] []
  | retry {c : Config σ ω} {s f : σ} {rest : List σ} (o : ω) : c.held s = none →
      c.stopped = false → available P c s = some f → Begun P c (s :: rest) [(s, o)] [f]

theorem Run.begun {P : Policy σ ω} {c d : Config σ ω} {steps : List σ} {a : List (σ × ω)}
    {v : List (σ × Verdict σ ω)} (h : Run P c steps a v d) : Begun P c steps a [] := by
  induction h with
  | nil c => exact .nil c []
  | cons ht _ ih => exact .turn ht ih

theorem Run.append {P : Policy σ ω} {c m d : Config σ ω} {pre post : List σ}
    {a b : List (σ × ω)} {v w : List (σ × Verdict σ ω)}
    (h : Run P c pre a v m) (h' : Run P m post b w d) :
    Run P c (pre ++ post) (a ++ b) (v ++ w) d := by
  induction h with
  | nil c => simpa using h'
  | cons ht _ ih => simpa using Run.cons ht (ih h')

/-- A run can be cut after any number of verdicts. -/
theorem Run.split {P : Policy σ ω} {c d : Config σ ω} {steps : List σ} {a : List (σ × ω)}
    {w : List (σ × Verdict σ ω)} (v : List (σ × Verdict σ ω)) (h : Run P c steps a (v ++ w) d) :
    ∃ pre post a₁ a₂ m, steps = pre ++ post ∧ a = a₁ ++ a₂ ∧ Run P c pre a₁ v m ∧
      Run P m post a₂ w d := by
  induction v generalizing c steps a with
  | nil => exact ⟨[], steps, [], a, c, rfl, rfl, .nil c, h⟩
  | cons q v ih =>
    cases h with
    | cons ht hr =>
      obtain ⟨pre, post, a₁, a₂, m, rfl, rfl, hv, hw⟩ := ih hr
      exact ⟨_ :: pre, post, _ ++ a₁, a₂, m, rfl, by simp, .cons ht hv, hw⟩

section
variable {P : Policy σ ω} {pre rest : List σ} {c : Config σ ω} {a : List (σ × ω)}
  {v : List (σ × Verdict σ ω)} {s : σ}

/-- A turn that uses what is held. -/
theorem Ledger.reuse_turn (h : Ledger P pre (s :: rest) c a v) {o : ω} (ho : c.held s = some o) :
    Ledger P (pre ++ [s]) rest ⟨Function.update c.held s none, c.stopped⟩ (a ++ [])
      (v ++ [(s, .own o)]) := by
  refine ⟨by simp [h.listed], by simpa using h.once, ?_, ?_, ?_, ?_, ?_⟩
  · intro t o' ha
    by_cases hts : t = s
    · simp [hts]
    · rcases h.scope t o' (by simpa using ha) with hp | hh
      · simp [hp]
      · exact .inr (by simpa [hts] using hh)
  · intro t o' hd
    by_cases hts : t = s
    · simp [hts] at hd
    · simpa using h.held_behind hts (by simpa [hts] using hd)
  · intro t o' hv
    simp only [List.mem_append, List.mem_singleton, Prod.mk.injEq, Verdict.own.injEq,
      List.append_nil] at hv ⊢
    rcases hv with hv | ⟨rfl, rfl⟩
    · exact h.own t o' hv
    · exact (h.held t o' ho).2
  · intro t f hv
    exact h.via_append [] (by simpa using hv)
  · intro t hv
    simpa using h.skipped t (by simpa using hv)

omit [DecidableEq σ] in
/-- A turn that is skipped. -/
theorem Ledger.skip_turn (h : Ledger P pre (s :: rest) c a v) (hsp : s ∉ pre)
    (hn : c.held s = none) : Ledger P (pre ++ [s]) rest c (a ++ []) (v ++ [(s, .skipped)]) := by
  refine ⟨by simp [h.listed], by simpa using h.once, ?_, ?_, ?_, ?_, ?_⟩
  · intro t o' ha
    rcases h.scope t o' (by simpa using ha) with hp | hh
    · simp [hp]
    · exact .inr hh
  · intro t o' hd
    simpa using h.held_behind (by rintro rfl; simp [hn] at hd) hd
  · intro t o' hv
    simpa using h.own t o' (by simpa using hv)
  · intro t f hv
    exact h.via_append [] (by simpa using hv)
  · intro t hv
    simp only [List.mem_append, List.mem_singleton, Prod.mk.injEq, and_true,
      List.append_nil] at hv ⊢
    rcases hv with hv | rfl
    · exact h.skipped t hv
    · exact h.fresh hsp hn

omit [DecidableEq σ] in
/-- A turn of one attempt. -/
theorem Ledger.own_turn (h : Ledger P pre (s :: rest) c a v) (hsp : s ∉ pre)
    (hn : c.held s = none) (o : ω) (stopped : Bool) :
    Ledger P (pre ++ [s]) rest ⟨c.held, stopped⟩ (a ++ [(s, o)]) (v ++ [(s, .own o)]) := by
  refine ⟨by simp [h.listed], ?_, ?_, ?_, ?_, ?_, ?_⟩
  · simpa using List.Nodup.append h.once (by simp) (by simpa using h.fresh hsp hn)
  · intro t o' ha
    simp only [List.mem_append, List.mem_singleton, Prod.mk.injEq] at ha ⊢
    rcases ha with ha | ⟨rfl, -⟩
    · exact (h.scope t o' ha).imp_left .inl
    · simp
  · intro t o' hd
    obtain ⟨hm, ha⟩ := h.held_behind (by rintro rfl; simp [hn] at hd) hd
    exact ⟨hm, by simp [ha]⟩
  · intro t o' hv
    simp only [List.mem_append, List.mem_singleton, Prod.mk.injEq, Verdict.own.injEq] at hv ⊢
    exact hv.imp_left (h.own t o')
  · intro t f hv
    exact h.via_append _ (by simpa using hv)
  · intro t hv o' ha
    have hv' : (t, Verdict.skipped) ∈ v := by simpa using hv
    simp only [List.mem_append, List.mem_singleton, Prod.mk.injEq] at ha
    rcases ha with ha | ⟨rfl, -⟩
    · exact h.skipped t hv' o' ha
    · exact hsp (h.mem_pre hv')

/-- A turn that attempts a fallback, which is then held. -/
theorem Ledger.retry_turn (h : Ledger P pre (s :: rest) c a v) (hsp : s ∉ pre) {f : σ}
    (hfr : f ∈ rest) (hfp : f ∉ pre) (hfs : f ≠ s) (hn : c.held s = none) (hfn : c.held f = none)
    (hf : P.fallback s = some f) {o : ω} (hno : P.completes o = false) (o' : ω) (stopped : Bool) :
    Ledger P (pre ++ [s]) rest ⟨Function.update c.held f (some o'), stopped⟩
      (a ++ [(s, o), (f, o')]) (v ++ [(s, if P.completes o' then .via f else .own o)]) := by
  refine ⟨by simp [h.listed], ?_, ?_, ?_, ?_, ?_, ?_⟩
  · have hnew : (([(s, o), (f, o')] : List (σ × ω)).map Prod.fst).Nodup := by simp [Ne.symm hfs]
    have hdis : (a.map Prod.fst).Disjoint ([(s, o), (f, o')].map Prod.fst) := by
      simpa using ⟨h.fresh hsp hn, h.fresh hfp hfn⟩
    simpa only [List.map_append] using List.Nodup.append h.once hnew hdis
  · intro t o₁ ha
    simp only [List.mem_append, List.mem_cons, List.not_mem_nil, or_false,
      Prod.mk.injEq] at ha ⊢
    by_cases htf : t = f
    · exact .inr ⟨o', by simp [htf]⟩
    · rcases ha with ha | ⟨rfl, -⟩ | ⟨he, -⟩
      · rcases h.scope t o₁ ha with hp | hh
        · simp [hp]
        · exact .inr (by simpa [htf] using hh)
      · simp
      · exact absurd he htf
  · intro t o₁ hd
    by_cases htf : t = f
    · subst htf
      simp only [Function.update_self, Option.some.injEq] at hd
      exact ⟨hfr, by simp [hd]⟩
    · have hd' : c.held t = some o₁ := by simpa [htf] using hd
      obtain ⟨hm, ha⟩ := h.held_behind (by rintro rfl; simp [hn] at hd') hd'
      exact ⟨hm, by simp [ha]⟩
  · intro t o₁ hv
    split at hv
    · exact List.mem_append_left _ (h.own t o₁ (by simpa using hv))
    · simp only [List.mem_append, List.mem_singleton, Prod.mk.injEq, Verdict.own.injEq] at hv
      rcases hv with hv | ⟨rfl, rfl⟩
      · exact List.mem_append_left _ (h.own t o₁ hv)
      · simp
  · intro t g hv
    split at hv
    · rename_i hc
      simp only [List.mem_append, List.mem_singleton, Prod.mk.injEq, Verdict.via.injEq] at hv
      rcases hv with hv | ⟨rfl, rfl⟩
      · exact h.via_append _ hv
      · exact ⟨hf, ⟨o, by simp, hno⟩, o', by simp, hc⟩
    · exact h.via_append _ (by simpa using hv)
  · intro t hv o₁ ha
    have hv' : (t, Verdict.skipped) ∈ v := by split at hv <;> simpa using hv
    simp only [List.mem_append, List.mem_cons, List.not_mem_nil, or_false,
      Prod.mk.injEq] at ha
    rcases ha with ha | ⟨rfl, -⟩ | ⟨rfl, -⟩
    · exact h.skipped t hv' o₁ ha
    · exact hsp (h.mem_pre hv')
    · exact hfp (h.mem_pre hv')

/-- One turn keeps the ledger. -/
theorem Ledger.step (h : Ledger P pre (s :: rest) c a v) (hl : Layout P (pre ++ s :: rest))
    {b : List (σ × ω)} {w : Verdict σ ω} {d : Config σ ω} (ht : Turn P c s b w d) :
    Ledger P (pre ++ [s]) rest d (a ++ b) (v ++ [(s, w)]) := by
  obtain ⟨hsp, hsr, hrp⟩ := hl.turn
  cases ht with
  | reuse o ho => exact h.reuse_turn ho
  | skip hn hs => exact h.skip_turn hsp hn
  | own o hn hs hav => exact h.own_turn hsp hn o _
  | retry o o' f hn hs hno hav =>
    obtain ⟨hf, hfn⟩ := available_eq_some.mp hav
    have hfr : f ∈ rest := hl.later s f pre rest hf rfl
    have hfs : f ≠ s := by
      rintro rfl
      exact hsr hfr
    exact h.retry_turn hsp hfr (hrp f hfr) hfs hn hfn hf hno o' _

end

/-- A whole run keeps the ledger. -/
theorem Ledger.run {P : Policy σ ω} {steps : List σ} {c d : Config σ ω} {b : List (σ × ω)}
    {w : List (σ × Verdict σ ω)} (hr : Run P c steps b w d) {pre rest : List σ}
    {a : List (σ × ω)} {v : List (σ × Verdict σ ω)} (hl : Layout P (pre ++ (steps ++ rest)))
    (h : Ledger P pre (steps ++ rest) c a v) :
    Ledger P (pre ++ steps) rest d (a ++ b) (v ++ w) := by
  induction hr generalizing pre a v with
  | nil c => simpa using h
  | cons ht hr ih =>
    have h₁ := h.step hl ht
    have h₂ := ih (by simpa using hl) h₁
    simpa using h₂

theorem ledger_of_run {P : Policy σ ω} {steps : List σ} {d : Config σ ω} {a : List (σ × ω)}
    {v : List (σ × Verdict σ ω)} (hl : Layout P steps) (hr : Run P start steps a v d) :
    Ledger P steps [] d a v := by
  have hl' : Layout P ([] ++ (steps ++ [])) := by simpa using hl
  have h : Ledger P [] (steps ++ []) start [] [] := by simpa using Ledger.initial P steps
  simpa only [List.nil_append] using Ledger.run hr hl' h

end FallbackRun
