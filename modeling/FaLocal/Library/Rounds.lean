import FaLocal.Library.Traced

/-!
# Loops that leave a trace

A loop runs a body on the elements of a list, one after another, until one of them
throws. What a round says about its outcome and its entries is a parameter.
-/
namespace Traced

variable {κ ε β γ δ ζ : Type}

/-- Run the body on every element; `index` counts the rounds. -/
def eachFrom (body : Nat → β → Traced κ ε γ) : Nat → List β → Traced κ ε (List γ)
  | _, [] => return []
  | index, b :: rest => do
    let c ← body index b
    let cs ← eachFrom body (index + 1) rest
    return c :: cs

/-- The rounds of a loop that came to its end or was broken off. A round finds a log and
appends its entries. -/
inductive Rounds (R : List κ → β → Except ε γ → List κ → Prop) :
    List κ → List β → Except ε (List γ) → List κ → Prop where
  | ended (log : List κ) : Rounds R log [] (.ok []) []
  | next {log : List κ} {b : β} {c : γ} {rest : List β} {r : Except ε (List γ)}
      {entries later : List κ} : R log b (.ok c) entries → Rounds R (log ++ entries) rest r later →
      Rounds R log (b :: rest) (r.map (c :: ·)) (entries ++ later)
  | broken {log : List κ} {b : β} {rest : List β} {e : ε} {entries : List κ} :
      R log b (.error e) entries → Rounds R log (b :: rest) (.error e) entries

theorem eachFrom_rounds {body : Nat → β → Traced κ ε γ}
    {R : List κ → β → Except ε γ → List κ → Prop}
    (h : ∀ index b log, ∃ entries, (body index b log).2 = log ++ entries ∧
      R log b (body index b log).1 entries) (index : Nat) (l : List β) (log : List κ) :
    ∃ entries, (eachFrom body index l log).2 = log ++ entries ∧
      Rounds R log l (eachFrom body index l log).1 entries := by
  induction l generalizing index log with
  | nil => exact ⟨[], by simp [eachFrom], .ended log⟩
  | cons b rest ih =>
    obtain ⟨entries, he, hR⟩ := h index b log
    rw [eachFrom]
    cases hb : body index b log with
    | mk r mid =>
      rw [hb] at he hR
      cases r with
      | error e =>
        rw [bind_of_error hb]
        exact ⟨entries, he, .broken hR⟩
      | ok c =>
        rw [bind_of_ok hb]
        obtain ⟨later, hl, hrest⟩ := ih (index + 1) mid
        have hmid : mid = log ++ entries := he
        have hnext : Rounds R log (b :: rest) ((eachFrom body (index + 1) rest mid).1.map (c :: ·))
            (entries ++ later) := .next hR (by rw [← hmid]; exact hrest)
        rw [bind_apply]
        cases ht : eachFrom body (index + 1) rest mid with
        | mk r out =>
          rw [ht] at hl hnext
          have hout : out = log ++ (entries ++ later) := by
            rw [← List.append_assoc, ← hmid]
            exact hl
          cases r with
          | error e => exact ⟨entries ++ later, hout, hnext⟩
          | ok cs => exact ⟨entries ++ later, hout, hnext⟩

namespace Rounds

variable {R : List κ → β → Except ε γ → List κ → Prop} {log : List κ} {l : List β}
  {r : Except ε (List γ)} {cs : List γ} {entries : List κ}

/-- The rounds of a loop that came to its end. -/
theorem ok_induction {motive : List κ → List β → List γ → List κ → Prop}
    (ended : ∀ log, motive log [] [] [])
    (next : ∀ {log b c rest cs entries later}, R log b (.ok c) entries →
      motive (log ++ entries) rest cs later → motive log (b :: rest) (c :: cs) (entries ++ later))
    (h : Rounds R log l (.ok cs) entries) : motive log l cs entries := by
  generalize hr : (.ok cs : Except ε (List γ)) = r at h
  induction h generalizing cs with
  | ended log =>
    cases hr
    exact ended log
  | @next log b c rest r entries later hR _ ih =>
    cases r with
    | error e => cases hr
    | ok cs' =>
      cases hr
      exact next hR (ih rfl)
  | broken => cases hr

/-- Every round leaves one entry of a kind that tells its element. -/
theorem inputs {φ : κ → Option δ} {g : β → δ}
    (hR : ∀ log b r entries, R log b r entries → entries.filterMap φ = [g b])
    (h : Rounds R log l r entries) : entries.filterMap φ <+: l.map g := by
  induction h with
  | ended => exact List.prefix_rfl
  | next hround _ ih =>
    rw [List.filterMap_append, hR _ _ _ _ hround, List.map_cons]
    exact List.prefix_cons_inj _ |>.mpr ih
  | broken hround =>
    rw [hR _ _ _ _ hround]
    exact ⟨_, rfl⟩

theorem inputs_of_ok {φ : κ → Option δ} {g : β → δ}
    (hR : ∀ log b c entries, R log b (.ok c) entries → entries.filterMap φ = [g b])
    (h : Rounds R log l (.ok cs) entries) : entries.filterMap φ = l.map g := by
  refine ok_induction (motive := fun _ l _ entries => entries.filterMap φ = l.map g)
    (fun _ => rfl) (fun hround ih => ?_) h
  rw [List.filterMap_append, hR _ _ _ _ hround, ih]
  rfl

/-- Every completed round leaves one entry of a kind that tells its outcome. -/
theorem outputs {φ : κ → Option δ} {g : γ → δ}
    (hR : ∀ log b c entries, R log b (.ok c) entries → entries.filterMap φ = [g c])
    (h : Rounds R log l (.ok cs) entries) : entries.filterMap φ = cs.map g := by
  refine ok_induction (motive := fun _ _ cs entries => entries.filterMap φ = cs.map g)
    (fun _ => rfl) (fun hround ih => ?_) h
  rw [List.filterMap_append, hR _ _ _ _ hround, ih]
  rfl

/-- Every completed round leaves two entries that belong together. -/
theorem paired {φ : κ → Option δ} {ψ : κ → Option ζ} {P : δ → ζ → Prop}
    (hR : ∀ log b c entries, R log b (.ok c) entries →
      ∃ x y, entries.filterMap φ = [x] ∧ entries.filterMap ψ = [y] ∧ P x y)
    (h : Rounds R log l (.ok cs) entries) :
    List.Forall₂ P (entries.filterMap φ) (entries.filterMap ψ) := by
  refine ok_induction (motive := fun _ _ _ entries =>
    List.Forall₂ P (entries.filterMap φ) (entries.filterMap ψ)) (fun _ => .nil)
    (fun hround ih => ?_) h
  obtain ⟨x, y, hx, hy, hp⟩ := hR _ _ _ _ hround
  rw [List.filterMap_append, List.filterMap_append, hx, hy]
  exact .cons hp ih

/-- Where rounds begin with their one marked entry, a marked entry stands behind
completed rounds only. -/
theorem split {marked : κ → Prop}
    (hR : ∀ log b r entries, R log b r entries →
      ∃ x tail, entries = x :: tail ∧ ∀ y ∈ tail, ¬ marked y)
    (h : Rounds R log l r entries) {pre post : List κ} {x : κ}
    (he : entries = pre ++ x :: post) (hx : marked x) :
    ∃ before b after cs, l = before ++ b :: after ∧ Rounds R log before (.ok cs) pre := by
  induction h generalizing pre with
  | ended => simp at he
  | @next log b c rest r entries later hround _ ih =>
    obtain ⟨y, tail, rfl, hquiet⟩ := hR _ _ _ _ hround
    rcases List.append_eq_append_iff.mp he with ⟨pre', rfl, hl⟩ | ⟨mid, hmid, hpost⟩
    · obtain ⟨before, b', after, cs, rfl, hr⟩ := ih hl
      exact ⟨b :: before, b', after, c :: cs, rfl, .next hround hr⟩
    · cases pre with
      | nil => exact ⟨[], b, rest, [], rfl, .ended log⟩
      | cons z pre =>
        cases mid with
        | nil =>
          have hlater : later = [] ++ x :: post := by simpa using hpost.symm
          obtain ⟨before, b', after, cs, rfl, hr⟩ := ih hlater
          refine ⟨b :: before, b', after, c :: cs, rfl, ?_⟩
          have hwhole : z :: pre = (y :: tail) ++ [] := by simpa using hmid.symm
          rw [hwhole]
          exact .next hround hr
        | cons w mid =>
          -- the marked entry would lie inside of a round
          have hw : w = x := by simpa using (List.cons.inj hpost).1.symm
          have htail : tail = pre ++ w :: mid := by simpa using (List.cons.inj hmid).2
          exact absurd hx (hquiet x (by simp [htail, hw]))
  | @broken log b rest e entries hround =>
    obtain ⟨y, tail, rfl, hquiet⟩ := hR _ _ _ _ hround
    cases pre with
    | nil => exact ⟨[], b, rest, [], rfl, .ended log⟩
    | cons z pre =>
      exact absurd hx (hquiet x (by simp [(List.cons.inj he).2]))

end Rounds

end Traced
