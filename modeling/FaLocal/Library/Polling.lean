import Mathlib.Data.Nat.Init
import Mathlib.Tactic.Common

/-!
# Polling against a deadline

A loop asks until there is an answer, and looks at the clock after every ask without one. The
ask of a turn and the look behind it are parameters, so that whoever is asked may do anything.
A clock that is paused for between two looks ends the loop by itself.
-/
namespace Polling

variable {α : Type} {ask : Nat → Option α} {late : Nat → Bool} {ending : Option α}
  {fuel i n k : Nat}

/-- What ends the loop in a turn: an answer, or, as `none`, a look that is late. -/
def turn (ask : Nat → Option α) (late : Nat → Bool) (i : Nat) : Option (Option α) :=
  match ask i with
  | some a => some (some a)
  | none => if late i then some none else none

/-- At most `fuel` turns from the `i`th on, with the number of the last. -/
def poll (ask : Nat → Option α) (late : Nat → Bool) : Nat → Nat → Option (Option α × Nat)
  | 0, _ => none
  | fuel + 1, i =>
    match turn ask late i with
    | some ending => some (ending, i)
    | none => poll ask late fuel (i + 1)

@[simp] theorem turn_eq_none : turn ask late i = none ↔ ask i = none ∧ late i = false := by
  rw [turn]
  cases ask i with
  | some a => simp
  | none => cases late i <;> simp

theorem turn_answered {a : α} : turn ask late i = some (some a) ↔ ask i = some a := by
  rw [turn]
  cases ask i with
  | some b => simp
  | none => cases late i <;> simp

theorem turn_expired : turn ask late i = some none ↔ ask i = none ∧ late i = true := by
  rw [turn]
  cases ask i with
  | some b => simp
  | none => cases late i <;> simp

/-- The loop ends in the first turn that ends it, if there is fuel to reach it. -/
theorem poll_eq_some_iff : poll ask late fuel i = some (ending, n) ↔
    i ≤ n ∧ n < i + fuel ∧ turn ask late n = some ending ∧
      ∀ j, i ≤ j → j < n → turn ask late j = none := by
  induction fuel generalizing i with
  | zero =>
    simp only [poll, reduceCtorEq, false_iff]
    omega
  | succ fuel ih =>
    rw [poll]
    cases hturn : turn ask late i with
    | some first =>
      simp only [Option.some.injEq, Prod.mk.injEq]
      constructor
      · rintro ⟨rfl, rfl⟩
        exact ⟨Nat.le_refl i, by omega, hturn, fun j hij hji => by omega⟩
      · rintro ⟨hin, -, hn, hbefore⟩
        have heq : i = n := by
          by_contra hne
          have hnone := hbefore i (Nat.le_refl i) (by omega)
          rw [hturn] at hnone
          cases hnone
        subst heq
        rw [hturn] at hn
        exact ⟨Option.some.inj hn, rfl⟩
    | none =>
      simp only
      rw [ih]
      constructor
      · rintro ⟨hin, hlt, hn, hbefore⟩
        refine ⟨by omega, by omega, hn, fun j hij hjn => ?_⟩
        by_cases h : j = i
        · subst h
          exact hturn
        · exact hbefore j (by omega) hjn
      · rintro ⟨hin, hlt, hn, hbefore⟩
        have hne : i ≠ n := by
          rintro rfl
          rw [hturn] at hn
          cases hn
        exact ⟨by omega, by omega, hn, fun j hij hjn => hbefore j (by omega) hjn⟩

/-- Fuel for a turn that ends the loop is enough. -/
theorem poll_returns (hk : turn ask late k ≠ none) (hi : i ≤ k) (hfuel : k < i + fuel) :
    ∃ ending n, poll ask late fuel i = some (ending, n) ∧ n ≤ k := by
  induction fuel generalizing i with
  | zero => omega
  | succ fuel ih =>
    rw [poll]
    cases hturn : turn ask late i with
    | some first => exact ⟨first, i, rfl, hi⟩
    | none =>
      have hne : i ≠ k := by
        rintro rfl
        exact hk hturn
      exact ih (by omega) (by omega)

/-! ## Clocks -/

/-- Readings of a clock that is paused for between two of them. -/
structure Paced (interval start : Nat) (clock : Nat → Nat) : Prop where
  begins : start ≤ clock 0
  pauses : ∀ i, clock i + interval ≤ clock (i + 1)

variable {interval start wait : Nat} {clock : Nat → Nat}

theorem Paced.le (h : Paced interval start clock) (n : Nat) :
    start + n * interval ≤ clock n := by
  induction n with
  | zero => simpa using h.begins
  | succ n ih =>
    have hpause := h.pauses n
    rw [Nat.succ_mul]
    omega

/-- A clock that pauses reaches every deadline. -/
theorem Paced.reaches (h : Paced interval start clock) (hk : wait ≤ k * interval) :
    start + wait ≤ clock k := by
  have hle := h.le k
  omega

/-- A loop with a deadline ends by the turn in which a clock that pauses must have passed
it. -/
theorem Paced.poll_returns (h : Paced interval start clock) (hk : wait ≤ k * interval) :
    ∃ ending n, poll ask (fun i => start + wait ≤ clock i) (k + 1) 0 = some (ending, n) ∧
      n ≤ k := by
  refine Polling.poll_returns (k := k) ?_ (Nat.zero_le k) (by omega)
  rw [ne_eq, turn_eq_none, not_and]
  intro _
  simp [h.reaches hk]

end Polling
