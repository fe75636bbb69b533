import Mathlib.Data.List.Nodup
import Mathlib.Logic.Function.Basic

/-!
# Writes over writes

Files are a function from paths. A write puts its contents at its path, over
whatever was there: all writes of a list survive exactly if no two of them share
a path, unless something else tells the same.
-/
namespace Overwrites

variable {ω π χ : Type} [DecidableEq π] (path : ω → π) (contents : ω → χ)

/-- The files after some writes, in order. -/
def after (files : π → Option χ) (writes : List ω) : π → Option χ :=
  writes.foldl (fun files write => Function.update files (path write) (some (contents write))) files

variable {path contents} {files : π → Option χ} {writes : List ω}

@[simp] theorem after_nil : after path contents files [] = files := rfl

theorem after_append (writes writes' : List ω) :
    after path contents files (writes ++ writes') =
      after path contents (after path contents files writes) writes' :=
  List.foldl_append

theorem after_cons (write : ω) (writes : List ω) :
    after path contents files (write :: writes) =
      after path contents (Function.update files (path write) (some (contents write))) writes :=
  rfl

/-- Paths that are not written keep their file. -/
theorem after_of_unwritten {p : π} (h : p ∉ writes.map path) :
    after path contents files writes p = files p := by
  induction writes generalizing files with
  | nil => rfl
  | cons write writes ih =>
    rw [List.map_cons, List.mem_cons, not_or] at h
    rw [after_cons, ih h.2, Function.update_of_ne h.1]

/-- A file was there before, or one of the writes has written it. -/
theorem after_eq_some {p : π} {c : χ} (h : after path contents files writes p = some c) :
    files p = some c ∨ ∃ write ∈ writes, path write = p ∧ contents write = c := by
  induction writes generalizing files with
  | nil => exact .inl h
  | cons write writes ih =>
    rw [after_cons] at h
    rcases ih h with hf | ⟨write', hm, hp, hc⟩
    · by_cases he : p = path write
      · subst he
        rw [Function.update_self] at hf
        exact .inr ⟨write, List.mem_cons_self, rfl, Option.some.inj hf⟩
      · rw [Function.update_of_ne he] at hf
        exact .inl hf
    · exact .inr ⟨write', List.mem_cons_of_mem write hm, hp, hc⟩

/-- Writes to different paths all survive. -/
theorem after_of_nodup (h : (writes.map path).Nodup) {write : ω} (hm : write ∈ writes) :
    after path contents files writes (path write) = some (contents write) := by
  induction writes generalizing files with
  | nil => cases hm
  | cons write' writes ih =>
    rw [List.map_cons, List.nodup_cons] at h
    rw [after_cons]
    rcases List.mem_cons.mp hm with rfl | hm
    · rw [after_of_unwritten h.1, Function.update_self]
    · exact ih h.2 hm

/-- Where only a write's own contents tell of it, writes that are all told of have
different paths. -/
theorem nodup_of_told {tells : χ → ω → Prop} (hnodup : writes.Nodup)
    (hbefore : ∀ p c, files p = some c → ∀ write ∈ writes, ¬ tells c write)
    (hown : ∀ write ∈ writes, ∀ write' ∈ writes, tells (contents write') write → write' = write)
    (htold : ∀ write ∈ writes, ∃ p c, after path contents files writes p = some c ∧
      tells c write) : (writes.map path).Nodup := by
  have hlast : ∀ write ∈ writes, tells (contents write) write ∧
      after path contents files writes (path write) = some (contents write) := by
    intro write hm
    obtain ⟨p, c, hc, ht⟩ := htold write hm
    rcases after_eq_some hc with hf | ⟨write', hm', rfl, rfl⟩
    · exact absurd ht (hbefore p c hf write hm)
    · obtain rfl := hown write hm write' hm' ht
      exact ⟨ht, hc⟩
  rw [List.nodup_map_iff_inj_on hnodup]
  intro write hm write' hm' hp
  obtain ⟨ht, hc⟩ := hlast write hm
  obtain ⟨-, hc'⟩ := hlast write' hm'
  rw [hp, hc'] at hc
  rw [← Option.some.inj hc] at ht
  exact (hown write hm write' hm' ht).symm

end Overwrites
