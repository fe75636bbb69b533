import Mathlib.Data.List.Perm.Basic
import Mathlib.Data.List.Nodup

/-!
# Lists with keys

A lookup takes the first entry of a key and does not see the entries behind it.
Rearranged lists that keep the first entry of every key are looked up alike; with
keys that are not repeated, that is any rearrangement.
-/
namespace Keyed

variable {β κ : Type} [DecidableEq κ] {key : β → κ} {l l' : List β}

variable (key) in
/-- The same entries, with the same entry first for every key. -/
structure Rearranged (l l' : List β) : Prop where
  perm : l'.Perm l
  first : ∀ k, (l'.filter fun b => key b = k).head? = (l.filter fun b => key b = k).head?

theorem Rearranged.refl (l : List β) : Rearranged key l l := ⟨.refl l, fun _ => rfl⟩

/-- Lookups agree. -/
theorem Rearranged.find? (h : Rearranged key l l') (k : κ) :
    l'.find? (fun b => key b == k) = l.find? fun b => key b == k := by
  have hfirst := h.first k
  rw [List.head?_filter, List.head?_filter] at hfirst
  exact hfirst

/-- Of a key that is not repeated there is at most one entry. -/
theorem filter_length_le (h : (l.map key).Nodup) (k : κ) :
    (l.filter fun b => key b = k).length ≤ 1 := by
  have hkeys : ∀ b ∈ l.filter fun b => key b = k, key b = k := fun b hb => by
    simpa using (List.mem_filter.mp hb).2
  have hnodup : ((l.filter fun b => key b = k).map key).Nodup := h.sublist (List.filter_sublist.map key)
  rcases hl : l.filter (fun b => key b = k) with _ | ⟨a, _ | ⟨b, rest⟩⟩
  · simp
  · simp
  · rw [hl] at hkeys hnodup
    simp [hkeys a (by simp), hkeys b (by simp)] at hnodup

/-- An entry is found under its own key. -/
theorem find?_of_mem (h : (l.map key).Nodup) {b : β} (hb : b ∈ l) :
    l.find? (fun b' => key b' == key b) = some b := by
  cases hfind : l.find? fun b' => key b' == key b with
  | none => simpa using List.find?_eq_none.mp hfind b hb
  | some b' =>
    have hkey : key b' = key b := by simpa using List.find?_some hfind
    rw [List.inj_on_of_nodup_map h (List.mem_of_find?_eq_some hfind) hb hkey]

theorem rearranged_of_nodup (h : (l.map key).Nodup) (hp : l'.Perm l) : Rearranged key l l' where
  perm := hp
  first := fun k => by
    have hfilter := hp.filter fun b => key b = k
    have hl := filter_length_le h k
    rcases he : l.filter (fun b => key b = k) with _ | ⟨a, _ | ⟨b, rest⟩⟩
    · rw [he] at hfilter
      rw [hfilter.eq_nil]
    · rw [he] at hfilter
      rw [hfilter.eq_singleton]
    · simp [he] at hl

end Keyed
