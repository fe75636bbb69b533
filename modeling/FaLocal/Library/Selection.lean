import Mathlib.Data.List.Perm.Basic
import Mathlib.Data.List.Sort
import Mathlib.Order.Defs.PartialOrder

/-!
# Ordered selections

What a query with a filter and an order leaves open: any arrangement of the
selected rows is an answer that keeps the order of their keys, and rows with
equal keys may stand either way.
-/
namespace Selection

variable {ρ κ ι β : Type}

/-- An answer to a query for the rows of a kind in the order of their keys. -/
structure Selects [LE κ] (kind : ρ → Bool) (key : ρ → κ) (rows answer : List ρ) : Prop where
  perm : answer.Perm (rows.filter kind)
  sorted : answer.Pairwise fun a b => key a ≤ key b

/-- Where all selected rows have one key, any arrangement of them is an answer. -/
theorem selects_iff_perm [Preorder κ] {kind : ρ → Bool} {key : ρ → κ} {rows answer : List ρ}
    (hkey : ∀ a ∈ rows.filter kind, ∀ b ∈ rows.filter kind, key a ≤ key b) :
    Selects kind key rows answer ↔ answer.Perm (rows.filter kind) := by
  refine ⟨fun h => h.perm, fun h => ⟨h, ?_⟩⟩
  refine List.pairwise_of_forall_mem_list fun a ha b hb => ?_
  exact hkey a (h.mem_iff.mp ha) b (h.mem_iff.mp hb)

/-- The arrangements of a written list are written arrangements. -/
theorem perm_map_iff {f : β → ρ} {l : List ρ} {m : List β} :
    l.Perm (m.map f) ↔ ∃ n : List β, n.Perm m ∧ l = n.map f := by
  have h : _ = l.Perm (m.map f) := congrFun₂ (List.eq_map_comp_perm f) l m
  rw [← h]
  exact exists_congr fun n => and_comm

/-- The answers over written rows are the written answers over what they were written from,
if the keys compare as those of the items do. -/
theorem selects_map_iff [LE κ] [LE ι] {kind : ρ → Bool} {key : ρ → κ} {time : β → ι} {f : β → ρ}
    {m : List β} (hkey : ∀ a ∈ m, ∀ b ∈ m, key (f a) ≤ key (f b) ↔ time a ≤ time b)
    {answer : List ρ} : Selects kind key (m.map f) answer ↔
      ∃ n, Selects (fun b => kind (f b)) time m n ∧ answer = n.map f := by
  have hfilter : (m.map f).filter kind = (m.filter fun b => kind (f b)).map f := List.filter_map
  have hsorted : ∀ n : List β, n.Perm (m.filter fun b => kind (f b)) →
      ((n.map f).Pairwise (fun a b => key a ≤ key b) ↔ n.Pairwise fun a b => time a ≤ time b) := by
    intro n hperm
    rw [List.pairwise_map]
    refine List.Pairwise.iff_of_mem fun ha hb => ?_
    exact hkey _ (List.mem_of_mem_filter (hperm.mem_iff.mp ha)) _
      (List.mem_of_mem_filter (hperm.mem_iff.mp hb))
  constructor
  · rintro ⟨hperm, hpairwise⟩
    rw [hfilter] at hperm
    obtain ⟨n, hn, rfl⟩ := perm_map_iff.mp hperm
    exact ⟨n, ⟨hn, (hsorted n hn).mp hpairwise⟩, rfl⟩
  · rintro ⟨n, hn, rfl⟩
    refine ⟨?_, (hsorted n hn.perm).mpr hn.sorted⟩
    rw [hfilter]
    exact hn.perm.map f

/-- There is an answer to every query. -/
theorem exists_selects [LinearOrder κ] (kind : ρ → Bool) (key : ρ → κ) (rows : List ρ) :
    ∃ answer, Selects kind key rows answer := by
  refine ⟨(rows.filter kind).insertionSort fun a b => key a ≤ key b, ?_, ?_⟩
  · exact List.perm_insertionSort _ _
  · have : Std.Total fun a b : ρ => key a ≤ key b := ⟨fun a b => le_total (key a) (key b)⟩
    have : IsTrans ρ fun a b => key a ≤ key b := ⟨fun a b c => le_trans⟩
    exact List.pairwise_insertionSort _ _

/-- A list of different items can be arranged in one way only if it has at most one. -/
theorem arrangement_unique_iff {l : List β} (h : l.Nodup) :
    (∀ m : List β, m.Perm l → m = l) ↔ l.length ≤ 1 := by
  rcases l with _ | ⟨a, _ | ⟨b, l⟩⟩
  · simp
  · simp
  · constructor
    · intro hall
      have hswap := hall _ (List.Perm.swap a b l)
      rw [(List.cons.inj hswap).1] at h
      simp at h
    · intro hl
      simp at hl

end Selection
