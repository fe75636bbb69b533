import Mathlib.Data.List.Sort

/-!
# What a stable sort keeps and forgets

A stable sort forgets how a list was arranged exactly where no two different items are
tied. Its first item is the first of the least ones.
-/
namespace StableSort

variable {α β : Type} {r : α → α → Prop} [DecidableRel r] {l l' : List α} {a b : α}

/-- Items that are tied with each other keep the order of the list. -/
theorem filter_insertionSort {p : α → Bool} (h : ∀ a b, p a → p b → r a b) :
    (l.insertionSort r).filter p = l.filter p := by
  have htied : (l.filter p).Pairwise r := by
    refine List.pairwise_of_forall_mem_list ?_
    intro a ha b hb
    exact h a b (List.mem_filter.mp ha).2 (List.mem_filter.mp hb).2
  have hsub : (l.filter p).Sublist ((l.insertionSort r).filter p) := by
    have hkept := (List.sublist_insertionSort htied List.filter_sublist).filter p
    rwa [List.filter_filter, List.filter_congr (q := p) (by simp)] at hkept
  have hperm := (List.perm_insertionSort r l).filter p
  exact (hsub.eq_of_length hperm.length_eq.symm).symm

/-- A least item in front stays in front. -/
theorem insertionSort_cons_of_least (h : ∀ b ∈ l, r a b) :
    (a :: l).insertionSort r = a :: l.insertionSort r :=
  List.insertionSort_cons_of_forall_rel r h

theorem insertionSort_eq_nil : l.insertionSort r = [] ↔ l = [] := by
  rw [← List.length_eq_zero_iff, List.length_insertionSort, List.length_eq_zero_iff]

theorem exists_perm_cons (h : a ∈ l) : ∃ rest, (a :: rest).Perm l := by
  obtain ⟨front, back, rfl⟩ := List.append_of_mem h
  exact ⟨front ++ back, List.perm_middle.symm⟩

variable [IsTrans α r]

/-- Swapping two tied items in front shows in the sorted list. -/
theorem eq_of_swapped {rest : List α} (hab : r a b) (hba : r b a)
    (h : (a :: b :: rest).insertionSort r = (b :: a :: rest).insertionSort r) : a = b := by
  have htied : ∀ c d, decide (r a c ∧ r c a) → decide (r a d ∧ r d a) → r c d := by
    intro c d hc hd
    exact IsTrans.trans _ _ _ (of_decide_eq_true hc).2 (of_decide_eq_true hd).1
  have haa : r a a := IsTrans.trans _ _ _ hab hba
  have hfilters := congrArg (List.filter fun c => decide (r a c ∧ r c a)) h
  rw [filter_insertionSort htied, filter_insertionSort htied] at hfilters
  simp only [List.filter_cons, hab, hba, haa, and_self, decide_true, if_true] at hfilters
  exact (List.cons.inj hfilters).1

variable [Std.Total r]

/-- The first item of a sorted list is a least one. -/
theorem head_least {rest : List α} (h : l.insertionSort r = a :: rest) :
    a ∈ l ∧ ∀ b ∈ l, r a b := by
  have hsorted := List.pairwise_insertionSort r l
  have hmem : ∀ b, b ∈ l ↔ b ∈ a :: rest := by
    intro b
    rw [← h, List.mem_insertionSort]
  rw [h, List.pairwise_cons] at hsorted
  refine ⟨(hmem a).mpr List.mem_cons_self, ?_⟩
  intro b hb
  rcases List.mem_cons.mp ((hmem b).mp hb) with rfl | hrest
  · exact (Std.Total.total b b).elim id id
  · exact hsorted.1 b hrest

/-- Where different items are never tied, the arrangement is forgotten. -/
theorem insertionSort_eq_of_perm (hperm : l.Perm l')
    (hties : ∀ a ∈ l, ∀ b ∈ l, r a b → r b a → a = b) :
    l.insertionSort r = l'.insertionSort r := by
  refine List.Perm.eq_of_pairwise ?_ (List.pairwise_insertionSort r l)
    (List.pairwise_insertionSort r l') ?_
  · intro a b ha hb hab hba
    rw [List.mem_insertionSort] at ha hb
    exact hties a ha b (hperm.mem_iff.mpr hb) hab hba
  · exact (List.perm_insertionSort r l).trans (hperm.trans (List.perm_insertionSort r l').symm)

/-- A stable sort forgets the arrangement exactly where different items are never tied. -/
theorem forgets_iff :
    (∀ m : List α, m.Perm l → m.insertionSort r = l.insertionSort r) ↔
      ∀ a ∈ l, ∀ b ∈ l, r a b → r b a → a = b := by
  constructor
  · intro h a ha b hb hab hba
    by_contra hne
    obtain ⟨rest, hrest⟩ := exists_perm_cons ha
    have hmem : b ∈ rest :=
      (List.mem_cons.mp (hrest.mem_iff.mpr hb)).resolve_left fun he => hne he.symm
    obtain ⟨others, hothers⟩ := exists_perm_cons hmem
    have hl := (hothers.cons a).trans hrest
    have hswapped := (List.Perm.swap a b others).trans hl
    exact hne (eq_of_swapped hab hba ((h _ hl).trans (h _ hswapped).symm))
  · intro h m hperm
    exact (insertionSort_eq_of_perm hperm.symm h).symm

/-- What is read from the first item does not depend on the arrangement exactly where the
least items agree on it. -/
theorem heads_agree_iff {f : α → β} :
    (∀ m : List α, m.Perm l →
      (m.insertionSort r).head?.map f = (l.insertionSort r).head?.map f) ↔
      ∀ a ∈ l, ∀ b ∈ l, (∀ c ∈ l, r a c) → (∀ c ∈ l, r b c) → f a = f b := by
  constructor
  · intro h
    have hfirst : ∀ a ∈ l, (∀ c ∈ l, r a c) → (l.insertionSort r).head?.map f = some (f a) := by
      intro a ha hleast
      obtain ⟨rest, hrest⟩ := exists_perm_cons ha
      have hcons : ∀ c ∈ rest, r a c := by
        intro c hc
        exact hleast c (hrest.mem_iff.mp (List.mem_cons_of_mem a hc))
      rw [← h _ hrest, insertionSort_cons_of_least hcons]
      rfl
    intro a ha b hb hleast hleast'
    exact Option.some.inj ((hfirst a ha hleast).symm.trans (hfirst b hb hleast'))
  · intro h m hperm
    cases hm : m.insertionSort r with
    | nil =>
      rw [insertionSort_eq_nil] at hm
      rw [hm] at hperm
      obtain rfl := hperm.nil_eq
      rfl
    | cons a rest =>
      obtain ⟨ha, hleast⟩ := head_least hm
      cases hl : l.insertionSort r with
      | nil =>
        rw [insertionSort_eq_nil] at hl
        rw [hl] at hperm
        rw [hperm.eq_nil] at ha
        cases ha
      | cons b others =>
        obtain ⟨hb, hleast'⟩ := head_least hl
        refine congrArg some (h a (hperm.mem_iff.mp ha) b hb ?_ hleast')
        intro c hc
        exact hleast c (hperm.mem_iff.mpr hc)

end StableSort
