import Mathlib.Data.List.Infix
import Mathlib.Tactic.Common

/-!
# Words inside texts

A text mentions a word when the word occurs in it with ASCII letters lowered.
The test is structural, so that it can be evaluated, and it distributes over
an append whenever no beginning of the word closes the left half.
-/
namespace Words

/-- Substring test by recursion on the text. -/
def occurs (w : List Char) : List Char → Bool
  | [] => w.isEmpty
  | c :: s => w.isPrefixOf (c :: s) || occurs w s

theorem occurs_iff (w s : List Char) : occurs w s = true ↔ w <:+: s := by
  induction s with
  | nil => simp [occurs]
  | cons c s ih => simp [occurs, ih, List.infix_cons_iff]

def lower (s : List Char) : List Char := s.map Char.toLower

@[simp] theorem lower_append (s t : List Char) : lower (s ++ t) = lower s ++ lower t := by
  simp [lower]

/-- Case-insensitive (ASCII) containment of `word` in `value`. -/
def mentions (value word : String) : Bool := occurs word.toList (lower value.toList)

theorem mentions_iff (value word : String) :
    mentions value word = true ↔ word.toList <:+: lower value.toList := occurs_iff _ _

def mentionsAny (value : String) (words : List String) : Bool := words.any (mentions value)

theorem mentionsAny_eq_false (value : String) (words : List String) :
    mentionsAny value words = false ↔ ∀ w ∈ words, mentions value w = false := by
  simp [mentionsAny]

/-- A text mentions a word of two lists when it mentions one of either. -/
theorem mentionsAny_append_words (value : String) (ws ws' : List String) :
    mentionsAny value (ws ++ ws') = (mentionsAny value ws || mentionsAny value ws') := by
  simp [mentionsAny]

theorem mentionsAny_mono {value : String} {ws ws' : List String} (h : ∀ w ∈ ws, w ∈ ws')
    (hf : mentionsAny value ws' = false) : mentionsAny value ws = false := by
  rw [mentionsAny_eq_false] at hf ⊢
  exact fun w hw => hf w (h w hw)

/-- The test on characters, for a text and words that are given by theirs. -/
theorem mentionsAny_of_chars {l : List Char} {ws : List (List Char)} {value : String}
    {words : List String} (hv : value = String.ofList l) (hw : words = ws.map String.ofList)
    (h : (ws.any fun w => occurs w (lower l)) = false) : mentionsAny value words = false := by
  subst hv hw
  simpa [mentionsAny, mentions, Function.comp_def] using h

/-- What a part of a text mentions, the text mentions. -/
theorem mentions_of_part {part value word : String} (h : part.toList <:+: value.toList)
    (hm : mentions part word = true) : mentions value word = true := by
  rw [mentions_iff] at hm ⊢
  obtain ⟨s, t, he⟩ := h
  have hl : lower part.toList <:+: lower value.toList := ⟨lower s, lower t, by simp [← he]⟩
  exact hm.trans hl

/-- No proper nonempty beginning of `w` is an ending of `p`. -/
def detached (p w : List Char) : Bool :=
  (List.range w.length).all fun k => k == 0 || !(w.take k).isSuffixOf p

theorem detached_spec {p w : List Char} (h : detached p w = true) (l r : List Char)
    (hw : w = l ++ r) (hl : l ≠ []) (hr : r ≠ []) : ¬ l <:+ p := by
  have hlen : l.length < w.length := by
    have := List.length_pos_of_ne_nil hr
    simp only [hw, List.length_append]
    omega
  have hk := List.all_eq_true.mp h l.length (List.mem_range.mpr hlen)
  have hl' : l.length ≠ 0 := fun he => hl (List.length_eq_zero_iff.mp he)
  have ht : w.take l.length = l := by simp [hw]
  simp only [ht, Bool.or_eq_true, beq_iff_eq, hl', false_or, Bool.not_eq_true'] at hk
  intro hs
  have := List.isSuffixOf_iff_suffix.mpr hs
  simp [this] at hk

/-- A word detached from the left half lies in one of the two halves. -/
theorem occurs_append {p w : List Char} (h : detached p w = true) (s : List Char) :
    occurs w (p ++ s) = (occurs w p || occurs w s) := by
  rw [Bool.eq_iff_iff]
  simp only [Bool.or_eq_true, occurs_iff, List.infix_append_iff]
  constructor
  · rintro (hp | hs | ⟨l, r, hw, hl, hr⟩)
    · exact .inl hp
    · exact .inr hs
    · by_cases hl₀ : l = []
      · subst hl₀
        exact .inr (by simpa [hw] using hr.isInfix)
      · by_cases hr₀ : r = []
        · subst hr₀
          exact .inl (by simpa [hw] using hl.isInfix)
        · exact absurd hl (detached_spec h l r hw hl₀ hr₀)
  · rintro (hp | hs)
    · exact .inl hp
    · exact .inr (.inl hs)

theorem mentions_append {p w : String} (h : detached (lower p.toList) w.toList = true)
    (s : String) : mentions (p ++ s) w = (mentions p w || mentions s w) := by
  simp only [mentions, String.toList_append, lower_append, occurs_append h]

/-- Over a word-free and detached beginning a text mentions what its rest does. -/
theorem mentionsAny_append {p : String} {words : List String}
    (hd : ∀ w ∈ words, detached (lower p.toList) w.toList = true)
    (hp : mentionsAny p words = false) (s : String) :
    mentionsAny (p ++ s) words = mentionsAny s words := by
  simp only [mentionsAny_eq_false] at hp
  rw [mentionsAny, mentionsAny, Bool.eq_iff_iff, List.any_eq_true, List.any_eq_true]
  refine exists_congr fun w => and_congr_right fun hw => ?_
  rw [mentions_append (hd w hw), hp w hw, Bool.false_or]

/-- A separator that the word does not touch: neither contains the other, and
neither is cut by the end of the other. -/
def separates (q w : List Char) : Bool :=
  detached q w && detached w q && !occurs w q && !occurs q w

theorem separates_iff {q w : List Char} : separates q w = true ↔
    detached q w = true ∧ detached w q = true ∧ ¬ w <:+: q ∧ ¬ q <:+: w := by
  simp only [separates, Bool.and_eq_true, Bool.not_eq_true', ← Bool.not_eq_true, occurs_iff,
    and_assoc]

/-- A word in front of a separator ends before it. -/
theorem infix_before {q w a : List Char} (h : separates q w = true) (hw : w <:+: a ++ q) :
    w <:+: a := by
  obtain ⟨-, hbegin, hin, hout⟩ := separates_iff.mp h
  rcases List.infix_append_iff.mp hw with ha | hq | ⟨l, r, rfl, hl, hr⟩
  · exact ha
  · exact absurd hq hin
  · by_cases hr₀ : r = []
    · subst hr₀
      simpa using hl.isInfix
    · obtain ⟨t, rfl⟩ := hr
      by_cases ht₀ : t = []
      · subst ht₀
        exact absurd (by simpa using (List.suffix_append l r).isInfix) hout
      · exact absurd (List.suffix_append l r) (detached_spec hbegin r t rfl hr₀ ht₀)

/-- A word lies on one side of a separator. -/
theorem occurs_separated {q w : List Char} (h : separates q w = true) (a b : List Char) :
    occurs w (a ++ q ++ b) = (occurs w a || occurs w b) := by
  rw [Bool.eq_iff_iff]
  simp only [Bool.or_eq_true, occurs_iff]
  constructor
  · intro hw
    obtain ⟨hend, -, hin, hout⟩ := separates_iff.mp h
    rcases List.infix_append_iff.mp hw with ha | hb | ⟨l, r, rfl, hl, hr⟩
    · exact .inl (infix_before h ha)
    · exact .inr hb
    · rcases List.suffix_or_suffix_of_suffix hl (List.suffix_append a q) with hlq | hql
      · by_cases hl₀ : l = []
        · subst hl₀
          exact .inr (by simpa using hr.isInfix)
        · by_cases hr₀ : r = []
          · subst hr₀
            exact absurd (by simpa using hlq.isInfix) hin
          · exact absurd hlq (detached_spec hend l r rfl hl₀ hr₀)
      · exact absurd (hql.isInfix.trans (List.infix_append' [] l r)) hout
  · rintro (ha | hb)
    · exact ha.trans (List.append_assoc a q b ▸ (List.prefix_append a (q ++ b)).isInfix)
    · exact hb.trans (List.suffix_append (a ++ q) b).isInfix

theorem mentions_separated {q w : String} (h : separates (lower q.toList) w.toList = true)
    (a b : String) : mentions (a ++ q ++ b) w = (mentions a w || mentions b w) := by
  simp only [mentions, String.toList_append, lower_append, occurs_separated h]

/-- A text that is cut by separators mentions what its parts do. -/
theorem mentionsAny_separated {q : String} {words : List String}
    (h : ∀ w ∈ words, separates (lower q.toList) w.toList = true) (a b : String) :
    mentionsAny (a ++ q ++ b) words = (mentionsAny a words || mentionsAny b words) := by
  rw [Bool.eq_iff_iff]
  simp only [mentionsAny, Bool.or_eq_true, List.any_eq_true]
  rw [← exists_or]
  refine exists_congr fun w => ?_
  rw [← and_or_left]
  refine and_congr_right fun hw => ?_
  rw [mentions_separated (h w hw), Bool.or_eq_true]

theorem mentionsAny_intercalate {q : String} {words : List String}
    (h : ∀ w ∈ words, separates (lower q.toList) w.toList = true)
    {texts : List String} (ht : ∀ text ∈ texts, mentionsAny text words = false) :
    mentionsAny (String.intercalate q texts) words = false := by
  induction texts with
  | nil =>
    rw [mentionsAny_eq_false]
    intro w hm
    obtain ⟨-, -, hin, -⟩ := separates_iff.mp (h w hm)
    rw [← Bool.not_eq_true, mentions_iff]
    intro hnil
    have hw : w.toList = [] := by simpa [lower] using hnil
    exact hin (hw ▸ List.nil_infix)
  | cons text texts ih =>
    obtain ⟨h₁, h₂⟩ := List.forall_mem_cons.mp ht
    by_cases hn : texts = []
    · simpa [hn] using h₁
    · rw [String.intercalate_cons_of_ne_nil hn, mentionsAny_separated h, h₁, ih h₂]
      rfl

/-- A word with a character outside of the text's alphabet does not occur. -/
theorem mentionsAny_of_alphabet {value : String} {words : List String} {alphabet : List Char}
    (hw : ∀ w ∈ words, (w.toList.any fun c => !alphabet.contains c) = true)
    (hv : ∀ c ∈ value.toList, c.toLower ∈ alphabet) : mentionsAny value words = false := by
  rw [mentionsAny_eq_false]
  intro w hm
  obtain ⟨c, hc, hn⟩ := List.any_eq_true.mp (hw w hm)
  rw [← Bool.not_eq_true, mentions_iff]
  intro hpart
  obtain ⟨d, hd, rfl⟩ := List.mem_map.mp (hpart.subset hc)
  have hmem := hv d hd
  simp [hmem] at hn

end Words
