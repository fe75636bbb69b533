import FaLocal.Library.Following
import Mathlib.Data.List.Induction

/-!
# Interleavings

Several computations share one log. Each appends its entries in its own order and sees only
these, but it is answered where they stand in the log of all. What may come next in each of them
may come next in the log of all, and to run one behind the other is one way to interleave them.
-/
namespace Traced

variable {κ ε β γ π : Type}

/-- A computation that is answered through a view of its own log. -/
abbrev Process (κ ε β : Type) : Type := (List κ → List κ) → Traced κ ε β

/-! ## Computations that only see answers -/

/-- What a computation does depends on its view at the places of its entries alone. -/
def Uniform (process : Process κ ε β) : Prop :=
  ∀ view view' a b, ∃ entries, (process view a).2 = a ++ entries ∧
    ((∀ done entry rest, entries = done ++ entry :: rest → view (a ++ done) = view' (b ++ done)) →
      process view' b = ((process view a).1, b ++ entries))

theorem uniform_lift (x : Except ε β) : Uniform fun _ => (lift x : Traced κ ε β) :=
  fun _ _ a b => ⟨[], by simp, fun _ => by simp⟩

theorem uniform_pure (c : β) : Uniform fun _ => (Pure.pure c : Traced κ ε β) :=
  fun _ _ a b => ⟨[], by simp, fun _ => by simp⟩

theorem uniform_emit (entries : List κ) : Uniform fun _ => (emit entries : Traced κ ε Unit) :=
  fun _ _ _ _ => ⟨entries, rfl, fun _ => rfl⟩

theorem uniform_perform (act : List κ → κ × β) :
    Uniform fun view => (perform fun log => act (view log) : Traced κ ε β) := by
  intro view view' a b
  refine ⟨[(act (view a)).1], rfl, fun h => ?_⟩
  have hview : view a = view' b := by simpa using h [] _ [] rfl
  simp [hview]

theorem Uniform.bind {x : Process κ ε β} {f : (List κ → List κ) → β → Traced κ ε γ}
    (hx : Uniform x) (hf : ∀ c, Uniform fun view => f view c) :
    Uniform fun view => x view >>= f view := by
  intro view view' a b
  beta_reduce
  obtain ⟨first, hfirst, hxsame⟩ := hx view view' a b
  cases hr : x view a with
  | mk r mid =>
    obtain rfl : mid = a ++ first := by simpa [hr] using hfirst
    cases r with
    | error e =>
      refine ⟨first, by rw [bind_of_error hr], fun h => ?_⟩
      have hsame := hxsame h
      rw [hr] at hsame
      rw [bind_of_error hr, bind_of_error hsame]
    | ok c =>
      obtain ⟨second, hsecond, hfsame⟩ := hf c view view' (a ++ first) (b ++ first)
      beta_reduce at hsecond hfsame
      refine ⟨first ++ second, ?_, fun h => ?_⟩
      · rw [bind_of_ok hr, hsecond, List.append_assoc]
      · have hsame := hxsame fun done entry rest hsplit =>
          h done entry (rest ++ second) (by rw [hsplit]; simp)
        rw [hr] at hsame
        have hrest := hfsame fun done entry rest hsplit => by
          have hview := h (first ++ done) entry rest (by rw [hsplit]; simp)
          simpa using hview
        rw [bind_of_ok hr, bind_of_ok hsame, hrest, List.append_assoc]

theorem uniform_lift_bind {x : Except ε β} {f : (List κ → List κ) → β → Traced κ ε γ}
    (hf : ∀ c, x = .ok c → Uniform fun view => f view c) :
    Uniform fun view => (lift x : Traced κ ε β) >>= f view := by
  cases x with
  | error e => exact uniform_lift _
  | ok c => exact hf c rfl

theorem Uniform.foldlM {f : (List κ → List κ) → γ → β → Traced κ ε γ} {l : List β}
    (hf : ∀ c b, Uniform fun view => f view c b) (c : γ) :
    Uniform fun view => l.foldlM (f view) c := by
  induction l generalizing c with
  | nil => exact uniform_pure c
  | cons b l ih =>
    simp only [List.foldlM_cons]
    exact (hf c b).bind ih

/-- Behind another log, a computation does what it does alone with its view put behind that log. -/
theorem Uniform.behind {process : Process κ ε β} (h : Uniform process) (log part : List κ) :
    process id (log ++ part) = ((process (log ++ ·) part).1,
      log ++ (process (log ++ ·) part).2) := by
  obtain ⟨entries, he, hsame⟩ := h (log ++ ·) id part (log ++ part)
  rw [hsame fun done entry rest _ => by simp, he, List.append_assoc]

/-- Views that are the same in front of every entry make no difference. -/
theorem Uniform.congr {process : Process κ ε β} (h : Uniform process)
    {view view' : List κ → List κ} {part entries : List κ}
    (he : (process view part).2 = part ++ entries)
    (hview : ∀ done entry rest, entries = done ++ entry :: rest →
      view (part ++ done) = view' (part ++ done)) : process view' part = process view part := by
  obtain ⟨entries', he', hsame⟩ := h view view' part part
  obtain rfl : entries = entries' := List.append_cancel_left (he.symm.trans he')
  rw [hsame hview]
  exact Prod.ext rfl he.symm

/-! ## Tagged entries -/

/-- The entries of all, without their tags. -/
def erased (whole : List (Nat × κ)) : List κ := whole.map Prod.snd

/-- The entries with one tag. -/
def ownPart (i : Nat) (whole : List (Nat × κ)) : List κ :=
  (whole.filter (·.1 == i)).map Prod.snd

/-- What stands in front of the entry with this tag and this number, if there is one. -/
def before (i : Nat) : Nat → List (Nat × κ) → Option (List (Nat × κ))
  | _, [] => none
  | 0, entry :: rest => if entry.1 = i then some [] else (before i 0 rest).map (entry :: ·)
  | n + 1, entry :: rest =>
    (before i (if entry.1 = i then n else n + 1) rest).map (entry :: ·)

/-- The log of all in front of the next entry with this tag; a computation that appends none asks
for nothing. -/
def seen (log : List κ) (whole : List (Nat × κ)) (i : Nat) (part : List κ) : List κ :=
  log ++ erased ((before i part.length whole).getD [])

section
variable {i j : Nat} {entry : κ} {log : List κ} {whole whole' pre post : List (Nat × κ)}

@[simp] theorem erased_append : erased (whole ++ whole') = erased whole ++ erased whole' :=
  List.map_append

@[simp] theorem ownPart_nil : ownPart i ([] : List (Nat × κ)) = [] := rfl

@[simp] theorem ownPart_append :
    ownPart i (whole ++ whole') = ownPart i whole ++ ownPart i whole' := by
  simp [ownPart]

@[simp] theorem ownPart_cons_self : ownPart i ((i, entry) :: whole) = entry :: ownPart i whole := by
  simp [ownPart]

@[simp] theorem ownPart_cons_ne (h : j ≠ i) :
    ownPart i ((j, entry) :: whole) = ownPart i whole := by
  simp [ownPart, h]

theorem ownPart_tagged (entries : List κ) : ownPart i (entries.map (i, ·)) = entries := by
  induction entries with
  | nil => rfl
  | cons entry rest ih => rw [List.map_cons, ownPart_cons_self, ih]

theorem ownPart_tagged_ne (h : j ≠ i) (entries : List κ) : ownPart i (entries.map (j, ·)) = [] := by
  simp [ownPart, h]

theorem ownPart_eq_nil (h : ∀ entry ∈ whole, entry.1 ≠ i) : ownPart i whole = [] := by
  simpa [ownPart] using h

theorem ownPart_sublist (i : Nat) (whole : List (Nat × κ)) :
    (ownPart i whole).Sublist (erased whole) :=
  List.filter_sublist.map Prod.snd

theorem mem_erased : entry ∈ erased whole ↔ ∃ i, (i, entry) ∈ whole := by
  simp [erased]

theorem mem_ownPart : entry ∈ ownPart i whole ↔ (i, entry) ∈ whole := by
  simp [ownPart]

theorem before_length :
    before i (ownPart i pre).length (pre ++ (i, entry) :: post) = some pre := by
  induction pre with
  | nil => simp [before]
  | cons first pre ih =>
    obtain ⟨j, first⟩ := first
    by_cases hj : j = i
    · subst hj
      simp [before, ih]
    · rw [ownPart_cons_ne hj, List.cons_append]
      generalize (ownPart i pre).length = n at ih
      cases n <;> simp [before, hj, ih]

/-- What others append behind changes nothing in front of an entry. -/
theorem before_append (h : ∀ entry ∈ whole', entry.1 ≠ i) (n : Nat) :
    before i n (whole ++ whole') = before i n whole := by
  induction whole generalizing n with
  | nil =>
    rw [List.nil_append]
    induction whole' with
    | nil => rfl
    | cons first rest ih =>
      obtain ⟨hfirst, hrest⟩ := List.forall_mem_cons.mp h
      cases n <;> simpa [before, hfirst] using ih hrest
  | cons first whole ih => cases n <;> simp [before, ih]

theorem seen_at (log : List κ) :
    seen log (pre ++ (i, entry) :: post) i (ownPart i pre) = log ++ erased pre := by
  rw [seen, before_length]
  rfl

theorem seen_append (h : ∀ entry ∈ whole', entry.1 ≠ i) :
    seen log (whole ++ whole') i = seen log whole i := by
  funext part
  rw [seen, seen, before_append h]

/-- If no part holds a value twice and no two parts share one, the whole holds none twice. -/
theorem nodup_of_parts {f : κ → Option π} (hown : ∀ i, ((ownPart i whole).filterMap f).Nodup)
    (hacross : ∀ i j, i ≠ j → ∀ p ∈ (ownPart i whole).filterMap f,
      p ∉ (ownPart j whole).filterMap f) : ((erased whole).filterMap f).Nodup := by
  induction whole with
  | nil => exact .nil
  | cons first rest ih =>
    obtain ⟨i, entry⟩ := first
    have hsub : ∀ j, ((ownPart j rest).filterMap f).Sublist
        ((ownPart j ((i, entry) :: rest)).filterMap f) := by
      intro j
      by_cases hj : i = j
      · subst hj
        rw [ownPart_cons_self]
        exact (List.sublist_cons_self _ _).filterMap f
      · have hpart : ownPart j ((i, entry) :: rest) = ownPart j rest := ownPart_cons_ne hj
        exact hpart ▸ List.Sublist.refl _
    have hrest : ((erased rest).filterMap f).Nodup :=
      ih (fun j => (hown j).sublist (hsub j)) fun j k hne p hp hp' =>
        hacross j k hne p ((hsub j).subset hp) ((hsub k).subset hp')
    rw [erased, List.map_cons, List.filterMap_cons]
    cases hf : f entry with
    | none => exact hrest
    | some p =>
      refine List.nodup_cons.mpr ⟨fun hp => ?_, hrest⟩
      obtain ⟨other, hother, hfother⟩ := List.mem_filterMap.mp hp
      obtain ⟨j, hj⟩ := mem_erased.mp hother
      have hpj : p ∈ (ownPart j rest).filterMap f :=
        List.mem_filterMap.mpr ⟨other, mem_ownPart.mpr hj, hfother⟩
      have hpi : p ∈ (ownPart i ((i, entry) :: rest)).filterMap f := by simp [hf]
      by_cases hij : i = j
      · subst hij
        have htwice := hown i
        rw [ownPart_cons_self, List.filterMap_cons, hf] at htwice
        exact (List.nodup_cons.mp htwice).1 hpj
      · exact hacross i j hij p hpi ((hsub j).subset hpj)

end

/-! ## Interleavings -/

/-- Every computation has appended the entries with its tag, answered where they stand. -/
structure Interleaving (processes : List (Process κ ε β)) (log : List κ)
    (whole : List (Nat × κ)) : Prop where
  known : ∀ entry ∈ whole, entry.1 < processes.length
  runs : ∀ i process, processes[i]? = some process →
    (process (seen log whole i) []).2 = ownPart i whole

/-- One computation behind the other. -/
def sequence (processes : List (Process κ ε β)) (log : List κ) : List κ :=
  processes.foldl (fun log process => (process id log).2) log

theorem follow_of_at {may : List κ → κ → Prop} {log entries : List κ}
    (h : ∀ pre entry post, entries = pre ++ entry :: post → may (log ++ pre) entry) :
    Follow may log entries := by
  induction entries generalizing log with
  | nil => trivial
  | cons entry entries ih =>
    refine ⟨by simpa using h [] entry entries rfl, ih fun pre next post hsplit => ?_⟩
    rw [List.append_assoc]
    exact h (entry :: pre) next post (by rw [hsplit, List.cons_append])

variable {processes : List (Process κ ε β)} {log : List κ} {whole : List (Nat × κ)}

theorem Interleaving.process (h : Interleaving processes log whole) {i : Nat} {entry : κ}
    (hm : (i, entry) ∈ whole) : ∃ process, processes[i]? = some process ∧ process ∈ processes := by
  have hi := h.known (i, entry) hm
  exact ⟨processes[i], List.getElem?_eq_getElem hi, List.getElem_mem hi⟩

/-- What is lawful for each of the computations is lawful for the log of all. -/
theorem Interleaving.follow (h : Interleaving processes log whole) {may : List κ → κ → Prop}
    (hmay : ∀ process ∈ processes, ∀ view, (process view).Lawful fun part => may (view part)) :
    Follow may log (erased whole) := by
  apply follow_of_at
  intro pre entry post hsplit
  obtain ⟨pre', rest, rfl, rfl, hrest⟩ := List.map_eq_append_iff.mp hsplit
  obtain ⟨⟨i, first⟩, post', rfl, hfirst, rfl⟩ := List.map_eq_cons_iff.mp hrest
  obtain rfl : first = entry := hfirst
  obtain ⟨process, hi, hmem⟩ := h.process (List.mem_append_right pre' List.mem_cons_self)
  obtain ⟨entries, hfollow, he⟩ := hmay process hmem _ []
  rw [h.runs i process hi, List.nil_append, ownPart_append, ownPart_cons_self] at he
  have hat := hfollow.at he.symm
  rw [List.nil_append, seen_at] at hat
  exact hat

/-- One more computation may run behind the others. -/
theorem Interleaving.snoc (h : Interleaving processes log whole) {process : Process κ ε β}
    (huniform : Uniform process) {entries : List κ}
    (hentries : (process (log ++ erased whole ++ ·) []).2 = entries) :
    Interleaving (processes ++ [process]) log
      (whole ++ entries.map (processes.length, ·)) := by
  have hother : ∀ i < processes.length, ∀ entry ∈ entries.map (processes.length, ·),
      entry.1 ≠ i := by
    intro i hi entry hm
    obtain ⟨e, -, rfl⟩ := List.mem_map.mp hm
    exact (Nat.ne_of_lt hi).symm
  have hnew : ownPart processes.length whole = [] :=
    ownPart_eq_nil fun entry hm => Nat.ne_of_lt (h.known entry hm)
  constructor
  · intro entry hm
    rw [List.length_append, List.length_singleton]
    rcases List.mem_append.mp hm with hm | hm
    · exact Nat.lt_succ_of_lt (h.known entry hm)
    · obtain ⟨e, -, rfl⟩ := List.mem_map.mp hm
      exact Nat.lt_succ_self _
  · intro i p hi
    rcases Nat.lt_trichotomy i processes.length with hlt | rfl | hgt
    · rw [List.getElem?_append_left hlt] at hi
      rw [seen_append (hother i hlt), h.runs i p hi, ownPart_append,
        ownPart_eq_nil (hother i hlt), List.append_nil]
    · obtain rfl : process = p := by simpa using hi
      rw [ownPart_append, hnew, List.nil_append, ownPart_tagged]
      have hview : ∀ done entry rest, entries = done ++ entry :: rest →
          log ++ erased whole ++ ([] ++ done) =
            seen log (whole ++ entries.map (processes.length, ·)) processes.length
              ([] ++ done) := by
        intro done entry rest hsplit
        have hdone : seen log (whole ++ done.map (processes.length, ·) ++
            (processes.length, entry) :: rest.map (processes.length, ·)) processes.length
            (ownPart processes.length (whole ++ done.map (processes.length, ·))) =
              log ++ erased (whole ++ done.map (processes.length, ·)) := seen_at log
        rw [ownPart_append, hnew, List.nil_append, ownPart_tagged] at hdone
        rw [hsplit, List.map_append, List.map_cons, ← List.append_assoc whole, List.nil_append,
          hdone]
        simp [erased, Function.comp_def]
      rw [huniform.congr hentries hview, hentries]
    · have hlength := (List.getElem?_eq_some_iff.mp hi).1
      rw [List.length_append, List.length_singleton] at hlength
      omega

theorem sequence_append (process : Process κ ε β) :
    sequence (processes ++ [process]) log = (process id (sequence processes log)).2 := by
  rw [sequence, List.foldl_append]
  rfl

/-- One behind the other is one interleaving. -/
theorem sequence_interleaving (h : ∀ process ∈ processes, Uniform process) (log : List κ) :
    ∃ whole, Interleaving processes log whole ∧ sequence processes log = log ++ erased whole := by
  induction processes using List.reverseRecOn with
  | nil => exact ⟨[], ⟨by simp, by simp⟩, by simp [sequence, erased]⟩
  | append_singleton processes process ih =>
    obtain ⟨whole, hwhole, hsequence⟩ := ih fun p hp => h p (List.mem_append_left _ hp)
    have huniform : Uniform process := h process (by simp)
    refine ⟨_, hwhole.snoc huniform rfl, ?_⟩
    have hbehind := huniform.behind (log ++ erased whole) []
    rw [List.append_nil] at hbehind
    rw [sequence_append, hsequence, hbehind]
    simp [erased, Function.comp_def]

end Traced
