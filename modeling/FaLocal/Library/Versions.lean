import Mathlib.Logic.Function.Basic
import Mathlib.Logic.Relation
import Mathlib.Tactic.Common

/-!
# A value behind a read-write lock

A reader looks at the shared value in several steps and holds the read guard from
the first to the last. A refresh loads a new value from a source, without a guard,
and writes it once no reader is left. Every answer is then that of one version of
the value, the one written last.
-/
namespace Versions

/-- What readers and refreshes do with the value: `ν` are its versions, `θ` the
questions, `ρ` the places a reader can have reached, `α` the answers, `σ` the
sources and `ε` the reasons why one cannot be loaded. -/
structure Cell (ν θ ρ α σ ε : Type) where
  start : θ → ρ
  look : ν → ρ → ρ ⊕ α
  load : σ → Except ε ν

/-- A call under way. -/
inductive Call (ν θ ρ : Type) where
  | reading (question : θ) (place : ρ)
  | refreshing (fresh : ν)

/-- `ι` are the names of the calls. -/
structure State (ν θ ρ ι : Type) where
  value : ν
  calls : ι → Option (Call ν θ ρ)

inductive Event (ν θ α σ ε ι : Type) where
  | asked (call : ι) (question : θ)
  | looked (call : ι)
  | answered (call : ι) (question : θ) (answer : α)
  | loaded (call : ι) (source : σ)
  | refused (call : ι) (source : σ) (error : ε)
  | written (call : ι) (fresh : ν)

variable {ν θ ρ α σ ε ι : Type}

/-- No call is under way. -/
def State.idle (value : ν) : State ν θ ρ ι := ⟨value, fun _ => none⟩

/-- `call` is now at `now`, or over. -/
def State.set [DecidableEq ι] (s : State ν θ ρ ι) (call : ι) (now : Option (Call ν θ ρ)) :
    State ν θ ρ ι :=
  { s with calls := Function.update s.calls call now }

def Event.call : Event ν θ α σ ε ι → ι
  | .asked call _ | .looked call | .answered call _ _ | .loaded call _ | .refused call _ _
  | .written call _ => call

/-- The version after an event. -/
def Event.next (value : ν) : Event ν θ α σ ε ι → ν
  | .written _ fresh => fresh
  | _ => value

/-- The version after a history: the one written last. -/
def version (value : ν) (history : List (Event ν θ α σ ε ι)) : ν := history.foldl Event.next value

@[simp] theorem version_nil (value : ν) :
    version value ([] : List (Event ν θ α σ ε ι)) = value := rfl

@[simp] theorem version_cons (value : ν) (e : Event ν θ α σ ε ι)
    (history : List (Event ν θ α σ ε ι)) :
    version value (e :: history) = version (e.next value) history := rfl

theorem version_append (value : ν) (before after : List (Event ν θ α σ ε ι)) :
    version value (before ++ after) = version (version value before) after := by
  simp [version]

/-- A history without a write leaves the version alone. -/
theorem version_unwritten (value : ν) {history : List (Event ν θ α σ ε ι)}
    (h : ∀ call fresh, .written call fresh ∉ history) : version value history = value := by
  induction history generalizing value with
  | nil => rfl
  | cons e rest ih =>
    have hnext : e.next value = value := by
      cases e with
      | written call fresh => exact absurd List.mem_cons_self (h call fresh)
      | asked | looked | answered | loaded | refused => rfl
    rw [version_cons, hnext]
    exact ih value fun call fresh hmem => h call fresh (List.mem_cons_of_mem e hmem)

/-- A version is the first one, or it was written. -/
theorem version_origin (value : ν) (history : List (Event ν θ α σ ε ι)) :
    version value history = value ∨
      ∃ call, .written call (version value history) ∈ history := by
  induction history generalizing value with
  | nil => exact .inl rfl
  | cons e rest ih =>
    rw [version_cons]
    rcases ih (e.next value) with heq | ⟨call, hmem⟩
    · rw [heq]
      cases e with
      | written call fresh => exact .inr ⟨call, by simp [Event.next]⟩
      | asked | looked | answered | loaded | refused => exact .inl rfl
    · exact .inr ⟨call, List.mem_cons_of_mem e hmem⟩

namespace Cell

variable (cell : Cell ν θ ρ α σ ε)

/-- A reader that looks at one version goes from one place to another. -/
def Looks (value : ν) : ρ → ρ → Prop :=
  Relation.ReflTransGen fun place place' => cell.look value place = .inl place'

/-- A reader that looks at one version only comes to an answer. -/
def Answers (value : ν) (place : ρ) (answer : α) : Prop :=
  ∃ place', cell.Looks value place place' ∧ cell.look value place' = .inr answer

/-- Every reader has looked at nothing but the present version. -/
def Sound (s : State ν θ ρ ι) : Prop :=
  ∀ call question place, s.calls call = some (.reading question place) →
    cell.Looks s.value (cell.start question) place

variable {cell} in
theorem sound_idle (value : ν) : cell.Sound (.idle value : State ν θ ρ ι) := by
  intro call question place h
  cases h

variable [DecidableEq ι]

/-- One step of one call. A write waits until nobody reads. -/
inductive Step : State ν θ ρ ι → Event ν θ α σ ε ι → State ν θ ρ ι → Prop where
  | asked {s : State ν θ ρ ι} {call : ι} (question : θ) : s.calls call = none →
      Step s (.asked call question)
        (s.set call (some (.reading question (cell.start question))))
  | looked {s : State ν θ ρ ι} {call : ι} {question : θ} {place place' : ρ} :
      s.calls call = some (.reading question place) → cell.look s.value place = .inl place' →
      Step s (.looked call)
        (s.set call (some (.reading question place')))
  | answered {s : State ν θ ρ ι} {call : ι} {question : θ} {place : ρ} {answer : α} :
      s.calls call = some (.reading question place) → cell.look s.value place = .inr answer →
      Step s (.answered call question answer)
        (s.set call none)
  | loaded {s : State ν θ ρ ι} {call : ι} {source : σ} {fresh : ν} : s.calls call = none →
      cell.load source = .ok fresh →
      Step s (.loaded call source)
        (s.set call (some (.refreshing fresh)))
  | refused {s : State ν θ ρ ι} {call : ι} {source : σ} {error : ε} : s.calls call = none →
      cell.load source = .error error → Step s (.refused call source error) s
  | written {s : State ν θ ρ ι} {call : ι} {fresh : ν} :
      s.calls call = some (.refreshing fresh) →
      (∀ other question place, s.calls other ≠ some (.reading question place)) →
      Step s (.written call fresh) { s.set call none with value := fresh }

/-- Any interleaving of the steps of any calls. -/
inductive Run : State ν θ ρ ι → List (Event ν θ α σ ε ι) → State ν θ ρ ι → Prop where
  | nil (s : State ν θ ρ ι) : Run s [] s
  | cons {s mid s' : State ν θ ρ ι} {e : Event ν θ α σ ε ι} {rest : List (Event ν θ α σ ε ι)} :
      cell.Step s e mid → Run mid rest s' → Run s (e :: rest) s'

variable {cell}

theorem run_cons_iff {s s' : State ν θ ρ ι} {e : Event ν θ α σ ε ι}
    {rest : List (Event ν θ α σ ε ι)} :
    cell.Run s (e :: rest) s' ↔ ∃ mid, cell.Step s e mid ∧ cell.Run mid rest s' := by
  constructor
  · intro h
    cases h with
    | cons hstep hrest => exact ⟨_, hstep, hrest⟩
  · rintro ⟨mid, hstep, hrest⟩
    exact .cons hstep hrest

theorem run_append_iff {s s' : State ν θ ρ ι} {before after : List (Event ν θ α σ ε ι)} :
    cell.Run s (before ++ after) s' ↔ ∃ mid, cell.Run s before mid ∧ cell.Run mid after s' := by
  induction before generalizing s with
  | nil =>
    constructor
    · intro h
      exact ⟨s, .nil s, h⟩
    · rintro ⟨mid, hnil, h⟩
      cases hnil with
      | nil => exact h
  | cons e rest ih =>
    simp only [List.cons_append, run_cons_iff, ih]
    constructor
    · rintro ⟨mid, hstep, last, hrest, hafter⟩
      exact ⟨last, ⟨mid, hstep, hrest⟩, hafter⟩
    · rintro ⟨last, ⟨mid, hstep, hrest⟩, hafter⟩
      exact ⟨mid, hstep, last, hrest, hafter⟩

theorem step_value {s s' : State ν θ ρ ι} {e : Event ν θ α σ ε ι} (h : cell.Step s e s') :
    s'.value = e.next s.value := by
  cases h with
  | asked | looked | answered | loaded | refused | written => rfl

theorem run_value {s s' : State ν θ ρ ι} {history : List (Event ν θ α σ ε ι)}
    (h : cell.Run s history s') : s'.value = version s.value history := by
  induction h with
  | nil s => rfl
  | cons hstep _ ih => rw [ih, step_value hstep, version_cons]

/-- A call that a step has set to `now`, or one that it has left alone. -/
theorem update_eq_some {s : State ν θ ρ ι} {call other : ι} {now : Option (Call ν θ ρ)}
    {c : Call ν θ ρ} (h : Function.update s.calls call now other = some c) :
    now = some c ∨ s.calls other = some c := by
  by_cases hother : other = call
  · subst hother
    rw [Function.update_self] at h
    exact .inl h
  · rw [Function.update_of_ne hother] at h
    exact .inr h

theorem sound_step {s s' : State ν θ ρ ι} {e : Event ν θ α σ ε ι} (h : cell.Step s e s')
    (hs : cell.Sound s) : cell.Sound s' := by
  intro other question place hplace
  cases h with
  | asked asked _ =>
    rcases update_eq_some hplace with heq | hold
    · cases heq
      exact .refl
    · exact hs other question place hold
  | looked hcall hlook =>
    rcases update_eq_some hplace with heq | hold
    · cases heq
      exact (hs _ _ _ hcall).tail hlook
    · exact hs other question place hold
  | answered _ _ =>
    rcases update_eq_some hplace with heq | hold
    · cases heq
    · exact hs other question place hold
  | loaded _ _ =>
    rcases update_eq_some hplace with heq | hold
    · cases heq
    · exact hs other question place hold
  | refused _ _ => exact hs other question place hplace
  | written _ hfree =>
    -- nobody reads while a version is exchanged
    rcases update_eq_some hplace with heq | hold
    · cases heq
    · exact absurd hold (hfree other question place)

theorem sound_run {s s' : State ν θ ρ ι} {history : List (Event ν θ α σ ε ι)}
    (h : cell.Run s history s') (hs : cell.Sound s) : cell.Sound s' := by
  induction h with
  | nil s => exact hs
  | cons hstep _ ih => exact ih (sound_step hstep hs)

/-- Every answer is that of the version written last before it. -/
theorem run_answered {s s' : State ν θ ρ ι} {before after : List (Event ν θ α σ ε ι)} {call : ι}
    {question : θ} {answer : α} (hs : cell.Sound s)
    (h : cell.Run s (before ++ .answered call question answer :: after) s') :
    cell.Answers (version s.value before) (cell.start question) answer := by
  obtain ⟨mid, hbefore, hrest⟩ := run_append_iff.mp h
  obtain ⟨_, hstep, -⟩ := run_cons_iff.mp hrest
  rw [← run_value hbefore]
  cases hstep with
  | answered hcall hlook => exact ⟨_, sound_run hbefore hs _ _ _ hcall, hlook⟩

theorem step_other {s s' : State ν θ ρ ι} {e : Event ν θ α σ ε ι} {other : ι}
    (h : cell.Step s e s') (hother : other ≠ e.call) : s'.calls other = s.calls other := by
  cases h with
  | refused _ _ => rfl
  | asked | looked | answered | loaded | written => exact Function.update_of_ne hother _ _

/-- Nothing is written while somebody reads. -/
theorem step_unwritten {s s' : State ν θ ρ ι} {e : Event ν θ α σ ε ι} {call : ι} {question : θ}
    {place : ρ} (h : cell.Step s e s') (hcall : s.calls call = some (.reading question place)) :
    ∀ writer fresh, e ≠ .written writer fresh := by
  rintro writer fresh rfl
  cases h with
  | written _ hfree => exact hfree call question place hcall

/-- A reader goes on reading until it answers. -/
theorem step_reading {s s' : State ν θ ρ ι} {e : Event ν θ α σ ε ι} {call : ι} {question : θ}
    {place : ρ} (h : cell.Step s e s') (hcall : s.calls call = some (.reading question place))
    (hanswer : ∀ answer, e ≠ .answered call question answer) :
    ∃ place', s'.calls call = some (.reading question place') := by
  by_cases hown : call = e.call
  · subst hown
    cases h with
    | asked _ hidle => exact absurd (hidle.symm.trans hcall) (by simp)
    | loaded hidle _ => exact absurd (hidle.symm.trans hcall) (by simp)
    | refused hidle _ => exact absurd (hidle.symm.trans hcall) (by simp)
    | written hwriting _ => exact absurd (hwriting.symm.trans hcall) (by simp)
    | looked hreading _ =>
      cases hreading.symm.trans hcall
      exact ⟨_, Function.update_self ..⟩
    | answered hreading _ =>
      cases hreading.symm.trans hcall
      exact absurd rfl (hanswer _)
  · exact ⟨place, (step_other h hown).trans hcall⟩

theorem reading_run {s s' : State ν θ ρ ι} {history : List (Event ν θ α σ ε ι)} {call : ι}
    {question : θ} (h : cell.Run s history s')
    {place : ρ} (hcall : s.calls call = some (.reading question place))
    (hanswer : ∀ answer, .answered call question answer ∉ history) :
    ∀ writer fresh, .written writer fresh ∉ history := by
  induction h generalizing place with
  | nil s => simp
  | @cons s mid s' e rest hstep _ ih =>
    have hhead : ∀ answer, e ≠ .answered call question answer := by
      rintro answer rfl
      exact hanswer answer List.mem_cons_self
    obtain ⟨place', hmid⟩ := step_reading hstep hcall hhead
    have hrest := ih hmid fun answer hmem => hanswer answer (List.mem_cons_of_mem e hmem)
    intro writer fresh hmem
    rcases List.mem_cons.mp hmem with heq | hmem'
    · exact step_unwritten hstep hcall writer fresh heq.symm
    · exact hrest writer fresh hmem'

/-- No version is exchanged between a question and its answer. -/
theorem run_guarded {s s' : State ν θ ρ ι} {before during after : List (Event ν θ α σ ε ι)}
    {call : ι} {question : θ}
    (h : cell.Run s (before ++ .asked call question :: (during ++ after)) s')
    (hanswer : ∀ answer, .answered call question answer ∉ during) :
    version s.value (before ++ .asked call question :: during) = version s.value before := by
  obtain ⟨mid, -, hrest⟩ := run_append_iff.mp h
  obtain ⟨reading, hstep, hduring⟩ := run_cons_iff.mp hrest
  obtain ⟨_, hduring, -⟩ := run_append_iff.mp hduring
  have hcall : reading.calls call = some (.reading question (cell.start question)) := by
    cases hstep with
    | asked _ _ => exact Function.update_self ..
  rw [version_append, version_cons]
  exact version_unwritten _ (reading_run hduring hcall hanswer)

/-- A refused load can be left out of any history. -/
theorem run_without_refused {s s' : State ν θ ρ ι} {before after : List (Event ν θ α σ ε ι)}
    {call : ι} {source : σ} {error : ε}
    (h : cell.Run s (before ++ .refused call source error :: after) s') :
    cell.Run s (before ++ after) s' := by
  obtain ⟨mid, hbefore, hrest⟩ := run_append_iff.mp h
  obtain ⟨_, hstep, hafter⟩ := run_cons_iff.mp hrest
  cases hstep with
  | refused _ _ => exact run_append_iff.mpr ⟨mid, hbefore, hafter⟩

/-- What waits to be written was loaded. -/
def Sourced (cell : Cell ν θ ρ α σ ε) (history : List (Event ν θ α σ ε ι))
    (s : State ν θ ρ ι) : Prop :=
  ∀ call fresh, s.calls call = some (.refreshing fresh) →
    ∃ source, .loaded call source ∈ history ∧ cell.load source = .ok fresh

theorem sourced_step {s s' : State ν θ ρ ι} {e : Event ν θ α σ ε ι}
    {history : List (Event ν θ α σ ε ι)} (h : cell.Step s e s') (hs : cell.Sourced history s) :
    cell.Sourced (history ++ [e]) s' := by
  have hold : ∀ other fresh, s.calls other = some (.refreshing fresh) →
      ∃ source, .loaded other source ∈ history ++ [e] ∧ cell.load source = .ok fresh := by
    intro other fresh hother
    obtain ⟨source, hmem, hload⟩ := hs other fresh hother
    exact ⟨source, List.mem_append_left [e] hmem, hload⟩
  intro other fresh hother
  cases h with
  | refused _ _ => exact hold other fresh hother
  | @loaded call source _ _ hload =>
    by_cases hown : other = call
    · subst hown
      cases (Function.update_self ..).symm.trans hother
      exact ⟨source, by simp, hload⟩
    · exact hold other fresh ((Function.update_of_ne hown ..).symm.trans hother)
  | asked | looked | answered | written =>
    rcases update_eq_some hother with heq | hcall
    · cases heq
    · exact hold other fresh hcall

/-- Whatever is written was loaded by the same call before. -/
theorem run_written {s s' : State ν θ ρ ι} {earlier before after : List (Event ν θ α σ ε ι)}
    {call : ι} {fresh : ν} (hs : cell.Sourced earlier s)
    (h : cell.Run s (before ++ .written call fresh :: after) s') :
    ∃ source, .loaded call source ∈ earlier ++ before ∧ cell.load source = .ok fresh := by
  induction before generalizing s earlier with
  | nil =>
    obtain ⟨_, hstep, -⟩ := run_cons_iff.mp h
    cases hstep with
    | written hcall _ => simpa using hs call fresh hcall
  | cons e rest ih =>
    obtain ⟨_, hstep, hrest⟩ := run_cons_iff.mp h
    simpa using ih (sourced_step hstep hs) hrest

/-- Every version after a history is the first one, or a source loaded by a call of
that history yields it. -/
theorem run_version {value : ν} {s' : State ν θ ρ ι} {history : List (Event ν θ α σ ε ι)}
    (h : cell.Run (.idle value) history s') :
    version value history = value ∨
      ∃ call source, .loaded call source ∈ history ∧
        cell.load source = .ok (version value history) := by
  rcases version_origin value history with hfirst | ⟨call, hmem⟩
  · exact .inl hfirst
  · obtain ⟨before, after, hsplit⟩ := List.append_of_mem hmem
    have hnone : cell.Sourced [] (.idle value : State ν θ ρ ι) := by
      intro call fresh hcall
      cases hcall
    rw [hsplit] at h
    obtain ⟨source, hloaded, hload⟩ := run_written hnone h
    refine .inr ⟨call, source, ?_, hload⟩
    rw [hsplit]
    exact List.mem_append_left _ hloaded

@[simp] theorem set_set (s : State ν θ ρ ι) (call : ι) (now later : Option (Call ν θ ρ)) :
    (s.set call now).set call later = s.set call later := by
  simp [State.set]

@[simp] theorem set_idle (value : ν) (call : ι) :
    (State.idle value : State ν θ ρ ι).set call none = .idle value := by
  simp [State.set, State.idle]

/-- A reader that can come to an answer does, whatever else is under way. -/
theorem run_completes {s : State ν θ ρ ι} {call : ι} {question : θ} {place : ρ} {answer : α}
    (hcall : s.calls call = some (.reading question place))
    (h : cell.Answers s.value place answer) :
    ∃ looks, cell.Run s (List.replicate looks (.looked call) ++
      [.answered call question answer]) (s.set call none) := by
  generalize hvalue : s.value = value at h
  obtain ⟨last, hlooks, hlast⟩ := h
  -- the reader's own looks, one after another, leave the version as it is
  induction hlooks using Relation.ReflTransGen.head_induction_on generalizing s with
  | refl =>
    rw [← hvalue] at hlast
    exact ⟨0, .cons (.answered hcall hlast) (.nil _)⟩
  | @head place place' hlook _ ih =>
    have hnow : (s.set call (some (.reading question place'))).calls call =
        some (.reading question place') := Function.update_self ..
    obtain ⟨looks, hrun⟩ := ih hnow hvalue
    rw [set_set] at hrun
    rw [← hvalue] at hlook
    exact ⟨looks + 1, .cons (.looked hcall hlook) hrun⟩

/-- A refresh that finds nobody reading. -/
theorem run_refresh {value fresh : ν} {source : σ} (call : ι) (h : cell.load source = .ok fresh) :
    cell.Run (.idle value) [.loaded call source, .written call fresh] (.idle fresh) := by
  have hcall : ((State.idle value : State ν θ ρ ι).set call (some (.refreshing fresh))).calls call =
      some (.refreshing fresh) := Function.update_self ..
  have hfree : ∀ other question place,
      ((State.idle value : State ν θ ρ ι).set call (some (.refreshing fresh))).calls other ≠
        some (.reading question place) := by
    intro other question place hother
    rcases update_eq_some hother with heq | hold
    · cases heq
    · cases hold
  have hwrite : cell.Step _ _ _ := .written hcall hfree
  rw [set_set, set_idle] at hwrite
  exact .cons (.loaded rfl h) (.cons hwrite (.nil _))

end Cell

end Versions
