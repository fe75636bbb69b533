import FaLocal.GnatEventSchema
import FaLocal.JsonlForensicExport
import FaLocal.Library.Following
import FaLocal.Library.Halting
import FaLocal.Library.TornLines

/-!
# The JSONL sinks

The JSONL adapters are one adapter with texts of their own. A computation that stops at the first
export that fails leaves a file in which every event that it has exported stands on a line of its
own.
-/
namespace FaLocal

open JsonlForensicExportAdapter (newline OneLine)

/-! ## Sinks -/

/-- What is particular about a JSONL adapter. -/
structure JsonlSink (ε : Type) where
  adapterId : String
  toValue : ε → Value
  reference : ε → String
  unserializable : String
  directoryMissing : String
  openRefused : String
  writeFailed : String
  oneLine : ∀ event, OneLine (toValue event)

/-- Where a line breaks off; without an open file, before its first byte. -/
def AppendOutcome.cut : AppendOutcome → Option Nat
  | .directoryMissing => some 0
  | .openRefused => some 0
  | .brokeOff count => some count
  | .written => none

namespace JsonlSink

variable {ε : Type} (sink : JsonlSink ε)

/-- `serde_json::to_string`: texts, names and `null` are always serialised. -/
def toJson (event : ε) : Option String := some (String.ofList (sink.toValue event).compact)

def exportEvent (outcome : AppendOutcome) (event : ε) (file : List UInt8) :
    ForensicExportResult × List UInt8 :=
  match sink.toJson event with
  | none => (.unsupported sink.unserializable, file)
  | some line =>
    let bytes := Utf8.bytes line.toList ++ [newline]
    match outcome with
    | .directoryMissing => (.dependencyUnavailable sink.directoryMissing, file)
    | .openRefused => (.dependencyUnavailable sink.openRefused, file)
    | .brokeOff count => (.dependencyUnavailable sink.writeFailed, file ++ bytes.take count)
    | .written => (.exported (sink.reference event), file ++ bytes)

/-- The line of an event. -/
def lineOf (event : ε) : List UInt8 := Utf8.bytes (sink.toValue event).compact

theorem newline_notMem_lineOf (event : ε) : newline ∉ sink.lineOf event :=
  mt (Utf8.mem_bytes_ascii (c := '\n') (by decide)).mp (sink.oneLine event)

/-- What an export does to the file. -/
theorem exportEvent_file (outcome : AppendOutcome) (event : ε) (file : List UInt8) :
    (sink.exportEvent outcome event file).2 =
      file ++ Lines.piece newline (sink.lineOf event) outcome.cut := by
  cases outcome <;>
    simp [exportEvent, toJson, lineOf, AppendOutcome.cut, Lines.piece]

theorem exportEvent_answer (outcome : AppendOutcome) (event : ε) (file : List UInt8) :
    (sink.exportEvent outcome event file).1 = (sink.exportEvent outcome event []).1 := by
  cases outcome <;> rfl

theorem exportEvent_exported (outcome : AppendOutcome) (event : ε) (file : List UInt8) :
    (sink.exportEvent outcome event file).1.isExported = outcome.cut.isNone := by
  cases outcome <;> rfl

end JsonlSink

/-! ## Files -/

/-- A file before a sink appends to it, and what becomes of every append. -/
structure JsonlFile (ε : Type) where
  sink : JsonlSink ε
  outcomes : Nat → AppendOutcome
  contents : List UInt8

namespace JsonlFile

variable {ε : Type} (file : JsonlFile ε)

/-- The answer to the export of an event behind `index` others. -/
def answer (index : Nat) (event : ε) : ForensicExportResult :=
  (file.sink.exportEvent (file.outcomes index) event []).1

/-- The pieces of events behind `index` others. -/
def linesFrom (index : Nat) (events : List ε) : List (List UInt8 × Option Nat) :=
  (events.zipIdx index).map fun event => (file.sink.lineOf event.1, (file.outcomes event.2).cut)

/-- The file behind the exports of some events. -/
def after (events : List ε) : List UInt8 :=
  file.contents ++ Lines.pieces newline (file.linesFrom 0 events)

theorem after_append (a b : List ε) :
    file.after (a ++ b) = file.after a ++ Lines.pieces newline (file.linesFrom a.length b) := by
  rw [after, after, linesFrom, List.zipIdx_append, List.map_append, Lines.pieces_append,
    ← List.append_assoc, Nat.zero_add]
  rfl

/-- One more export does to the file what `export_event` does. -/
theorem after_export (events : List ε) (event : ε) : file.after (events ++ [event]) =
    (file.sink.exportEvent (file.outcomes events.length) event (file.after events)).2 := by
  rw [after_append, JsonlSink.exportEvent_file]
  simp [linesFrom]

theorem linesFrom_notMem (index : Nat) (events : List ε) :
    ∀ line ∈ file.linesFrom index events, newline ∉ line.1 := by
  intro line hline
  obtain ⟨event, -, rfl⟩ := List.mem_map.mp hline
  exact file.sink.newline_notMem_lineOf event.1

/-! ## Exports of a log -/

section
variable {κ : Type} (exported? : κ → Option (ε × ForensicExportResult))

/-- The export calls of a log with their answers. -/
def calls (log : List κ) : List (ε × ForensicExportResult) := log.filterMap exported?

/-- The events whose export was answered with `Exported`. -/
def exported (log : List κ) : List ε := ((calls exported? log).filter (·.2.isExported)).map Prod.fst

/-- The file behind a log. -/
def afterLog (log : List κ) : List UInt8 := file.after ((calls exported? log).map Prod.fst)

/-- An export is answered by the sink in its turn. -/
def Answers (log : List κ) (entry : κ) : Prop :=
  ∀ call ∈ exported? entry, call.2 = file.answer (calls exported? log).length call.1

/-- An export that is not answered with `Exported`. -/
def Failed (entry : κ) : Prop := ∃ call ∈ exported? entry, call.2.isExported = false

variable {exported?} {file} {log entries : List κ}

@[simp] theorem calls_append (a b : List κ) :
    calls exported? (a ++ b) = calls exported? a ++ calls exported? b := List.filterMap_append

theorem exported_append (a b : List κ) :
    exported exported? (a ++ b) = exported exported? a ++ exported exported? b := by
  rw [exported, calls_append, List.filter_append, List.map_append]
  rfl

/-- The answers, numbered as their calls. -/
theorem answers_calls (h : Traced.Follow (file.Answers exported?) log entries) :
    ∀ call ∈ (calls exported? entries).zipIdx (calls exported? log).length,
      call.1.2 = file.answer call.2 call.1.1 := by
  induction entries generalizing log with
  | nil => simp [calls]
  | cons entry entries ih =>
    obtain ⟨hentry, hentries⟩ := h
    have hrest := ih hentries
    cases hcall : exported? entry with
    | none =>
      have hquiet : calls exported? (log ++ [entry]) = calls exported? log := by
        simp [calls, hcall]
      rw [hquiet] at hrest
      simpa [calls, hcall] using hrest
    | some call =>
      have hlength : (calls exported? (log ++ [entry])).length =
          (calls exported? log).length + 1 := by
        simp [calls, hcall]
      rw [hlength] at hrest
      have hcons : calls exported? (entry :: entries) = call :: calls exported? entries := by
        simp [calls, hcall]
      rw [hcons, List.zipIdx_cons]
      exact List.forall_mem_cons.mpr ⟨hentry call hcall, hrest⟩

theorem calls_good (h : ∀ entry ∈ entries, ¬ Failed exported? entry) :
    ∀ call ∈ calls exported? entries, call.2.isExported = true := by
  intro call hcall
  obtain ⟨entry, hentry, hsome⟩ := List.mem_filterMap.mp hcall
  by_contra hfailed
  exact h entry hentry ⟨call, hsome, by simpa using hfailed⟩

/-- Only the last call of a computation that halts can have failed. -/
theorem calls_halted (h : ∀ entry ∈ entries.dropLast, ¬ Failed exported? entry) :
    ∀ call ∈ (calls exported? entries).dropLast, call.2.isExported = true := by
  induction entries using List.reverseRecOn with
  | nil => simp [calls]
  | append_singleton entries entry _ =>
    rw [List.dropLast_concat] at h
    intro call hcall
    rw [calls_append] at hcall
    cases hsome : exported? entry with
    | none =>
      have hnone : calls exported? [entry] = [] := by simp [calls, hsome]
      rw [hnone, List.append_nil] at hcall
      exact calls_good h call (List.dropLast_subset _ hcall)
    | some last =>
      have hone : calls exported? [entry] = [last] := by simp [calls, hsome]
      rw [hone, List.dropLast_concat] at hcall
      exact calls_good h call hcall

theorem filter_initial {β : Type} {q : β → Bool} {l : List β}
    (h : ∀ b ∈ l.dropLast, q b = true) : l.filter q <+: l := by
  induction l using List.reverseRecOn with
  | nil => exact List.prefix_rfl
  | append_singleton l b _ =>
    rw [List.dropLast_concat] at h
    rw [List.filter_append, List.filter_eq_self.mpr h]
    refine (List.prefix_append_right_inj l).mpr ?_
    cases hb : q b <;> simp [hb]

/-- What the calls of some entries append, numbered. -/
theorem linesFrom_calls (index : Nat) (entries : List κ) :
    file.linesFrom index ((calls exported? entries).map Prod.fst) =
      ((calls exported? entries).zipIdx index).map fun call =>
        (file.sink.lineOf call.1.1, (file.outcomes call.2).cut) := by
  rw [linesFrom, List.zipIdx_map, List.map_map]
  rfl

theorem afterLog_append (log entries : List κ) : file.afterLog exported? (log ++ entries) =
    file.afterLog exported? log ++ Lines.pieces newline
      (file.linesFrom (calls exported? log).length ((calls exported? entries).map Prod.fst)) := by
  rw [afterLog, calls_append, List.map_append, after_append, List.length_map]
  rfl

/-- The answer of a numbered call tells whether its line is whole. -/
theorem exported_iff_whole (h : Traced.Follow (file.Answers exported?) log entries) :
    ∀ call ∈ (calls exported? entries).zipIdx (calls exported? log).length,
      call.1.2.isExported = (file.outcomes call.2).cut.isNone := by
  intro call hcall
  rw [answers_calls h call hcall, answer, JsonlSink.exportEvent_exported]

/-- The whole lines are those of the exported events. -/
theorem whole_lines (h : Traced.Follow (file.Answers exported?) log entries) :
    ((file.linesFrom (calls exported? log).length
        ((calls exported? entries).map Prod.fst)).filter (·.2.isNone)).map Prod.fst =
      (exported exported? entries).map file.sink.lineOf := by
  have hfilter : ((calls exported? entries).zipIdx (calls exported? log).length).filter
      (fun call => (file.outcomes call.2).cut.isNone) =
      ((calls exported? entries).zipIdx (calls exported? log).length).filter
        ((·.2.isExported) ∘ Prod.fst) :=
    List.filter_congr fun call hcall => (exported_iff_whole h call hcall).symm
  have hnumbered := List.filter_map (f := Prod.fst) (p := fun call => call.2.isExported)
    (l := (calls exported? entries).zipIdx (calls exported? log).length)
  rw [List.zipIdx_map_fst] at hnumbered
  rw [linesFrom_calls, List.filter_map, exported, hnumbered, List.map_map, List.map_map,
    List.map_map]
  exact congrArg (List.map fun call => file.sink.lineOf call.1.1) hfilter

/-- All lines, whole or not. -/
theorem all_lines (index : Nat) (events : List ε) :
    (file.linesFrom index events).map Prod.fst = events.map file.sink.lineOf := by
  rw [linesFrom, List.map_map]
  conv_rhs => rw [← List.zipIdx_map_fst index events, List.map_map]
  rfl

/-- What is exported is a first part of what is called. -/
theorem exported_prefix (h : ∀ entry ∈ entries.dropLast, ¬ Failed exported? entry) :
    exported exported? entries <+: (calls exported? entries).map Prod.fst :=
  (filter_initial (calls_halted h)).map Prod.fst

theorem exported_all (h : ∀ entry ∈ entries, ¬ Failed exported? entry) :
    exported exported? entries = (calls exported? entries).map Prod.fst := by
  rw [exported, List.filter_eq_self.mpr (calls_good h)]

/-- Entries that halt on a failed export leave the lines of all that was exported, in order,
behind the lines that were there. -/
theorem kept_of_halted (hfile : Lines.Terminated newline (file.afterLog exported? log))
    (h : Traced.Follow (file.Answers exported?) log entries)
    (hlast : ∀ entry ∈ entries.dropLast, ¬ Failed exported? entry) :
    ∃ written, exported exported? entries <+: written ∧
      written <+: (calls exported? entries).map Prod.fst ∧
      Lines.complete newline (file.afterLog exported? (log ++ entries)) =
        Lines.complete newline (file.afterLog exported? log) ++ written.map file.sink.lineOf := by
  have hcalls := calls_halted hlast
  have hwhole := exported_iff_whole h
  have hprefix := exported_prefix hlast
  rw [afterLog_append]
  have hlines : file.linesFrom (calls exported? log).length
      ((calls exported? entries).map Prod.fst) = _ := linesFrom_calls _ entries
  have hdrop : ∀ line ∈ (file.linesFrom (calls exported? log).length
      ((calls exported? entries).map Prod.fst)).dropLast, line.2 = none := by
    rw [hlines, ← List.map_dropLast]
    intro line hline
    obtain ⟨call, hcall, rfl⟩ := List.mem_map.mp hline
    have hfst := List.mem_map_of_mem (f := Prod.fst) hcall
    rw [List.map_dropLast, List.zipIdx_map_fst] at hfst
    have hexported := hwhole call (List.dropLast_subset _ hcall)
    rw [hcalls call.1 hfst] at hexported
    exact Option.isNone_iff_eq_none.mp hexported.symm
  obtain ⟨written, hkept, hall, hcomplete⟩ :=
    Lines.complete_pieces hfile (file.linesFrom_notMem _ _) hdrop
  rw [whole_lines h] at hkept
  rw [all_lines] at hall
  -- the lines that were written are those of a first part of the events
  have htake : written = (((calls exported? entries).map Prod.fst).take written.length).map
      file.sink.lineOf := by
    rw [List.map_take]
    exact List.prefix_iff_eq_take.mp hall
  refine ⟨_, ?_, List.take_prefix written.length _, by rw [hcomplete, ← htake]⟩
  have hlength := hkept.length_le
  rw [List.length_map] at hlength
  rw [List.prefix_iff_eq_take.mp hprefix]
  exact List.take_prefix_take_left hlength

/-- Entries without a failed export leave a file that ends with a line. -/
theorem terminated_of_good (hfile : Lines.Terminated newline (file.afterLog exported? log))
    (h : Traced.Follow (file.Answers exported?) log entries)
    (hgood : ∀ entry ∈ entries, ¬ Failed exported? entry) :
    Lines.Terminated newline (file.afterLog exported? (log ++ entries)) := by
  rw [afterLog_append, linesFrom_calls]
  apply Lines.terminated_pieces hfile
  intro line hline
  obtain ⟨call, hcall, rfl⟩ := List.mem_map.mp hline
  have hexported := exported_iff_whole h call hcall
  rw [calls_good hgood call.1 (List.fst_mem_of_mem_zipIdx hcall)] at hexported
  exact Option.isNone_iff_eq_none.mp hexported.symm

end

variable {file} in
/-- Entries without a failed export leave the lines of all that was exported. -/
theorem lines_of_good {κ : Type} {exported? : κ → Option (ε × ForensicExportResult)}
    {log entries : List κ} (hfile : Lines.Terminated newline (file.afterLog exported? log))
    (h : Traced.Follow (file.Answers exported?) log entries)
    (hgood : ∀ entry ∈ entries, ¬ Failed exported? entry) :
    Lines.complete newline (file.afterLog exported? (log ++ entries)) =
      Lines.complete newline (file.afterLog exported? log) ++
        (exported exported? entries).map file.sink.lineOf := by
  obtain ⟨written, hexported, hcalled, hlines⟩ := kept_of_halted hfile h fun entry hentry =>
    hgood entry (List.dropLast_subset _ hentry)
  rw [← exported_all hgood] at hcalled
  rw [hlines, hexported.eq_of_length_le hcalled.length_le]

/-- What entries leave behind a log: the lines of a first part of their events, with every
exported one. -/
structure Leaves {κ : Type} (exported? : κ → Option (ε × ForensicExportResult))
    (log entries : List κ) (written : List ε) : Prop where
  exported : exported exported? entries <+: written
  called : written <+: (calls exported? entries).map Prod.fst
  lines : Lines.complete newline (file.afterLog exported? (log ++ entries)) =
    Lines.complete newline (file.afterLog exported? log) ++ written.map file.sink.lineOf

variable {file} in
/-- A computation that the sink answers and that a failed export ends. If it returns, nothing
was lost. -/
theorem leaves {κ τ β : Type} {exported? : κ → Option (ε × ForensicExportResult)}
    {x : Traced κ τ β} {log : List κ} (hlawful : x.Lawful (file.Answers exported?))
    (hhalts : x.Halts (Failed exported?))
    (hfile : Lines.Terminated newline (file.afterLog exported? log)) :
    ∃ entries written, (x log).2 = log ++ entries ∧ file.Leaves exported? log entries written ∧
      ∀ b, (x log).1 = .ok b → written = exported exported? entries ∧
        Lines.Terminated newline (file.afterLog exported? (log ++ entries)) := by
  obtain ⟨entries, hfollow, he⟩ := hlawful log
  obtain ⟨entries', he', hgood, hlast⟩ := hhalts log
  obtain rfl : entries = entries' := List.append_cancel_left (he.symm.trans he')
  obtain ⟨written, hexported, hcalled, hlines⟩ := kept_of_halted hfile hfollow hlast
  refine ⟨entries, written, he, ⟨hexported, hcalled, hlines⟩, ?_⟩
  intro b hb
  refine ⟨?_, terminated_of_good hfile hfollow (hgood b hb)⟩
  apply (hexported.eq_of_length_le _).symm
  rw [exported_all (hgood b hb)]
  exact hcalled.length_le

variable {file} in
/-- In front of any entry of such a computation the file consists of whole lines. -/
theorem lines_before {κ τ β : Type} {exported? : κ → Option (ε × ForensicExportResult)}
    {x : Traced κ τ β} {log entries pre post : List κ} {entry : κ}
    (hlawful : x.Lawful (file.Answers exported?)) (hhalts : x.Halts (Failed exported?))
    (hfile : Lines.Terminated newline (file.afterLog exported? log))
    (he : (x log).2 = log ++ entries) (hsplit : entries = pre ++ entry :: post) :
    Lines.Terminated newline (file.afterLog exported? (log ++ pre)) ∧
      Lines.complete newline (file.afterLog exported? (log ++ pre)) =
        Lines.complete newline (file.afterLog exported? log) ++
          (exported exported? pre).map file.sink.lineOf := by
  obtain ⟨entries', hfollow, he'⟩ := hlawful log
  obtain rfl : entries = entries' := List.append_cancel_left (he.symm.trans he')
  obtain ⟨entries', he', -, hlast⟩ := hhalts log
  obtain rfl : entries = entries' := List.append_cancel_left (he.symm.trans he')
  have hpre : Traced.Follow (file.Answers exported?) log pre := by
    rw [hsplit, Traced.follow_append] at hfollow
    exact hfollow.1
  have hgood : ∀ entry ∈ pre, ¬ Failed exported? entry := by
    intro e hm
    apply hlast e
    rw [hsplit, List.dropLast_append_of_ne_nil (List.cons_ne_nil _ _)]
    exact List.mem_append_left _ hm
  exact ⟨terminated_of_good hfile hpre hgood, lines_of_good hfile hpre hgood⟩

end JsonlFile

namespace Fixture

/-- The second append breaks off. -/
def secondBreaks (index : Nat) : AppendOutcome := if index = 1 then .brokeOff 5 else .written

end Fixture

end FaLocal
