import FaLocal.ForensicSchema
import FaLocal.Library.Lines

/-!
# The JSONL forensic export

`JsonlForensicExportAdapter::export_event` appends one line to a file. Opening the file may
fail, and so may writing, with any part of the line written by then. What was exported stays
in the file, but a line behind one that broke off cannot be read.
-/
namespace FaLocal

/-- What becomes of opening the file and appending to it. -/
inductive AppendOutcome where
  | directoryMissing
  | openRefused
  | written
  | brokeOff (count : Nat)
  deriving DecidableEq

structure ExportCall where
  event : ValidatedForensicEvent
  outcome : AppendOutcome

/-- The file, which is empty until it is created, and the answers so far. -/
structure ExportLog where
  file : List UInt8
  answers : List (ForensicEvent × ForensicExportResult)

def ForensicExportResult.isExported : ForensicExportResult → Bool
  | .exported _ => true
  | _ => false

/-- The events for which the adapter answered `Exported`, in the order of the calls. -/
def ExportLog.exported (log : ExportLog) : List ForensicEvent :=
  (log.answers.filter (·.2.isExported)).map Prod.fst

namespace JsonlForensicExportAdapter

/-- The byte of `writeln!`. -/
def newline : UInt8 := 10

/-- `serde_json::to_string`: texts, names and `null` are always serialised. -/
def toJson (times : DateTimes) (event : ForensicEvent) : Option String :=
  some (event.jsonText times)

def exportEvent (times : DateTimes) (outcome : AppendOutcome) (event : ForensicEvent)
    (file : List UInt8) : ForensicExportResult × List UInt8 :=
  match toJson times event with
  | none => (.unsupported "forensic event could not be serialized for jsonl export", file)
  | some line =>
    let bytes := Utf8.bytes line.toList ++ [newline]
    match outcome with
    | .directoryMissing =>
      (.dependencyUnavailable "jsonl forensic export directory is unavailable", file)
    | .openRefused => (.dependencyUnavailable "jsonl forensic export sink is unavailable", file)
    | .brokeOff count =>
      (.dependencyUnavailable "jsonl forensic export write failed", file ++ bytes.take count)
    | .written => (.exported event.forensicEventId.display, file ++ bytes)

def step (times : DateTimes) (log : ExportLog) (call : ExportCall) : ExportLog :=
  let (answer, file) := exportEvent times call.outcome call.event.event log.file
  { file, answers := log.answers ++ [(call.event.event, answer)] }

/-- A sequence of calls on one file. -/
def run (times : DateTimes) (file : List UInt8) (calls : List ExportCall) : ExportLog :=
  calls.foldl (step times) { file, answers := [] }

/-- `serde_json::from_slice` of an event, from that of a value. -/
def fromSlice (times : TimeTexts) (parse : List UInt8 → Option Value) (line : List UInt8) :
    Option ForensicEvent :=
  (parse line).bind (ForensicEvent.fromValue times)

/-- Among the complete lines of the file there is one for every exported event, in their
order, and it is read as that event. -/
def Readable (read : List UInt8 → Option ForensicEvent) (log : ExportLog) : Prop :=
  ∃ lines : List (List UInt8), lines.Sublist (Lines.complete newline log.file) ∧
    lines.map read = log.exported.map some

/-- Every append that succeeds finds the file empty or behind a line break. -/
def FindsLineEnd (times : DateTimes) (file : List UInt8) (calls : List ExportCall) : Prop :=
  ∀ before call, before ++ [call] <+: calls → call.outcome = .written →
    Lines.Terminated newline (run times file before).file

/-! ## Lines of events -/

/-- The line of an event. -/
def lineOf (times : DateTimes) (event : ForensicEvent) : List UInt8 :=
  Utf8.bytes (event.jsonText times).toList

/-- A text or `null` has no line break. -/
def OneLine (value : Value) : Prop := '\n' ∉ value.compact

instance : DecidablePred OneLine := fun value => inferInstanceAs (Decidable ('\n' ∉ value.compact))

theorem quoted_oneLine (s : String) : '\n' ∉ Delimited.quoted s := by
  intro h
  exact absurd (Delimited.quoted_not_control h) (by decide)

theorem string_oneLine (s : String) : OneLine (.string s) := quoted_oneLine s

theorem bool_oneLine (b : Bool) : OneLine (.bool b) := by
  cases b <;> decide

theorem optionValue_oneLine {β : Type} {f : β → Value} (h : ∀ b, OneLine (f b)) (o : Option β) :
    OneLine (optionValue f o) := by
  cases o with
  | none => exact (by decide : OneLine .null)
  | some b => exact h b

theorem members_oneLine {members : List (String × Value)}
    (h : ∀ member ∈ members, OneLine member.2) : '\n' ∉ Value.compactMembers members := by
  induction members with
  | nil => decide
  | cons member members ih =>
    simp only [Value.compactMembers, List.mem_cons, List.mem_append, not_or]
    exact ⟨by decide, quoted_oneLine _, by decide, h member List.mem_cons_self,
      ih fun m hm => h m (List.mem_cons_of_mem member hm)⟩

theorem object_oneLine {members : List (String × Value)}
    (h : ∀ member ∈ members, OneLine member.2) : OneLine (.object members) := by
  cases members with
  | nil => decide
  | cons member members =>
    simp only [OneLine, Value.compact, List.mem_cons, List.mem_append, not_or]
    exact ⟨by decide, quoted_oneLine _, by decide, h member List.mem_cons_self,
      members_oneLine fun m hm => h m (List.mem_cons_of_mem member hm)⟩

variable {times : DateTimes} {event : ForensicEvent}

theorem lineOf_eq (times : DateTimes) (event : ForensicEvent) :
    lineOf times event = Utf8.bytes (event.toValue times).compact := by
  rw [lineOf, ForensicEvent.jsonText, String.toList_ofList]

/-- A line begins with a brace. -/
theorem lineOf_cons (times : DateTimes) (event : ForensicEvent) :
    ∃ rest, lineOf times event = 123 :: rest := by
  rw [lineOf_eq]
  exact ⟨_, rfl⟩

/-- Whatever its summary says, an event is written on one line. -/
theorem newline_notMem_lineOf : newline ∉ lineOf times event := by
  have hvalue : OneLine (event.toValue times) := by
    refine object_oneLine ?_
    simp only [List.forall_mem_cons, List.not_mem_nil, false_implies, implies_true, and_true]
    exact ⟨string_oneLine _, string_oneLine _, string_oneLine _, string_oneLine _,
      optionValue_oneLine (fun _ => string_oneLine _) _,
      optionValue_oneLine (fun _ => string_oneLine _) _, optionValue_oneLine string_oneLine _,
      optionValue_oneLine (fun _ => string_oneLine _) _, string_oneLine _, string_oneLine _,
      string_oneLine _, optionValue_oneLine (fun _ => string_oneLine _) _, string_oneLine _,
      string_oneLine _, bool_oneLine _⟩
  rw [lineOf_eq]
  exact mt (Utf8.mem_bytes_ascii (c := '\n') (by decide)).mp hvalue

/-! ## Runs -/

variable {log : ExportLog} {call : ExportCall} {file : List UInt8} {calls before : List ExportCall}

/-- What a call appends, and whether its event is exported. -/
theorem step_cases (times : DateTimes) (log : ExportLog) (call : ExportCall) :
    (call.outcome = .written ∧
      (step times log call).file = log.file ++ (lineOf times call.event.event ++ [newline]) ∧
      (step times log call).exported = log.exported ++ [call.event.event]) ∨
    (call.outcome ≠ .written ∧ (∃ bytes, (step times log call).file = log.file ++ bytes) ∧
      (step times log call).exported = log.exported) := by
  obtain ⟨event, outcome⟩ := call
  have hexported : ∀ (file : List UInt8) (answer : ForensicExportResult),
      ExportLog.exported { file, answers := log.answers ++ [(event.event, answer)] } =
        log.exported ++ if answer.isExported then [event.event] else [] := by
    intro file answer
    rw [ExportLog.exported, List.filter_append, List.map_append, ExportLog.exported]
    cases h : answer.isExported <;> simp [h]
  cases outcome with
  | directoryMissing =>
    refine .inr ⟨by simp, ⟨[], (List.append_nil _).symm⟩, ?_⟩
    exact (hexported _ _).trans (List.append_nil _)
  | openRefused =>
    refine .inr ⟨by simp, ⟨[], (List.append_nil _).symm⟩, ?_⟩
    exact (hexported _ _).trans (List.append_nil _)
  | brokeOff count =>
    refine .inr ⟨by simp, ⟨_, rfl⟩, ?_⟩
    exact (hexported _ _).trans (List.append_nil _)
  | written => exact .inl ⟨rfl, rfl, hexported _ _⟩

/-- The lines of the exported events are in the file. -/
def Kept (times : DateTimes) (log : ExportLog) : Prop :=
  (log.exported.map (lineOf times)).Sublist (Lines.complete newline log.file)

/-- A call keeps the lines that are there, and an export at the end of a line adds its own. -/
theorem Kept.step (h : Kept times log)
    (hend : call.outcome = .written → Lines.Terminated newline log.file) :
    Kept times (step times log call) := by
  rcases step_cases times log call with ⟨hwritten, hfile, hexported⟩ | ⟨-, ⟨bytes, hfile⟩, hexported⟩
  · rw [Kept, hfile, hexported, Lines.complete_append_line (hend hwritten) newline_notMem_lineOf,
      List.map_append]
    exact List.Sublist.append h (List.Sublist.refl _)
  · rw [Kept, hfile, hexported]
    exact h.trans (Lines.complete_prefix _ _).sublist

theorem run_append (times : DateTimes) (file : List UInt8) (calls : List ExportCall)
    (call : ExportCall) : run times file (calls ++ [call]) = step times (run times file calls) call := by
  rw [run, List.foldl_append]
  rfl

/-- The condition on a run is one on its prefixes. -/
theorem FindsLineEnd.beginning (h : FindsLineEnd times file calls) (hbefore : before <+: calls) :
    FindsLineEnd times file before :=
  fun _ _ hbegin => h _ _ (hbegin.trans hbefore)

/-- And one on the last call. -/
theorem findsLineEnd_append : FindsLineEnd times file (calls ++ [call]) ↔
    FindsLineEnd times file calls ∧
      (call.outcome = .written → Lines.Terminated newline (run times file calls).file) := by
  constructor
  · intro h
    exact ⟨h.beginning (List.prefix_append _ _), h calls call (List.prefix_refl _)⟩
  · rintro ⟨hcalls, hcall⟩ before call' hbegin
    rcases List.prefix_concat_iff.mp hbegin with heq | hbegin
    · obtain ⟨rfl, hlast⟩ := List.append_inj' heq rfl
      cases hlast
      exact hcall
    · exact hcalls before call' hbegin

theorem findsLineEnd_nil : FindsLineEnd times file [] := by
  intro before call hbegin
  exact absurd (List.prefix_nil.mp hbegin) (by simp)

/-- By induction on the calls. -/
theorem run_kept (h : FindsLineEnd times file calls) : Kept times (run times file calls) := by
  induction calls using List.reverseRecOn with
  | nil => exact List.nil_sublist _
  | append_singleton calls call ih =>
    obtain ⟨hcalls, hcall⟩ := findsLineEnd_append.mp h
    rw [run_append]
    exact (ih hcalls).step hcall

theorem mem_exported (h : event ∈ (run times file calls).exported) :
    ∃ call ∈ calls, call.event.event = event := by
  induction calls using List.reverseRecOn with
  | nil => cases h
  | append_singleton calls call ih =>
    rw [run_append] at h
    rcases step_cases times (run times file calls) call with ⟨-, -, hexported⟩ | ⟨-, -, hexported⟩
    · rw [hexported, List.mem_append, List.mem_singleton] at h
      rcases h with h | rfl
      · obtain ⟨call', hcall', he⟩ := ih h
        exact ⟨call', List.mem_append_left _ hcall', he⟩
      · exact ⟨call, List.mem_append_right _ List.mem_cons_self, rfl⟩
    · rw [hexported] at h
      obtain ⟨call', hcall', he⟩ := ih h
      exact ⟨call', List.mem_append_left _ hcall', he⟩

/-- In a run whose successful appends all find the end of a line, every exported event can be
read back at any time. -/
theorem exported_readable {times : TimeTexts} {parse : List UInt8 → Option Value}
    (hparse : ∀ call ∈ calls, parse (lineOf times.toDateTimes call.event.event) =
      some (call.event.event.toValue times.toDateTimes))
    (htimes : ∀ call ∈ calls, times.parse (times.text call.event.event.timestampUtc) =
      some call.event.event.timestampUtc)
    (h : FindsLineEnd times.toDateTimes file calls) :
    ∀ before, before <+: calls →
      Readable (fromSlice times parse) (run times.toDateTimes file before) := by
  intro before hbefore
  have hread : ∀ event ∈ (run times.toDateTimes file before).exported,
      fromSlice times parse (lineOf times.toDateTimes event) = some event := by
    intro event hevent
    obtain ⟨call, hcall, rfl⟩ := mem_exported hevent
    have hmem := hbefore.subset hcall
    rw [fromSlice, hparse call hmem, Option.bind_some]
    exact ForensicEventSchema.fromValue_of_parse (htimes call hmem)
  refine ⟨_, run_kept (h.beginning hbefore), ?_⟩
  rw [List.map_map]
  exact List.map_congr_left hread

end JsonlForensicExportAdapter

open JsonlForensicExportAdapter

namespace Fixture

def validStatusEvent : ValidatedForensicEvent := ⟨statusEvent, statusEvent_valid⟩

/-- A parser that knows the line of one event. -/
def parseLine (line : List UInt8) : Option Value :=
  if line = lineOf timeTexts.toDateTimes statusEvent then
    some (statusEvent.toValue timeTexts.toDateTimes)
  else none

theorem parseLine_lineOf : parseLine (lineOf timeTexts.toDateTimes statusEvent) =
    some (statusEvent.toValue timeTexts.toDateTimes) := if_pos rfl

/-- A write that fails at once, an export, and one that breaks off. -/
def exportCalls : List ExportCall :=
  [⟨validStatusEvent, .brokeOff 0⟩, ⟨validStatusEvent, .written⟩, ⟨validStatusEvent, .brokeOff 5⟩]

/-- A line that breaks off behind its first byte, and an export. -/
def brokenCalls : List ExportCall :=
  [⟨validStatusEvent, .brokeOff 1⟩, ⟨validStatusEvent, .written⟩]

end Fixture

theorem JsonlForensicExportAdapter.exported_readable_basic :
    Readable (fromSlice Fixture.timeTexts Fixture.parseLine)
      (run Fixture.timeTexts.toDateTimes [] Fixture.exportCalls) := by
  have hevents : ∀ call ∈ Fixture.exportCalls, call.event = Fixture.validStatusEvent := by
    simp [Fixture.exportCalls]
  refine exported_readable (fun call hcall => ?_) (fun call hcall => ?_) ?_ _
    (List.prefix_refl Fixture.exportCalls)
  · rw [hevents call hcall]
    exact Fixture.parseLine_lineOf
  · rw [hevents call hcall]
    exact Fixture.timeTexts_rfc3339.parse_text _ Fixture.statusEvent_writable.timestampUtc
  · have hfirst : FindsLineEnd Fixture.timeTexts.toDateTimes []
        [⟨Fixture.validStatusEvent, .brokeOff 0⟩] :=
      findsLineEnd_append.mpr ⟨findsLineEnd_nil, by rintro ⟨⟩⟩
    have hsecond : FindsLineEnd Fixture.timeTexts.toDateTimes []
        ([⟨Fixture.validStatusEvent, .brokeOff 0⟩] ++ [⟨Fixture.validStatusEvent, .written⟩]) :=
      findsLineEnd_append.mpr ⟨hfirst, fun _ => .inl rfl⟩
    exact findsLineEnd_append.mpr ⟨hsecond, by rintro ⟨⟩⟩

/-- The line behind a broken one is part of it. -/
theorem complete_torn {line : List UInt8} (h : newline ∉ line) :
    Lines.complete newline ([123] ++ (line ++ [newline])) = [123 :: line] := by
  have hline : newline ∉ 123 :: line := List.not_mem_cons_of_ne_of_not_mem (by decide) h
  have hempty : Lines.Terminated newline [] := .inl rfl
  exact Lines.complete_append_line hempty hline

theorem run_torn (times : DateTimes) (event : ValidatedForensicEvent) :
    (run times [] [⟨event, .brokeOff 1⟩, ⟨event, .written⟩]).file =
      [123] ++ (lineOf times event.event ++ [newline]) := by
  have hfile : (run times [] [⟨event, .brokeOff 1⟩, ⟨event, .written⟩]).file =
      [] ++ (lineOf times event.event ++ [newline]).take 1 ++
        (lineOf times event.event ++ [newline]) := rfl
  obtain ⟨rest, hrest⟩ := lineOf_cons times event.event
  rw [hfile, hrest]
  rfl

theorem exported_torn (times : DateTimes) (event : ValidatedForensicEvent) :
    (run times [] [⟨event, .brokeOff 1⟩, ⟨event, .written⟩]).exported = [event.event] := rfl

theorem parseLine_torn : Fixture.parseLine
    (123 :: lineOf Fixture.timeTexts.toDateTimes Fixture.statusEvent) = none :=
  if_neg (List.cons_ne_self _ _)

/-- The event is exported, and its line cannot be read. -/
theorem JsonlForensicExportAdapter.exported_not_readable_broken :
    Fixture.parseLine (lineOf Fixture.timeTexts.toDateTimes Fixture.statusEvent) =
        some (Fixture.statusEvent.toValue Fixture.timeTexts.toDateTimes) ∧
      (run Fixture.timeTexts.toDateTimes [] Fixture.brokenCalls).exported =
        [Fixture.statusEvent] ∧
      ¬ Readable (fromSlice Fixture.timeTexts Fixture.parseLine)
        (run Fixture.timeTexts.toDateTimes [] Fixture.brokenCalls) := by
  rw [Fixture.brokenCalls]
  refine ⟨Fixture.parseLine_lineOf, exported_torn _ Fixture.validStatusEvent, ?_⟩
  have hfile := run_torn Fixture.timeTexts.toDateTimes Fixture.validStatusEvent
  rw [Readable, hfile, exported_torn, complete_torn newline_notMem_lineOf]
  rintro ⟨lines, hsub, hlines⟩
  rcases List.sublist_singleton.mp hsub with rfl | rfl
  · cases hlines
  · have hread := (List.cons.inj hlines).1
    rw [fromSlice, Fixture.validStatusEvent, parseLine_torn] at hread
    cases hread

end FaLocal
