import FaLocal.Library.Following
import FaLocal.NmapPreflight

/-!
# What stands in the files

The answer to a delivery tells whether its receipt was written, but not what a write that
failed leaves behind: `fs::write` empties a file before it writes to it. Nor does it tell
that two paths lead to one file, or what a sink does to the files it keeps itself. Where no
write is torn, every path is a file of its own and no sink keeps it, `filesAfter` is what
stands in the files.
-/
namespace FaLocal

open LocalFileWriteDeliveryAdapter (deliverRoute receiptContents receiptPathFor refusalMarkerPath
  validateRequest)

/-! ## Writes -/

namespace LocalFileWriteDeliveryAdapter

/-- What the answer to a delivery tells of the write of its receipt, if there was one. A write
that does not find its directory has not opened a file. -/
def writeAnswer : AdapterDeliveryResult → Option (Except WriteError Unit)
  | .deliveredAllSteps => some (.ok ())
  | .failedAtDeclaredStep _ failureSummary =>
    if failureSummary = "local file write receipt write failed" then some (.error .other) else none
  | _ => none

/-- What is told of a write is what the file system has answered to it. -/
theorem deliverRoute_writeAnswer {fs : LocalFileSystem} {log : List (WorldEvent BuiltAdapter)}
    {deliveryRoot : String} {supportedCapabilityId : CapabilityId}
    {request : AdapterDeliveryRequest} {answer : Except WriteError Unit}
    (h : writeAnswer (deliverRoute fs log deliveryRoot supportedCapabilityId request) =
      some answer) :
    validateRequest supportedCapabilityId request = .ok () ∧ fs.isDir log deliveryRoot = true ∧
      fs.pathExists log (refusalMarkerPath deliveryRoot) = false ∧
      fs.write log (receiptPathFor deliveryRoot request.requestId request.stablePlanHash)
        (receiptContents request) = answer := by
  rw [deliverRoute] at h
  cases hvalid : validateRequest supportedCapabilityId request with
  | error summary => simp [hvalid, writeAnswer] at h
  | ok _ =>
    cases hdir : fs.isDir log deliveryRoot with
    | false => simp [hvalid, hdir, writeAnswer] at h
    | true =>
      cases hmarker : fs.pathExists log (refusalMarkerPath deliveryRoot) with
      | true => simp [hvalid, hdir, hmarker, writeAnswer] at h
      | false =>
        refine ⟨rfl, rfl, rfl, ?_⟩
        cases hwrite : fs.write log
            (receiptPathFor deliveryRoot request.requestId request.stablePlanHash)
            (receiptContents request) with
        | ok _ => simpa [hvalid, hdir, hmarker, hwrite, writeAnswer] using h
        | error e =>
          cases e with
          | notFound => simp [hvalid, hdir, hmarker, hwrite, writeAnswer] at h
          | other => simpa [hvalid, hdir, hmarker, hwrite, writeAnswer] using h

theorem writeAnswer_eq_ok {result : AdapterDeliveryResult} :
    writeAnswer result = some (.ok ()) ↔ result = .deliveredAllSteps := by
  cases result with
  | failedAtDeclaredStep stepId failureSummary =>
    rw [writeAnswer]
    split <;> simp
  | _ => simp [writeAnswer]

end LocalFileWriteDeliveryAdapter

open LocalFileWriteDeliveryAdapter (writeAnswer writeAnswer_eq_ok)

/-! ## Disks -/

/-- What a disk does behind the answers: the file that a path leads to, what a write that
fails leaves in its file, and what an export does to the files of its sink. -/
structure LocalDisk where
  place : String → String
  failedWrite : List (WorldEvent BuiltAdapter) → String → String → Option String → Option String
  sinkFiles : List String
  exported : List (WorldEvent BuiltAdapter) → ForensicEvent → String → Option String →
    Option String

namespace LocalDisk

/-- A write that fails leaves its file as it was. -/
def AtomicWrites (disk : LocalDisk) : Prop :=
  ∀ log file contents before, disk.failedWrite log file contents before = before

/-- Writes are atomic, every path is a file of its own, and no sink keeps this one. -/
structure Plain (disk : LocalDisk) (file : String) : Prop where
  atomic : disk.AtomicWrites
  place : ∀ path, disk.place path = path
  sink : file ∉ disk.sinkFiles

/-- What an entry does to the contents of all files. -/
def contentsStep (disk : LocalDisk) (log : List (WorldEvent BuiltAdapter)) :
    WorldEvent BuiltAdapter → (String → Option String) → String → Option String
  | .inProgress _, files => files
  | .called ⟨.nmapPreflight _ _, _⟩ _ _, files => files
  | .called ⟨.localFileWrite deliveryRoot, _⟩ request result, files =>
    let file := disk.place (receiptPathFor deliveryRoot request.requestId request.stablePlanHash)
    match writeAnswer result with
    | none => files
    | some (.ok _) => Function.update files file (some (receiptContents request))
    | some (.error _) => Function.update files file
        (disk.failedWrite log file (receiptContents request) (files file))
  | .exported event _, files => fun file =>
    if file ∈ disk.sinkFiles then disk.exported log event file (files file) else files file

/-- The contents of all files behind a log. -/
def contentsAfter (disk : LocalDisk) (fs : LocalFileSystem)
    (log : List (WorldEvent BuiltAdapter)) : String → Option String :=
  Traced.replay disk.contentsStep [] log fs.files

variable {disk : LocalDisk} {fs : LocalFileSystem} {log : List (WorldEvent BuiltAdapter)}
  {event : WorldEvent BuiltAdapter} {file : String}

theorem contentsAfter_snoc : disk.contentsAfter fs (log ++ [event]) =
    disk.contentsStep log event (disk.contentsAfter fs log) :=
  Traced.replay_snoc _ _ _ _

/-- Behind an entry, a file that no sink keeps holds what it held before, unless the entry is a
call that wrote to it or tried to. -/
theorem contentsStep_cases (hsink : file ∉ disk.sinkFiles)
    (log : List (WorldEvent BuiltAdapter)) (event : WorldEvent BuiltAdapter)
    (files : String → Option String) :
    disk.contentsStep log event files file = files file ∨
      ∃ deliveryRoot capabilityId request result answer,
        event = .called ⟨.localFileWrite deliveryRoot, capabilityId⟩ request result ∧
        file = disk.place
          (receiptPathFor deliveryRoot request.requestId request.stablePlanHash) ∧
        writeAnswer result = some answer ∧
        disk.contentsStep log event files file = match answer with
          | .ok _ => some (receiptContents request)
          | .error _ => disk.failedWrite log file (receiptContents request) (files file) := by
  cases event with
  | inProgress stepId => exact .inl rfl
  | exported event result => exact .inl (if_neg hsink)
  | called adapter request result =>
    obtain ⟨selection, capabilityId⟩ := adapter
    cases selection with
    | nmapPreflight binary profile => exact .inl rfl
    | localFileWrite deliveryRoot =>
      simp only [contentsStep]
      cases hanswer : writeAnswer result with
      | none => exact .inl rfl
      | some answer =>
        by_cases hfile : file =
            disk.place (receiptPathFor deliveryRoot request.requestId request.stablePlanHash)
        · refine .inr ⟨deliveryRoot, capabilityId, request, result, answer, rfl, hfile, hanswer, ?_⟩
          subst hfile
          cases answer <;> exact Function.update_self _ _ _
        · left
          cases answer <;> exact Function.update_of_ne hfile _ _

/-- An answer that is not a delivery has left no receipt. -/
theorem receipts_undelivered {adapter : BuiltAdapter} {request : AdapterDeliveryRequest}
    {result : AdapterDeliveryResult} (h : result ≠ .deliveredAllSteps) :
    LocalFileSystem.receipts [.called adapter request result] = [] := by
  obtain ⟨selection, capabilityId⟩ := adapter
  cases selection with
  | nmapPreflight binary profile => cases result <;> rfl
  | localFileWrite deliveryRoot =>
    cases result with
    | deliveredAllSteps => exact absurd rfl h
    | _ => rfl

/-- On a plain disk the contents are the receipts over the files of the start. -/
theorem contentsAfter_eq_filesAfter (h : disk.Plain file)
    (log : List (WorldEvent BuiltAdapter)) :
    disk.contentsAfter fs log file = fs.filesAfter log file := by
  induction log using List.reverseRecOn with
  | nil => rfl
  | append_singleton log event ih =>
    rw [contentsAfter_snoc, LocalFileSystem.filesAfter_append]
    cases event with
    | inProgress stepId => exact ih
    | exported event result => exact (if_neg h.sink).trans ih
    | called adapter request result =>
      obtain ⟨selection, capabilityId⟩ := adapter
      cases selection with
      | nmapPreflight binary profile => cases result <;> exact ih
      | localFileWrite deliveryRoot =>
        simp only [contentsStep, h.place]
        cases hanswer : writeAnswer result with
        | none =>
          rw [receipts_undelivered (by rintro rfl; cases hanswer)]
          exact ih
        | some answer =>
          cases answer with
          | ok _ =>
            obtain rfl := writeAnswer_eq_ok.mp hanswer
            have hwritten : Overwrites.after LocalFileSystem.receiptPath
                (fun receipt => receiptContents receipt.2) (fs.filesAfter log)
                (LocalFileSystem.receipts [.called ⟨.localFileWrite deliveryRoot, capabilityId⟩
                  request .deliveredAllSteps]) =
                Function.update (fs.filesAfter log)
                  (receiptPathFor deliveryRoot request.requestId request.stablePlanHash)
                  (some (receiptContents request)) := rfl
            rw [hwritten]
            exact (Function.update_apply _ _ _ _).trans (by rw [Function.update_apply, ih])
          | error e =>
            -- what a torn write would leave is what was there
            rw [receipts_undelivered (by rintro rfl; cases hanswer), h.atomic,
              Function.update_eq_self]
            exact ih

end LocalDisk

end FaLocal
