import FaLocal.GnatReport
import FaLocal.GnatSchema
import FaLocal.Library.Polling
import FaLocal.LocalFileWrite
import FaLocal.ReconnaissanceText
import FaLocal.TokenVerify

/-!
# The Cortex subprocess

`CortexSubprocessGnatShardAdapter` runs one shard in a process of its own and waits for it no
longer than the deadline of the shard. The file system, the process with its clock and the
parser of JSON are parameters; what the pipes held is taken as decoded.
-/
namespace FaLocal

open GnatDispatchPipelineService (stateText)

/-! ## The process -/

/-- `ExitStatus`: a process that a signal has ended has no code. -/
structure ExitStatus where
  code : Option Int32
  deriving DecidableEq

/-- `{:?}` of `ExitStatus::code` -/
def ExitStatus.debugCode (status : ExitStatus) : String :=
  match status.code with
  | some code => "Some(" ++ toString code ++ ")"
  | none => "None"

/-- Nanoseconds in a millisecond. -/
def millisecond : Nat := 1000000

/-- `POLL_INTERVAL` -/
def pollInterval : Nat := 20 * millisecond

/-- A spawned child: the answers of `try_wait`, the clock before the loop and behind every
answer that it is still running, and what its pipes held in the end. -/
structure ChildProcess where
  tryWait : Nat → Except String (Option ExitStatus)
  started : Nat
  now : Nat → Nat
  stdout : String
  stderr : String
  /-- `Instant` does not go back, and `thread::sleep` pauses for the interval or longer. -/
  paced : Polling.Paced pollInterval started now

inductive WaitOutcome where
  | exited (status : ExitStatus)
  | deadlineExceeded
  | waitFailed (error : String)
  deriving DecidableEq

/-- The turns that a deadline leaves to the loop, the last one included. -/
def maxPolls (deadlineMs : UInt64) : Nat := (deadlineMs.toNat + 19) / 20 + 1

namespace ChildProcess

variable (child : ChildProcess) (deadlineMs : UInt64)

/-- What `try_wait` ends the loop with. -/
def ask (i : Nat) : Option WaitOutcome :=
  match child.tryWait i with
  | .ok (some status) => some (.exited status)
  | .ok none => none
  | .error error => some (.waitFailed error)

/-- `Instant::now() >= deadline` -/
def late (i : Nat) : Bool := child.started + deadlineMs.toNat * millisecond ≤ child.now i

/-- The loop is over when the pauses alone have used the deadline up. -/
theorem loop_returns : ∃ ending n,
    Polling.poll child.ask (child.late deadlineMs) (maxPolls deadlineMs) 0 = some (ending, n) ∧
      n < maxPolls deadlineMs := by
  have hwait : deadlineMs.toNat * millisecond ≤ (deadlineMs.toNat + 19) / 20 * pollInterval := by
    rw [pollInterval, ← Nat.mul_assoc]
    exact Nat.mul_le_mul_right _ (by omega)
  have hreturns : ∃ ending n, Polling.poll child.ask (child.late deadlineMs)
      (maxPolls deadlineMs) 0 = some (ending, n) ∧ n ≤ (deadlineMs.toNat + 19) / 20 :=
    child.paced.poll_returns hwait
  obtain ⟨ending, n, hpoll, hle⟩ := hreturns
  exact ⟨ending, n, hpoll, Nat.lt_succ_of_le hle⟩

/-- The end of the loop, and the number of the turn. -/
def ended : Option WaitOutcome × Nat :=
  (Polling.poll child.ask (child.late deadlineMs) (maxPolls deadlineMs) 0).get
    (by obtain ⟨ending, n, hpoll, -⟩ := child.loop_returns deadlineMs; rw [hpoll]; rfl)

/-- `wait_with_deadline`, with the number of its turns. -/
def waitWithDeadline : WaitOutcome × Nat :=
  ((child.ended deadlineMs).1.getD .deadlineExceeded, (child.ended deadlineMs).2 + 1)

/-- The child is still running, and in time, in every turn before. -/
def Pending (n : Nat) : Prop :=
  ∀ j < n, child.tryWait j = .ok none ∧ child.now j < child.started + deadlineMs.toNat * millisecond

/-- A child that is seen to exit before its deadline. -/
def ExitsInTime : Prop :=
  ∃ n status, child.Pending deadlineMs n ∧ child.tryWait n = .ok (some status)

variable {child deadlineMs} {n : Nat}

theorem ask_eq_none : child.ask n = none ↔ child.tryWait n = .ok none := by
  rw [ask]
  split <;> simp_all

theorem ask_exited {status : ExitStatus} :
    child.ask n = some (.exited status) ↔ child.tryWait n = .ok (some status) := by
  rw [ask]
  split <;> simp_all

theorem ask_failed {error : String} :
    child.ask n = some (.waitFailed error) ↔ child.tryWait n = .error error := by
  rw [ask]
  split <;> simp_all

theorem ask_ne_exceeded : child.ask n ≠ some .deadlineExceeded := by
  rw [ask]
  split <;> simp

theorem late_eq_false : child.late deadlineMs n = false ↔
    child.now n < child.started + deadlineMs.toNat * millisecond := by
  simp [late]

theorem pending_iff : child.Pending deadlineMs n ↔
    ∀ j, 0 ≤ j → j < n → Polling.turn child.ask (child.late deadlineMs) j = none := by
  simp only [Pending, Polling.turn_eq_none, ask_eq_none, late_eq_false, Nat.zero_le, true_implies]

/-- The loop ends in the first turn that has an answer or is late. -/
theorem ended_eq_iff {ending : Option WaitOutcome} : child.ended deadlineMs = (ending, n) ↔
    child.Pending deadlineMs n ∧
      Polling.turn child.ask (child.late deadlineMs) n = some ending := by
  have hget : child.ended deadlineMs = (ending, n) ↔
      Polling.poll child.ask (child.late deadlineMs) (maxPolls deadlineMs) 0 =
        some (ending, n) :=
    ⟨fun h => Option.eq_some_iff_get_eq.mpr ⟨_, h⟩, Option.get_of_eq_some _⟩
  rw [hget, Polling.poll_eq_some_iff, pending_iff]
  constructor
  · rintro ⟨-, -, hturn, hbefore⟩
    exact ⟨hbefore, hturn⟩
  · rintro ⟨hbefore, hturn⟩
    refine ⟨Nat.zero_le n, ?_, hturn, hbefore⟩
    -- a turn that ends the loop does not come behind the one that ended it
    obtain ⟨first, k, hpoll, hk⟩ := child.loop_returns deadlineMs
    obtain ⟨-, -, hfirst, -⟩ := Polling.poll_eq_some_iff.mp hpoll
    by_contra hlt
    have hnone := hbefore k (Nat.zero_le k) (by omega)
    rw [hfirst] at hnone
    cases hnone

theorem waitWithDeadline_turns (child : ChildProcess) (deadlineMs : UInt64) :
    (child.waitWithDeadline deadlineMs).2 ≤ maxPolls deadlineMs := by
  obtain ⟨ending, n, hpoll, hlt⟩ := child.loop_returns deadlineMs
  have hended : child.ended deadlineMs = (ending, n) := Option.get_of_eq_some _ hpoll
  rw [waitWithDeadline, hended]
  exact hlt

/-- A status is taken from the first turn with an answer, if all before it are in time. -/
theorem exited_iff {status : ExitStatus} :
    (child.waitWithDeadline deadlineMs).1 = .exited status ↔
      ∃ n, child.Pending deadlineMs n ∧ child.tryWait n = .ok (some status) := by
  constructor
  · intro h
    obtain ⟨hpending, hturn⟩ := ended_eq_iff.mp (Prod.mk.eta (p := child.ended deadlineMs)).symm
    rw [waitWithDeadline] at h
    cases hending : (child.ended deadlineMs).1 with
    | none =>
      rw [hending] at h
      cases h
    | some outcome =>
      rw [hending] at h hturn
      cases h
      exact ⟨_, hpending, ask_exited.mp (Polling.turn_answered.mp hturn)⟩
  · rintro ⟨n, hpending, hexit⟩
    have hended := ended_eq_iff.mpr
      ⟨hpending, Polling.turn_answered.mpr (ask_exited.mpr hexit)⟩
    rw [waitWithDeadline, hended]
    rfl

/-- A child is given up in the first turn that is late, and never once it has exited in time. -/
theorem exceeded_iff : (child.waitWithDeadline deadlineMs).1 = .deadlineExceeded ↔
    ∃ n, child.Pending deadlineMs n ∧ child.tryWait n = .ok none ∧
      child.started + deadlineMs.toNat * millisecond ≤ child.now n := by
  constructor
  · intro h
    obtain ⟨hpending, hturn⟩ := ended_eq_iff.mp (Prod.mk.eta (p := child.ended deadlineMs)).symm
    rw [waitWithDeadline] at h
    cases hending : (child.ended deadlineMs).1 with
    | none =>
      rw [hending] at hturn
      obtain ⟨hask, hlate⟩ := Polling.turn_expired.mp hturn
      exact ⟨_, hpending, ask_eq_none.mp hask, by simpa [late] using hlate⟩
    | some outcome =>
      rw [hending] at h hturn
      cases h
      exact absurd (Polling.turn_answered.mp hturn) ask_ne_exceeded
  · rintro ⟨n, hpending, hrunning, hlate⟩
    have hended := ended_eq_iff.mpr ⟨hpending, Polling.turn_expired.mpr
      ⟨ask_eq_none.mpr hrunning, by simpa [late] using hlate⟩⟩
    rw [waitWithDeadline, hended]
    rfl

end ChildProcess

/-! ## The descriptor -/

namespace GnatShardDispatchRequest

variable (request : GnatShardDispatchRequest)

/-- An object of `json!` keeps its members in the order of their names. -/
def toShardContractJson : Value := .object [
  ("contract_version", .string "GnatShard.v1"),
  ("limits", .object [
    ("deadline_ms", natValue request.deadlineMs.toNat),
    ("max_bytes", natValue request.maxBytes.toNat)]),
  ("media_type", .string request.mediaType),
  ("operation", .string "syntax_extract"),
  ("ordinal", natValue request.ordinal.toNat),
  ("output_contract", .string "extraction-result.schema.json"),
  ("run_id", .string request.runId),
  ("shard_id", .string request.shardId),
  ("source_fingerprint", .object [
    ("algorithm", .string request.sourceFingerprint.algorithm),
    ("byte_count", natValue request.sourceFingerprint.byteCount.toNat),
    ("digest", .string request.sourceFingerprint.digest),
    ("modified_at", .string request.sourceFingerprint.modifiedAt)]),
  ("source_path_token", .string request.sourcePathToken),
  ("source_ref", .string request.sourceRef),
  ("worker_type", .string request.workerType.serdeName)]

/-- `to_string` of the descriptor -/
def shardText : String := String.ofList request.toShardContractJson.compact

theorem natValue_inj {m n : Nat} (h : natValue m = natValue n) : m = n :=
  Nat.repr_injective (Value.number.inj h)

theorem natValue_plain (n : Nat) : (natValue n).Plain := numberValue_plain n

theorem toShardContractJson_plain : request.toShardContractJson.Plain := by
  simp [toShardContractJson, natValue_plain]

variable {request request' : GnatShardDispatchRequest}

/-- The descriptor tells everything about a request but its local path, and nothing of that. -/
theorem shardText_eq_iff : request.shardText = request'.shardText ↔
    { request with localPath := "" } = { request' with localPath := "" } := by
  constructor
  · intro h
    have hvalue := compact_injective request.toShardContractJson_plain
      request'.toShardContractJson_plain (String.ofList_injective h)
    obtain ⟨runId, shardId, ordinal, workerType, sourceRef, sourcePathToken, mediaType,
      ⟨algorithm, digest, byteCount, modifiedAt⟩, deadlineMs, maxBytes, localPath⟩ := request
    obtain ⟨runId', shardId', ordinal', workerType', sourceRef', sourcePathToken', mediaType',
      ⟨algorithm', digest', byteCount', modifiedAt'⟩, deadlineMs', maxBytes', localPath'⟩ :=
      request'
    simp only [toShardContractJson, Value.object.injEq, List.cons.injEq, Prod.mk.injEq,
      Value.string.injEq, true_and, and_true] at hvalue
    obtain ⟨⟨hdeadline, hbytes⟩, rfl, hordinal, rfl, rfl, ⟨rfl, hcount, rfl, rfl⟩, rfl, rfl,
      hworker⟩ := hvalue
    rw [UInt64.toNat_inj.mp (natValue_inj hdeadline), UInt64.toNat_inj.mp (natValue_inj hbytes),
      UInt32.toNat_inj.mp (natValue_inj hordinal), UInt64.toNat_inj.mp (natValue_inj hcount),
      GnatDispatchEnvelopeSchema.worker_serdeName_inj hworker]
  · intro h
    have htext := congrArg shardText h
    exact htext

end GnatShardDispatchRequest

/-! ## The adapter -/

/-- `{:?}` -/
def GnatWorkerType.debug : GnatWorkerType → String
  | .markdownSyntax => "MarkdownSyntax"
  | .plainTextSyntax => "PlainTextSyntax"
  | .pdfTextSyntax => "PdfTextSyntax"
  | .docxTextSyntax => "DocxTextSyntax"
  | .rtfTextSyntax => "RtfTextSyntax"
  | .odtTextSyntax => "OdtTextSyntax"
  | .epubTextSyntax => "EpubTextSyntax"

def authorizedWorkerTypes : List GnatWorkerType := [.markdownSyntax, .plainTextSyntax]

structure CortexSubprocessGnatShardAdapterConfig where
  pythonBinary : String
  cortexRepoRoot : String
  deriving DecidableEq

/-- `Command` -/
structure ShardCommand where
  program : String
  currentDir : String
  args : List String
  deriving DecidableEq

/-- What a call takes from outside. -/
structure CortexHost where
  isFile : String → Bool
  tempDir : String
  newV4 : Uuid
  write : String → String → Except String Unit
  spawn : ShardCommand → Except String ChildProcess
  fromStr : String → Option Value

/-- What a call leaves outside: a descriptor that was written, the process with the turns that
were waited for it, and whether it was killed. -/
inductive HostAction where
  | wrote (path contents : String)
  | spawned (command : ShardCommand)
  | polled (turns : Nat)
  | killed
  | removed (path : String)
  deriving DecidableEq

namespace CortexSubprocessGnatShardAdapter

variable (config : CortexSubprocessGnatShardAdapterConfig) (host : CortexHost)
  (request : GnatShardDispatchRequest)

def shardPath : String :=
  LocalFileWriteDeliveryAdapter.join host.tempDir
    ("fa-local-gnat-shard-" ++ request.shardId ++ "-" ++ String.ofList host.newV4.hyphenated ++
      ".json")

def shardCommand : ShardCommand where
  program := config.pythonBinary
  currentDir := config.cortexRepoRoot
  args := ["-m", "cortex_runtime.gnats.shard_cli", shardPath host request, "--local-path",
    request.localPath]

/-- What is read from the pipes of a child that has exited in time. -/
def readReceipt (child : ChildProcess) (status : ExitStatus) : GnatShardDispatchResult :=
  match host.fromStr (trim child.stdout) with
  | some receipt => classifyReceipt receipt
  | none => .dispatchUnavailable
      ("Cortex Gnat shard runner produced no parseable receipt (exit " ++ status.debugCode ++
        "): " ++ trim child.stderr)

def resultOf (child : ChildProcess) : WaitOutcome → GnatShardDispatchResult
  | .exited status => readReceipt host child status
  | .deadlineExceeded => .dispatchUnavailable
      ("Cortex Gnat shard runner exceeded its " ++ toString request.deadlineMs ++
        " ms deadline and was killed")
  | .waitFailed error => .dispatchUnavailable
      ("could not wait for Cortex Gnat shard runner: " ++ error)

/-- The descriptor is removed behind the loop, whatever ended it. -/
def runChild (child : ChildProcess) : GnatShardDispatchResult × List HostAction :=
  let (outcome, turns) := child.waitWithDeadline request.deadlineMs
  (resultOf host request child outcome,
    .polled turns :: ((if outcome = .deadlineExceeded then [.killed] else []) ++
      [.removed (shardPath host request)]))

/-- The steps of `deliver_shard` behind the checks of the request. -/
def dispatch : GnatShardDispatchResult × List HostAction :=
  match host.write (shardPath host request) request.shardText with
  | .error error =>
    (.dispatchUnavailable ("could not write shard descriptor for Cortex dispatch: " ++ error), [])
  | .ok () =>
    let wrote := HostAction.wrote (shardPath host request) request.shardText
    match host.spawn (shardCommand config host request) with
    | .error error =>
      (.dispatchUnavailable ("could not spawn Cortex Gnat shard runner: " ++ error),
        [wrote, .removed (shardPath host request)])
    | .ok child =>
      let (result, actions) := runChild host request child
      (result, wrote :: .spawned (shardCommand config host request) :: actions)

def deliverShard : GnatShardDispatchResult × List HostAction :=
  if !authorizedWorkerTypes.contains request.workerType then
    (.dispatchUnavailable
      ("this proving slice only dispatches markdown_syntax or plain_text_syntax shards, not " ++
        request.workerType.debug), [])
  else if !host.isFile request.localPath then
    (.dispatchUnavailable "shard source file is unavailable for Cortex dispatch", [])
  else dispatch config host request

/-! ## What a call answers -/

variable {config host request}

theorem classifyReceipt_completed {receipt receipt' : Value} :
    classifyReceipt receipt = .completed receipt' ↔
      receipt = receipt' ∧ stateText receipt = some "complete" := by
  rw [classifyReceipt]
  split <;> simp_all

/-- A request that gets to a process of its own. -/
structure Launches (config : CortexSubprocessGnatShardAdapterConfig) (host : CortexHost)
    (request : GnatShardDispatchRequest) (child : ChildProcess) : Prop where
  authorized : request.workerType ∈ authorizedWorkerTypes
  source : host.isFile request.localPath = true
  written : host.write (shardPath host request) request.shardText = .ok ()
  spawned : host.spawn (shardCommand config host request) = .ok child

theorem deliverShard_launched {child : ChildProcess} (h : Launches config host request child) :
    deliverShard config host request =
      ((runChild host request child).1, .wrote (shardPath host request) request.shardText ::
        .spawned (shardCommand config host request) :: (runChild host request child).2) := by
  have hauthorized : authorizedWorkerTypes.contains request.workerType = true :=
    List.contains_iff_mem.mpr h.authorized
  rw [deliverShard, hauthorized, h.source]
  simp [dispatch, h.written, h.spawned]

/-- Without a process there is a summary, and a descriptor that was written is removed. -/
theorem launches_or_unavailable (config : CortexSubprocessGnatShardAdapterConfig)
    (host : CortexHost) (request : GnatShardDispatchRequest) :
    (∃ child, Launches config host request child) ∨
      (∃ summary, (deliverShard config host request).1 = .dispatchUnavailable summary) ∧
        ((deliverShard config host request).2 = [] ∨ (deliverShard config host request).2 =
          [.wrote (shardPath host request) request.shardText,
            .removed (shardPath host request)]) := by
  rw [deliverShard]
  split
  · exact .inr ⟨⟨_, rfl⟩, .inl rfl⟩
  · rename_i hauthorized
    split
    · exact .inr ⟨⟨_, rfl⟩, .inl rfl⟩
    · rename_i hsource
      rw [dispatch]
      split
      · exact .inr ⟨⟨_, rfl⟩, .inl rfl⟩
      · rename_i hwritten
        cases hspawn : host.spawn (shardCommand config host request) with
        | error error => exact .inr ⟨⟨_, rfl⟩, .inr rfl⟩
        | ok child =>
          refine .inl ⟨child, ?_, by simpa using hsource, hwritten, hspawn⟩
          simpa using hauthorized

theorem resultOf_produced (child : ChildProcess) (outcome : WaitOutcome) :
    (resultOf host request child outcome).Produced := by
  cases outcome with
  | exited status =>
    rw [resultOf, readReceipt]
    split
    · exact .inl ⟨_, rfl⟩
    · exact .inr ⟨_, rfl⟩
  | deadlineExceeded => exact .inr ⟨_, rfl⟩
  | waitFailed error => exact .inr ⟨_, rfl⟩

theorem deliverShard_produced (config : CortexSubprocessGnatShardAdapterConfig)
    (host : CortexHost) (request : GnatShardDispatchRequest) :
    (deliverShard config host request).1.Produced := by
  rcases launches_or_unavailable config host request with ⟨child, h⟩ | ⟨⟨summary, h⟩, -⟩
  · rw [deliverShard_launched h]
    exact resultOf_produced child _
  · exact .inr ⟨summary, h⟩

/-- A shard is completed exactly by a receipt that says so, of a process that was seen to exit
in time; the code that it exits with does not matter. -/
theorem deliverShard_completed_iff {receipt : Value} :
    (deliverShard config host request).1 = .completed receipt ↔
      ∃ child, Launches config host request child ∧ child.ExitsInTime request.deadlineMs ∧
        host.fromStr (trim child.stdout) = some receipt ∧ stateText receipt = some "complete" := by
  constructor
  · intro h
    rcases launches_or_unavailable config host request with ⟨child, hl⟩ | ⟨⟨summary, hu⟩, -⟩
    · rw [deliverShard_launched hl] at h
      change resultOf host request child (child.waitWithDeadline request.deadlineMs).1 = _ at h
      cases hw : (child.waitWithDeadline request.deadlineMs).1 with
      | exited status =>
        rw [hw, resultOf, readReceipt] at h
        obtain ⟨n, hpending, hexit⟩ := ChildProcess.exited_iff.mp hw
        cases hparse : host.fromStr (trim child.stdout) with
        | none =>
          rw [hparse] at h
          cases h
        | some receipt' =>
          rw [hparse] at h
          obtain ⟨rfl, hstate⟩ := classifyReceipt_completed.mp h
          exact ⟨child, hl, ⟨n, status, hpending, hexit⟩, hparse, hstate⟩
      | deadlineExceeded =>
        rw [hw] at h
        cases h
      | waitFailed error =>
        rw [hw] at h
        cases h
    · rw [hu] at h
      cases h
  · rintro ⟨child, hl, ⟨n, status, hpending, hexit⟩, hparse, hstate⟩
    rw [deliverShard_launched hl]
    change resultOf host request child (child.waitWithDeadline request.deadlineMs).1 = _
    rw [ChildProcess.exited_iff.mpr ⟨n, hpending, hexit⟩, resultOf, readReceipt, hparse]
    exact classifyReceipt_completed.mpr ⟨rfl, hstate⟩

end CortexSubprocessGnatShardAdapter

end FaLocal
