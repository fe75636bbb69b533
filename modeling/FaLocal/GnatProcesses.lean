import FaLocal.CortexSubprocess
import FaLocal.GnatNegotiation
import FaLocal.GnatOrder

/-!
# The processes of a Gnat run

A run with the subprocess adapter waits for its children no longer than the deadlines of its
shards allow, removes every descriptor that it has written, and starts a process only for an
authorized shard of a run that it has admitted.
-/
namespace FaLocal

open GnatWorldEvent (deliveries)
open GnatDispatchPipelineService CortexSubprocessGnatShardAdapter
open GnatDispatchValidator (PlanSurface Dispatchable)

/-! ## What actions amount to -/

namespace HostAction

def turns : HostAction → Nat
  | .polled turns => turns
  | _ => 0

def writtenPath : HostAction → Option String
  | .wrote path _ => some path
  | _ => none

def removedPath : HostAction → Option String
  | .removed path => some path
  | _ => none

def command : HostAction → Option ShardCommand
  | .spawned command => some command
  | _ => none

/-- The turns of all waits together. -/
def polls (actions : List HostAction) : Nat := (actions.map turns).sum

def writtenPaths (actions : List HostAction) : List String := actions.filterMap writtenPath

def removedPaths (actions : List HostAction) : List String := actions.filterMap removedPath

/-- The processes that were started, in order. -/
def commands (actions : List HostAction) : List ShardCommand := actions.filterMap command

variable (a b : List HostAction)

@[simp] theorem polls_append : polls (a ++ b) = polls a + polls b := by simp [polls]

@[simp] theorem writtenPaths_append : writtenPaths (a ++ b) = writtenPaths a ++ writtenPaths b :=
  List.filterMap_append

@[simp] theorem removedPaths_append : removedPaths (a ++ b) = removedPaths a ++ removedPaths b :=
  List.filterMap_append

@[simp] theorem commands_append : commands (a ++ b) = commands a ++ commands b :=
  List.filterMap_append

end HostAction

open HostAction

/-- A process that a request gets: its command names the descriptor, which the actions have
written and which tells of the request, and the local path. -/
def Serving (config : CortexSubprocessGnatShardAdapterConfig) (actions : List HostAction)
    (request : GnatShardDispatchRequest) (command : ShardCommand) : Prop :=
  ∃ host, command = shardCommand config host request ∧
    .wrote (shardPath host request) request.shardText ∈ actions

theorem Serving.mono {config : CortexSubprocessGnatShardAdapterConfig} {a b : List HostAction}
    {request : GnatShardDispatchRequest} {command : ShardCommand}
    (h : Serving config a request command) (hsub : a ⊆ b) : Serving config b request command := by
  obtain ⟨host, hcommand, hwrote⟩ := h
  exact ⟨host, hcommand, hsub hwrote⟩

/-- What the calls for some requests may leave behind. -/
structure Spent (config : CortexSubprocessGnatShardAdapterConfig)
    (requests : List GnatShardDispatchRequest) (actions : List HostAction) : Prop where
  waits : polls actions ≤ (requests.map fun request => maxPolls request.deadlineMs).sum
  tidy : removedPaths actions = writtenPaths actions
  started : ∃ served, served.Sublist
      (requests.filter fun request => authorizedWorkerTypes.contains request.workerType) ∧
    List.Forall₂ (Serving config actions) served (commands actions)

variable {config : CortexSubprocessGnatShardAdapterConfig}

theorem Spent.nothing (requests : List GnatShardDispatchRequest) : Spent config requests [] where
  waits := Nat.zero_le _
  tidy := rfl
  started := ⟨[], List.nil_sublist _, .nil⟩

theorem Spent.append {before behind : List GnatShardDispatchRequest} {a b : List HostAction}
    (ha : Spent config before a) (hb : Spent config behind b) :
    Spent config (before ++ behind) (a ++ b) where
  waits := by
    have hbefore := ha.waits
    have hbehind := hb.waits
    rw [polls_append, List.map_append, List.sum_append]
    omega
  tidy := by rw [removedPaths_append, writtenPaths_append, ha.tidy, hb.tidy]
  started := by
    obtain ⟨first, hfirst, hserved⟩ := ha.started
    obtain ⟨second, hsecond, hserved'⟩ := hb.started
    refine ⟨first ++ second, ?_, ?_⟩
    · rw [List.filter_append]
      exact hfirst.append hsecond
    · rw [commands_append]
      refine List.rel_append (hserved.imp fun _ _ h => ?_) (hserved'.imp fun _ _ h => ?_)
      · exact h.mono (List.subset_append_left a b)
      · exact h.mono (List.subset_append_right a b)

theorem runChild_actions (host : CortexHost) (request : GnatShardDispatchRequest)
    (child : ChildProcess) : ∃ killed ∈ [[], [HostAction.killed]],
    (runChild host request child).2 =
      .polled (child.waitWithDeadline request.deadlineMs).2 ::
        (killed ++ [.removed (shardPath host request)]) := by
  by_cases h : (child.waitWithDeadline request.deadlineMs).1 = .deadlineExceeded
  · exact ⟨[.killed], by simp, by simp [runChild, h]⟩
  · exact ⟨[], by simp, by simp [runChild, h]⟩

/-- The actions of one call. -/
theorem deliverShard_spent (config : CortexSubprocessGnatShardAdapterConfig) (host : CortexHost)
    (request : GnatShardDispatchRequest) :
    Spent config [request] (deliverShard config host request).2 := by
  rcases launches_or_unavailable config host request with ⟨child, h⟩ | ⟨-, h | h⟩
  · have hturns := child.waitWithDeadline_turns request.deadlineMs
    have hfilter : [request].filter (fun request =>
        authorizedWorkerTypes.contains request.workerType) = [request] := by
      simpa using h.authorized
    have hserving : ∀ behind, Serving config
        (.wrote (shardPath host request) request.shardText :: behind) request
        (shardCommand config host request) := fun _ => ⟨host, rfl, List.mem_cons_self⟩
    obtain ⟨killed, hkilled, hactions⟩ := runChild_actions host request child
    rw [deliverShard_launched h, hactions]
    simp only [List.mem_cons, List.not_mem_nil, or_false] at hkilled
    rcases hkilled with rfl | rfl
    · refine ⟨by simpa [polls, turns] using hturns, rfl, [request], ?_, .cons (hserving _) .nil⟩
      rw [hfilter]
    · refine ⟨by simpa [polls, turns] using hturns, rfl, [request], ?_, .cons (hserving _) .nil⟩
      rw [hfilter]
  · rw [h]
    exact .nothing _
  · rw [h]
    exact ⟨Nat.zero_le _, rfl, [], List.nil_sublist _, .nil⟩

/-- What matches a part of a list matches a part of any list that the list itself matches. -/
theorem forall₂_comp_sublist {α β γ : Type} {R : α → β → Prop} {S : β → γ → Prop} {l : List α}
    {m served : List β} {n : List γ} (h : List.Forall₂ R l m) (hsub : served.Sublist m)
    (hserved : List.Forall₂ S served n) :
    ∃ served', served'.Sublist l ∧ List.Forall₂ (fun a c => ∃ b, R a b ∧ S b c) served' n := by
  induction hsub generalizing l n with
  | slnil =>
    cases hserved
    exact ⟨[], List.nil_sublist l, .nil⟩
  | cons b _ ih =>
    obtain _ | ⟨-, hrest⟩ := h
    obtain ⟨served', hsub', hserved'⟩ := ih hrest hserved
    exact ⟨served', hsub'.cons _, hserved'⟩
  | cons_cons b _ ih =>
    obtain _ | ⟨hfirst, hrest⟩ := h
    obtain _ | ⟨hb, hbehind⟩ := hserved
    obtain ⟨served', hsub', hserved'⟩ := ih hrest hbehind
    exact ⟨_, hsub'.cons_cons _, .cons ⟨b, hfirst, hb⟩ hserved'⟩

/-! ## Machines -/

/-- A machine with Cortex on it; what a call finds there may depend on all that was before. -/
structure GnatMachine where
  config : CortexSubprocessGnatShardAdapterConfig
  host : List GnatWorldEvent → CortexHost
  utcNow : TimestampUtc
  freshEventId : Nat → ForensicEventId
  plainChar : Char → Bool

namespace GnatMachine

variable (machine : GnatMachine)

def environment : GnatRunEnvironment where
  utcNow := machine.utcNow
  freshEventId := machine.freshEventId
  deliverShard := fun log request => (deliverShard machine.config (machine.host log) request).1
  plainChar := machine.plainChar

/-- The actions of the calls in a part of a log, behind another part. -/
def actions : List GnatWorldEvent → List GnatWorldEvent → List HostAction
  | _, [] => []
  | log, .delivered request result :: rest =>
    (deliverShard machine.config (machine.host log) request).2 ++
      actions (log ++ [.delivered request result]) rest
  | log, entry :: rest => actions (log ++ [entry]) rest

theorem actions_append (log a b : List GnatWorldEvent) :
    machine.actions log (a ++ b) = machine.actions log a ++ machine.actions (log ++ a) b := by
  induction a generalizing log with
  | nil => simp [actions]
  | cons entry a ih =>
    cases entry <;> simp [actions, ih]

theorem actions_quiet {entries : List GnatWorldEvent} (h : deliveries entries = [])
    (log : List GnatWorldEvent) : machine.actions log entries = [] := by
  induction entries generalizing log with
  | nil => rfl
  | cons entry entries ih =>
    cases entry with
    | delivered request result => cases h
    | exported event answer => exact ih h _
    | recorded record => exact ih h _

variable {machine} {envelope : GnatDispatchEnvelope}
  {sink : Option GnatForensicEventExportAdapter} {now : TimestampUtc}
  {requests : List GnatShardDispatchRequest} {log later : List GnatWorldEvent}
  {r : FaLocalResult (List (GnatForensicRecordOutcome × String × GnatShardDispatchResult))}

/-- A round makes one call. -/
theorem round_spent {request : GnatShardDispatchRequest} {entries : List GnatWorldEvent}
    {r : FaLocalResult (GnatForensicRecordOutcome × String × GnatShardDispatchResult)}
    (h : Round machine.environment envelope sink now log request r entries) :
    Spent machine.config [request] (machine.actions log entries) := by
  obtain ⟨tail, rfl, htail⟩ := h.shape
  rw [actions, actions_quiet machine htail, List.append_nil]
  exact deliverShard_spent _ _ _

theorem rounds_spent
    (h : Traced.Rounds (Round machine.environment envelope sink now) log requests r later) :
    Spent machine.config requests (machine.actions log later) := by
  induction h with
  | ended log => exact .nothing []
  | next hround _ ih =>
    rw [actions_append]
    exact (round_spent hround).append ih
  | @broken _ _ rest _ _ hround =>
    have hspent := (round_spent hround).append (.nothing rest)
    rwa [List.append_nil] at hspent

/-! ## Runs -/

/-- The shards that a worker may be started for, in the order of the plan. -/
def authorizedShards (envelope : GnatDispatchEnvelope) : List GnatDispatchShard :=
  envelope.plan.shards.filter fun shard => authorizedWorkerTypes.contains shard.workerType

/-- A request is made of a shard and of its enrichment. -/
def RequestOf (envelope : GnatDispatchEnvelope)
    (shardEnrichments : String → Option GnatShardEnrichment) (shard : GnatDispatchShard)
    (request : GnatShardDispatchRequest) : Prop :=
  ∃ enrichment, shardEnrichments shard.shardId = some enrichment ∧
    request = .fromDeclaredShard envelope.plan.runId shard enrichment

variable {shardEnrichments : String → Option GnatShardEnrichment}

/-- The deadlines and the worker types of the requests are those of the shards. -/
theorem requests_of_shards (h : buildShardRequests envelope shardEnrichments = .ok requests) :
    requests.map (·.deadlineMs) = envelope.plan.shards.map (·.deadlineMs) ∧
      List.Forall₂ (RequestOf envelope shardEnrichments) (authorizedShards envelope)
        (requests.filter fun request => authorizedWorkerTypes.contains request.workerType) := by
  have hall : List.Forall₂ (RequestOf envelope shardEnrichments) envelope.plan.shards requests :=
    buildShardRequests_eq_ok.mp h
  constructor
  · clear h
    generalize envelope.plan.shards = shards at hall
    induction hall with
    | nil => rfl
    | cons hfirst _ ih =>
      obtain ⟨enrichment, -, rfl⟩ := hfirst
      rw [List.map_cons, List.map_cons, ih]
      rfl
  · refine List.rel_filter ?_ hall
    rintro shard request ⟨enrichment, -, rfl⟩
    exact Iff.rfl

variable (machine envelope shardEnrichments) in
/-- What a run that finds a log leaves outside. -/
structure Contained (faLocalCapabilities : GnatFaLocalCapabilityState)
    (log entries : List GnatWorldEvent) : Prop where
  waits : polls (machine.actions log entries) ≤
    (envelope.plan.shards.map fun shard => maxPolls shard.deadlineMs).sum
  tidy : removedPaths (machine.actions log entries) = writtenPaths (machine.actions log entries)
  started : ∃ served, served.Sublist (authorizedShards envelope) ∧
    List.Forall₂ (fun shard command => ∃ request, RequestOf envelope shardEnrichments shard request ∧
      Serving machine.config (machine.actions log entries) request command) served
      (commands (machine.actions log entries))
  admitted : commands (machine.actions log entries) ≠ [] →
    PlanSurface envelope ∧ Dispatchable envelope faLocalCapabilities

variable {faLocalCapabilities : GnatFaLocalCapabilityState}

theorem Contained.of_quiet {entries : List GnatWorldEvent} (h : deliveries entries = []) :
    Contained machine envelope shardEnrichments faLocalCapabilities log entries := by
  have hactions := actions_quiet machine h log
  refine ⟨?_, ?_, ?_, ?_⟩ <;> rw [hactions]
  · exact Nat.zero_le _
  · rfl
  · exact ⟨[], List.nil_sublist _, .nil⟩
  · exact fun hne => absurd rfl hne

theorem trail_contained {r : FaLocalResult GnatDispatchRunResult} {entries : List GnatWorldEvent}
    (h : Trail machine.environment envelope sink now faLocalCapabilities shardEnrichments log r
      entries) : Contained machine envelope shardEnrichments faLocalCapabilities log entries := by
  cases h with
  | unenriched _ => exact .of_quiet rfl
  | unrecorded _ => exact .of_quiet rfl
  | refused hp => exact .of_quiet hp.no_delivery
  | settled _ _ hp => exact .of_quiet hp.no_delivery
  | @dispatched requests admission event record entries later r hrequests hneg hstate _ hp
      hrounds =>
    have hspent := rounds_spent hrounds
    obtain ⟨hdeadlines, hshards⟩ := requests_of_shards hrequests
    have hactions : machine.actions log (entries ++ later) =
        machine.actions (log ++ entries) later := by
      rw [actions_append, actions_quiet machine hp.no_delivery, List.nil_append]
    refine ⟨?_, ?_, ?_, fun _ => ?_⟩
    · have hwaits := congrArg (fun deadlines => (deadlines.map maxPolls).sum) hdeadlines
      simp only [List.map_map] at hwaits
      rw [hactions]
      exact hspent.waits.trans hwaits.le
    · rw [hactions]
      exact hspent.tidy
    · obtain ⟨served, hsub, hserved⟩ := hspent.started
      rw [hactions]
      exact forall₂_comp_sublist hshards hsub hserved
    · exact (GnatDispatchValidator.negotiate_classified _ _ _).1.mp ⟨admission, hneg, hstate⟩

/-- A run waits no more turns than the deadlines of its shards allow, even if no child ever
exits; it asks to remove every descriptor that it has written; and it starts processes for
authorized shards of an admitted plan only, for each at most one and in their order. -/
theorem run_contained (machine : GnatMachine) (envelope : GnatDispatchEnvelope)
    (sink : Option GnatForensicEventExportAdapter) (now : TimestampUtc)
    (faLocalCapabilities : GnatFaLocalCapabilityState)
    (shardEnrichments : String → Option GnatShardEnrichment) (log : List GnatWorldEvent) :
    ∃ entries,
      (run machine.environment envelope sink now faLocalCapabilities shardEnrichments log).2 =
        log ++ entries ∧
      Contained machine envelope shardEnrichments faLocalCapabilities log entries := by
  obtain ⟨entries, he, htrail⟩ :=
    @run_trail machine.environment envelope sink now faLocalCapabilities shardEnrichments log
  exact ⟨entries, he, trail_contained htrail⟩

end GnatMachine

end FaLocal
