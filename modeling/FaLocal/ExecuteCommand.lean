import FaLocal.CommandLine
import FaLocal.RunRecords
import FaLocal.StatusSchema

/-!
# The command `execute`

The command runs the execution pipeline on what its arguments name, prints the outcome, and
exits with 0 if an adapter has done some of the work. Files, stores and the texts of their errors
are parameters.
-/
namespace FaLocal

open ExecutionPipelineService ExecutionService
open WorldEvent (calls)

/-! ## Deliveries that achieve something -/

/-- An answer that reports the work, or a declared fallback for it, as done. -/
def AdapterDeliveryResult.achieves : AdapterDeliveryResult → Bool
  | .deliveredAllSteps | .completedWithDeclaredFallback _ _ _ => true
  | _ => false

/-- The final states that the command exits with 0 for. -/
def ExecutionState.succeeds : ExecutionState → Bool
  | .completed | .completedWithConstraints | .partialSuccess => true
  | _ => false

namespace ExecutionService

open FallbackRun (Layout Verdict)

section
variable {α : Type} {world : DeliveryWorld α} {route : SelectedExecutionRoute}
  {link : ExecutionPlanId × String} {validatedPlan : ValidatedExecutionPlan}
  {registry : AdapterRegistry α} {context : CoordinationContext} {trace : ExecutionTrace}
  {attempts : List (ExecutionPlanStep × StepDeliveryOutcome)}
  {v : List (String × Verdict String StepDeliveryOutcome)} {events : List (WorldEvent α)}

/-- The single answer of a whole-route delivery decides. -/
theorem WholeFinal.succeeds_iff {results : List AdapterDeliveryResult} {stepIds : List String}
    {final : ExecutionStatus} (h : WholeFinal route link context results stepIds final) :
    final.state.succeeds = true ↔ ∃ result ∈ results, result.achieves = true := by
  cases h <;> simp [ExecutionState.succeeds, AdapterDeliveryResult.achieves, completedStatus,
    constrainedStatus, failedStatus, canceledStatus, unavailableDependencyStatus, routeStatus]

theorem perStepOutcome_completed {adapterId : String} {result : AdapterDeliveryResult}
    {outcome : StepDeliveryOutcome} (h : perStepOutcome adapterId result = .ok outcome) :
    outcome = .completed ↔ result.achieves = true := by
  cases result with
  | deliveredAllSteps =>
    cases h
    exact iff_of_true rfl rfl
  | failedAtDeclaredStep stepId summary =>
    cases (seq_eq_ok.mp h).2
    exact iff_of_false (by rintro ⟨⟩) (by rintro ⟨⟩)
  | canceledAtDeclaredStep stepId =>
    cases h
    exact iff_of_false (by rintro ⟨⟩) (by rintro ⟨⟩)
  | dependencyUnavailable summary =>
    cases (seq_eq_ok.mp h).2
    exact iff_of_false (by rintro ⟨⟩) (by rintro ⟨⟩)
  | completedWithDeclaredFallback stepId fallbackStepId subtype => cases h
  | unsupported summary => cases h

/-- An attempt completed exactly if a call was answered so. -/
theorem Planned.achieved_iff (h : Planned world route validatedPlan registry attempts v events) :
    (∃ stepId, (stepId, .completed) ∈ attempts.map named) ↔
      ∃ answer ∈ answers events, answer.achieves = true := by
  constructor
  · rintro ⟨stepId, hm⟩
    obtain ⟨q, hq, he⟩ := List.mem_map.mp hm
    have hanswered := h.history.answered q hq
    have houtcome : q.2 = .completed := congrArg Prod.snd he
    rw [Answered] at hanswered
    split at hanswered
    · rw [hanswered.2] at houtcome
      cases houtcome
    · obtain ⟨result, hresult, hok⟩ := hanswered
      refine ⟨result, ?_, (perStepOutcome_completed hok).mp houtcome⟩
      have hmem : result ∈ answersTo q.1.stepId events := hresult ▸ List.mem_cons_self
      obtain ⟨call, hcall, hsome⟩ := List.mem_filterMap.mp hmem
      split at hsome
      · exact List.mem_map.mpr ⟨call, hcall, Option.some.inj hsome⟩
      · cases hsome
  · rintro ⟨answer, hanswer, hachieves⟩
    obtain ⟨call, hcall, rfl⟩ := List.mem_map.mp hanswer
    -- the call belongs to a step that was attempted
    have hids := h.history.calls.subset (List.mem_map_of_mem hcall)
    rw [List.append_nil, List.mem_map] at hids
    obtain ⟨stepId, hattempted, hstep⟩ := hids
    rw [List.map_map] at hattempted
    obtain ⟨q, hq, rfl⟩ := List.mem_map.mp hattempted
    have hmem : call.2.2 ∈ answersTo q.1.stepId events :=
      List.mem_filterMap.mpr ⟨call, hcall, if_pos hstep.symm⟩
    have hanswered := h.history.answered q hq
    rw [Answered] at hanswered
    split at hanswered
    · rw [hanswered.1] at hmem
      cases hmem
    · obtain ⟨result, hresult, hok⟩ := hanswered
      rw [hresult, List.mem_singleton] at hmem
      have houtcome := (perStepOutcome_completed hok).mpr (hmem ▸ hachieves)
      exact ⟨q.1.stepId, List.mem_map.mpr ⟨q, hq, by rw [← houtcome]; rfl⟩⟩

/-- The reported outcomes decide. -/
theorem FinalRecord.succeeds_iff {outcomes : List (String × StepDeliveryOutcome)}
    {startedAtUtc completedAtUtc : TimestampUtc} {record : ExecutionStatus}
    (h : FinalRecord route link outcomes startedAtUtc completedAtUtc record)
    (hne : ∃ q, q ∈ outcomes) :
    record.state.succeeds = true ↔ ∃ q ∈ outcomes, q.2.counts = true := by
  obtain ⟨q, hq⟩ := hne
  have hnone : (∀ q ∈ outcomes, q.2.counts = false) →
      ¬ ∃ q ∈ outcomes, q.2.counts = true := by
    rintro hall ⟨q, hq, hc⟩
    simp [hall q hq] at hc
  cases h with
  | viaFallback hall _ => exact iff_of_true rfl ⟨q, hq, hall q hq⟩
  | completed hall _ => exact iff_of_true rfl ⟨q, hq, hall q hq⟩
  | partialSuccess hsome _ _ _ => exact iff_of_true rfl hsome
  | failed hall _ => exact iff_of_false (by rintro ⟨⟩) (hnone hall)
  | canceled hall _ _ => exact iff_of_false (by rintro ⟨⟩) (hnone hall)
  | unavailable hall _ _ _ => exact iff_of_false (by rintro ⟨⟩) (hnone hall)

/-- The final state of a plan that was delivered step by step. -/
theorem Returned.succeeds_iff
    (h : Returned world route validatedPlan registry context trace attempts v events)
    (hl : Layout (deliveryPolicy validatedPlan.plan)
      (validatedPlan.plan.steps.map (·.stepId))) (hne : validatedPlan.plan.steps ≠ []) :
    trace.finalStatus.status.state.succeeds = true ↔
      ∃ answer ∈ answers events, answer.achieves = true := by
  rw [h.final.succeeds_iff (h.reported_nonempty hl hne), ← h.toPlanned.achieved_iff]
  constructor
  · exact h.completed_of_counts hl
  · rintro ⟨stepId, hm⟩
    by_contra hnone
    push Not at hnone
    have hall : ∀ q ∈ reportedOutcomes v, q.2.counts = false := by
      intro q hq
      simpa using hnone q hq
    obtain ⟨q, hq, he⟩ := List.mem_map.mp hm
    have houtcome : q.2 = .completed := congrArg Prod.snd he
    have hreported := hall _ (h.attempt_reported hl hall hq)
    rw [houtcome] at hreported
    cases hreported

end

end ExecutionService

namespace ExecutionPipelineService

section
variable {env : RunEnvironment} {inputs : ExecutionPipelineInputs}
  {adapterSelection : Option AdapterSelection}
  {additionalAdapters : List CapabilityScopedAdapterSelection} {dispatchMode : DispatchMode}
  {exportAdapter : Option (ForensicEventExportAdapter BuiltAdapter)}
  {context : RouteResolutionContext} {d : RouteDecision} {prepared : Prepared}
  {log out : List (WorldEvent BuiltAdapter)} {trace : ExecutionTrace}

/-- Delivery ends in a success exactly if some call achieved something. -/
theorem deliver_succeeds_iff {plan : ExecutionPlan} {capabilities : CapabilityRegistry}
    (hfrom : PreparedFrom env inputs adapterSelection additionalAdapters d prepared plan
      capabilities)
    (h : deliver env dispatchMode prepared.selectedRoute prepared.validatedPlan prepared.registry
      context log = (.ok trace, out)) :
    ∃ events, out = log ++ events ∧ (trace.finalStatus.status.state.succeeds = true ↔
      ∃ call ∈ calls events, call.2.2.achieves = true) := by
  obtain ⟨events, final, he, htold, hfinal⟩ := deliver_told hfrom h
  refine ⟨events, he, ?_⟩
  have hanswers : (∃ answer ∈ answers events, answer.achieves = true) ↔
      ∃ call ∈ calls events, call.2.2.achieves = true := by
    simp only [answers, List.mem_map, exists_exists_and_eq_and]
  rw [← hanswers]
  cases dispatchMode with
  | wholeRoute =>
    have hlast : trace.finalStatus.status = final := by
      have hmap := congrArg List.getLast? htold
      rw [toldStatuses, List.getLast?_concat, List.getLast?_map,
        List.getLast?_eq_getLast_of_ne_nil trace.nonempty] at hmap
      exact Option.some.inj hmap
    rw [hlast]
    exact WholeFinal.succeeds_iff hfinal
  | perStep =>
    obtain ⟨-, attempts, v, hreturned⟩ := hfinal
    obtain ⟨-, hacc⟩ := ExecutionPlanValidator.accepted_of_validate hfrom.validated
    exact hreturned.succeeds_iff (layout_of_accepted hacc) hacc.nonempty

end

/-- The exit code behind a run that returned. -/
def exitCode (outcome : ExecutionPipelineOutcome) : Nat :=
  if outcome.planDenial.isSome then 1
  else match outcome.executionTrace with
    | some trace => if trace.finalStatus.status.state.succeeds then 0 else 1
    | none => if outcome.routeDecision.executionAllowed then 0 else 1

section
variable {env : RunEnvironment} {inputs : ExecutionPipelineInputs}
  {adapterSelection : Option AdapterSelection}
  {additionalAdapters : List CapabilityScopedAdapterSelection} {dispatchMode : DispatchMode}
  {exportAdapter : Option (ForensicEventExportAdapter BuiltAdapter)}
  {context : RouteResolutionContext} {d : RouteDecision}
  {log events : List (WorldEvent BuiltAdapter)} {outcome : ExecutionPipelineOutcome}

variable (env inputs adapterSelection additionalAdapters dispatchMode context) in
/-- A call that belongs to the delivery of an admitted decision and an accepted plan, and that
achieved something. -/
def Achieved (call : BuiltAdapter × AdapterDeliveryRequest × AdapterDeliveryResult) : Prop :=
  (∃ d prepared, Reached env inputs adapterSelection additionalAdapters context d prepared ∧
    Addressed dispatchMode prepared call.1 call.2.1) ∧ call.2.2.achieves = true

/-- A run that returned without delivery exits with 1. -/
theorem exitCode_undelivered (hd : decided env inputs context = .ok d)
    (hp : d.resolvedApprovalPosture.admitted = false) (records : List ForensicRecordOutcome) :
    exitCode ⟨d, none, none, records⟩ = 1 := by
  obtain ⟨request, _, -, -, hres⟩ := DecisionService.resolveRouteDecision_eq_ok hd
  have hallowed := (ApprovalPostureResolver.resolve_spec hres).2.1.execution
  have hnot : d.executionAllowed = false := by
    rw [hallowed]
    cases hposture : d.resolvedApprovalPosture <;> rw [hposture] at hp <;> first | rfl | cases hp
  simp [exitCode, hnot]

/-- The exit code of a run that returned. -/
theorem exitCode_eq_zero_iff
    (h : run env inputs adapterSelection additionalAdapters dispatchMode exportAdapter context
      log = (.ok outcome, log ++ events)) :
    exitCode outcome = 0 ↔ ∃ call ∈ calls events, Achieved env inputs adapterSelection
      additionalAdapters dispatchMode context call := by
  obtain ⟨events', hreached, he⟩ := run_calls env inputs adapterSelection additionalAdapters
    dispatchMode exportAdapter context log
  rw [h] at he
  obtain rfl : events = events' := List.append_cancel_left he
  have hachieved : (∃ call ∈ calls events, Achieved env inputs adapterSelection
      additionalAdapters dispatchMode context call) ↔
        ∃ call ∈ calls events, call.2.2.achieves = true := by
    constructor
    · rintro ⟨call, hcall, -, hachieves⟩
      exact ⟨call, hcall, hachieves⟩
    · rintro ⟨call, hcall, hachieves⟩
      exact ⟨call, hcall, hreached call hcall, hachieves⟩
  rw [hachieved]
  have hcase := run_cases h
  generalize hout : log ++ events = out at hcase
  cases hcase with
  | @recorded d record out hd hp hr =>
    rw [exitCode_undelivered hd hp]
    apply iff_of_false (by decide)
    rintro ⟨call, hcall, -⟩
    obtain ⟨d', prepared, hreached, -⟩ := hreached call hcall
    obtain rfl : d = d' := Except.ok.inj (hd.symm.trans hreached.decided)
    rw [hreached.admitted] at hp
    cases hp
  | planDenied hd hp hprep =>
    obtain rfl : events = [] := List.append_right_eq_self.mp hout
    exact iff_of_false (by rintro ⟨⟩) (by rintro ⟨call, hcall, -⟩; cases hcall)
  | @delivered d prepared trace mid out records hr hdeliver hrecords =>
    obtain ⟨plan, capabilities, hfrom⟩ := prepare_eq_inr hr.admitted hr.prepared
    obtain ⟨delivered, rfl, hsucceeds⟩ := deliver_succeeds_iff hfrom hdeliver
    obtain ⟨recorded, hquiet, hmid⟩ := recordStatuses_quiet env exportAdapter d
      { recordedAtUtc := context.decidedAtUtc } 0 trace.statuses (log ++ delivered)
    rw [hrecords] at hmid
    obtain rfl : events = delivered ++ recorded := by
      rw [← List.append_cancel_left_eq log, hout, ← List.append_assoc]
      exact hmid
    rw [WorldEvent.calls_append, show calls recorded = [] from hquiet, List.append_nil,
      ← hsucceeds]
    simp [exitCode]

end

end ExecutionPipelineService

/-! ## Arguments -/

/-- The flags of the command, as they are found. -/
structure ExecuteFlags where
  request : Option String
  requesterTrust : Option String
  policy : Option String
  capabilityRegistry : Option String
  plan : Option String
  localFileWriteRoot : Option String
  nmapBinary : Option String
  nmapProfile : Option String
  adapters : List String
  forensicExport : Option String
  forensicSqlite : Option String
  perStepDispatch : Bool
  deriving DecidableEq

namespace ExecuteFlags

open Flags (Argument)

/-- Look up each flag: its first value, all its values, or whether it is there. -/
def lookUp (firstValue : String → Option String) (values : String → List String)
    (present : String → Bool) : ExecuteFlags where
  request := firstValue "--request"
  requesterTrust := firstValue "--requester-trust"
  policy := firstValue "--policy"
  capabilityRegistry := firstValue "--capability-registry"
  plan := firstValue "--plan"
  localFileWriteRoot := firstValue "--local-file-write-root"
  nmapBinary := firstValue "--nmap-binary"
  nmapProfile := firstValue "--nmap-profile"
  adapters := values "--adapter"
  forensicExport := firstValue "--forensic-export"
  forensicSqlite := firstValue "--forensic-sqlite"
  perStepDispatch := present "--per-step-dispatch"

/-- What the command finds, in all pairs of neighbouring arguments. -/
def ofArgs (args : List String) : ExecuteFlags :=
  lookUp (Flags.firstValue args) (Flags.values args) (Flags.present args)

/-- The flags with a value. -/
def valued : List String := ["--request", "--requester-trust", "--policy", "--capability-registry",
  "--plan", "--local-file-write-root", "--nmap-binary", "--nmap-profile", "--adapter",
  "--forensic-export", "--forensic-sqlite"]

/-- A line in which no value is spelled like a flag of the command, and each flag is used as one
that takes a value or as one that does not. -/
structure Plain (parts : List (Argument String)) : Prop where
  takes : ∀ flag ∈ valued, ∀ part ∈ parts, part.Takes flag
  switches : ∀ part ∈ parts, part.Switches "--per-step-dispatch"

/-- What a reader finds who takes the line apart. -/
def ofParts (parts : List (Argument String)) : ExecuteFlags :=
  lookUp (fun flag => (parts.filterMap (Argument.value? flag)).head?)
    (fun flag => parts.filterMap (Argument.value? flag)) (fun flag => parts.any (Argument.isWord flag))

/-- Lookups that agree on the flags of the command. -/
theorem lookUp_congr {firstValue firstValue' : String → Option String}
    {values values' : String → List String} {present present' : String → Bool}
    (hfirst : ∀ flag ∈ valued, firstValue flag = firstValue' flag)
    (hvalues : values "--adapter" = values' "--adapter")
    (hpresent : present "--per-step-dispatch" = present' "--per-step-dispatch") :
    lookUp firstValue values present = lookUp firstValue' values' present' := by
  simp only [valued, List.forall_mem_cons, List.not_mem_nil, false_implies, implies_true,
    and_true] at hfirst
  simp only [lookUp, hfirst, hvalues, hpresent]

theorem ofArgs_line {parts : List (Argument String)} (h : Plain parts) :
    ofArgs (Flags.line parts) = ofParts parts := by
  apply lookUp_congr
  · intro flag hflag
    rw [Flags.firstValue_eq_head?, Flags.values_line (h.takes flag hflag)]
  · exact Flags.values_line (h.takes _ (by decide))
  · exact Flags.present_line h.switches

end ExecuteFlags

/-! ## The command -/

/-- What the command reads and opens by name: files of JSON, with the message if one cannot be
read or parsed, and the sinks for forensic events. -/
structure CommandHost where
  texts : CommandTexts
  readJsonFile : String → Except String Value
  openSqlite : String → Except String (ForensicEventExportAdapter BuiltAdapter)
  jsonl : String → ForensicEventExportAdapter BuiltAdapter

/-- The arguments of the run. -/
structure ExecuteCall where
  inputs : ExecutionPipelineInputs
  adapterSelection : Option AdapterSelection
  additionalAdapters : List CapabilityScopedAdapterSelection
  forensicExportAdapter : Option (ForensicEventExportAdapter BuiltAdapter)
  dispatchMode : DispatchMode

namespace CommandHost

variable (host : CommandHost)

def adapterSelection (flags : ExecuteFlags) : Except String (Option AdapterSelection) :=
  match flags.localFileWriteRoot, flags.nmapBinary with
  | some root, none => .ok (some (.localFileWrite root))
  | none, some binary =>
    match flags.nmapProfile with
    | none => .ok (some (.nmapPreflight binary .loopbackTcpConnectV1))
    | some profile =>
      if profile = "loopback" then .ok (some (.nmapPreflight binary .loopbackTcpConnectV1))
      else if profile = "private-subnet" then
        .ok (some (.nmapPreflight binary .authorizedPrivateSubnetTcpConnectV1))
      else .error ("error: unknown --nmap-profile " ++ host.texts.quoted profile ++
        " (expected loopback or private-subnet)")
  | none, none => .ok none
  | some _, some _ =>
    .error "error: --local-file-write-root and --nmap-binary are mutually exclusive"

def forensicSink (flags : ExecuteFlags) :
    Except String (Option (ForensicEventExportAdapter BuiltAdapter)) :=
  match flags.forensicExport, flags.forensicSqlite with
  | some _, some _ =>
    .error "error: --forensic-export and --forensic-sqlite are mutually exclusive"
  | some path, none => .ok (some (host.jsonl path))
  | none, some path =>
    match host.openSqlite path with
    | .ok store => .ok (some store)
    | .error e => .error ("error: could not open forensic sqlite store " ++
        host.texts.quoted path ++ ": " ++ e)
  | none, none => .ok none

/-- What the command does in front of the run; it ends with a message where something is missing,
unreadable or contradictory. -/
def executeCall (flags : ExecuteFlags) : Except String ExecuteCall :=
  match flags.request, flags.requesterTrust, flags.policy, flags.capabilityRegistry with
  | some requestPath, some requesterTrustPath, some policyPath, some capabilityRegistryPath => do
    let request ← host.readJsonFile requestPath
    let requesterTrust ← host.readJsonFile requesterTrustPath
    let policy ← host.readJsonFile policyPath
    let capabilityRegistry ← host.readJsonFile capabilityRegistryPath
    let plan ← flags.plan.mapM host.readJsonFile
    let adapterSelection ← host.adapterSelection flags
    let additionalAdapters ← (flags.adapters.mapM host.texts.parseCapabilityScopedAdapter).mapError
      ("error: " ++ ·)
    let forensicExportAdapter ← host.forensicSink flags
    return {
      inputs := { request, requesterTrust, policy, capabilityRegistry, executionPlan := plan }
      adapterSelection, additionalAdapters, forensicExportAdapter
      dispatchMode := if flags.perStepDispatch then .perStep else .wholeRoute }
  | _, _, _, _ => .error
      "error: execute requires --request, --requester-trust, --policy, and --capability-registry"

end CommandHost

/-- What the command leaves: a message, the printed outcome, or the error of the run. -/
inductive CommandEnd where
  | refused (message : String)
  | printed (output : Value)
  | aborted (error : Abort)

namespace ExecutionPipelineService

def ForensicRecordOutcome.toValue (times : DateTimes) (record : ForensicRecordOutcome) : Value :=
  .object [
    ("event", record.event.event.toValue times),
    ("export_reference", optionValue .string record.exportReference)]

/-- What is printed of an outcome. -/
def output (times : DateTimes) (outcome : ExecutionPipelineOutcome) : Value := (Value.object (
  ("route_decision", outcome.routeDecision.toValue times) ::
  (outcome.executionTrace.map fun trace => ("execution_trace",
    Value.array (trace.statuses.map fun status => status.status.toValue times))).toList ++
  (outcome.planDenial.map fun denial => ("plan_denial", denial.toValue times)).toList ++
  [("forensic_records", .array (outcome.forensicRecords.map
    (ForensicRecordOutcome.toValue times)))])).byName

section
variable (times : DateTimes) (env : RunEnvironment) (host : CommandHost)
  (context : RouteResolutionContext)

/-- The command behind its flags, with its exit code. -/
def executeFlags (flags : ExecuteFlags) (log : List (WorldEvent BuiltAdapter)) :
    (CommandEnd × Nat) × List (WorldEvent BuiltAdapter) :=
  match host.executeCall flags with
  | .error message => ((.refused message, 1), log)
  | .ok call =>
    match run env call.inputs call.adapterSelection call.additionalAdapters call.dispatchMode
      call.forensicExportAdapter context log with
    | (.ok outcome, out) => ((.printed (output times outcome), exitCode outcome), out)
    | (.error error, out) => ((.aborted error, error.exitCode), out)

/-- `fa-local-run execute` -/
def execute (args : List String) (log : List (WorldEvent BuiltAdapter)) :
    (CommandEnd × Nat) × List (WorldEvent BuiltAdapter) :=
  executeFlags times env host context (.ofArgs args) log

variable {times env host context}

/-- A line whose values are not spelled like flags is read as a reader takes it apart; so its
options may stand in any order, as long as those of one flag keep theirs. -/
theorem execute_line {parts : List (Flags.Argument String)} (h : ExecuteFlags.Plain parts)
    (log : List (WorldEvent BuiltAdapter)) :
    execute times env host context (Flags.line parts) log =
        executeFlags times env host context (.ofParts parts) log ∧
      ∀ parts', ExecuteFlags.Plain parts' →
        (∀ flag ∈ ExecuteFlags.valued, parts'.filterMap (Flags.Argument.value? flag) =
          parts.filterMap (Flags.Argument.value? flag)) →
        (parts'.any (Flags.Argument.isWord "--per-step-dispatch") =
          parts.any (Flags.Argument.isWord "--per-step-dispatch")) →
        execute times env host context (Flags.line parts') log =
          execute times env host context (Flags.line parts) log := by
  constructor
  · rw [execute, ExecuteFlags.ofArgs_line h]
  · intro parts' h' hvalues hswitch
    have hread : ExecuteFlags.ofParts parts' = ExecuteFlags.ofParts parts := by
      apply ExecuteFlags.lookUp_congr
      · intro flag hflag
        rw [hvalues flag hflag]
      · exact hvalues _ (by decide)
      · exact hswitch
    rw [execute, execute, ExecuteFlags.ofArgs_line h, ExecuteFlags.ofArgs_line h', hread]

/-- The command exits with 0 exactly if its run returned and a call that belongs to the delivery
of an admitted decision and an accepted plan achieved something. -/
theorem execute_exits (times : DateTimes) (env : RunEnvironment) (host : CommandHost)
    (context : RouteResolutionContext) (args : List String)
    (log : List (WorldEvent BuiltAdapter)) :
    ∃ events, (execute times env host context args log).2 = log ++ events ∧
      ((execute times env host context args log).1.2 = 0 ↔
        ∃ call outcome, host.executeCall (.ofArgs args) = .ok call ∧
          run env call.inputs call.adapterSelection call.additionalAdapters call.dispatchMode
            call.forensicExportAdapter context log = (.ok outcome, log ++ events) ∧
          ∃ delivery ∈ calls events, Achieved env call.inputs call.adapterSelection
            call.additionalAdapters call.dispatchMode context delivery) := by
  rw [execute, executeFlags]
  cases hcall : host.executeCall (.ofArgs args) with
  | error message =>
    refine ⟨[], (List.append_nil log).symm, iff_of_false (by simp) ?_⟩
    rintro ⟨call, outcome, ⟨⟩, -⟩
  | ok call =>
    obtain ⟨events, -, he⟩ := run_calls env call.inputs call.adapterSelection
      call.additionalAdapters call.dispatchMode call.forensicExportAdapter context log
    dsimp only
    cases hrun : run env call.inputs call.adapterSelection call.additionalAdapters
      call.dispatchMode call.forensicExportAdapter context log with
    | mk result out =>
      rw [hrun] at he
      obtain rfl : out = log ++ events := he
      refine ⟨events, by cases result <;> rfl, ?_⟩
      cases result with
      | error error =>
        apply iff_of_false error.exitCode_ne_zero
        rintro ⟨call', outcome, hcall', hrun', -⟩
        obtain rfl := Except.ok.inj hcall'
        rw [hrun] at hrun'
        cases hrun'
      | ok outcome =>
        refine (exitCode_eq_zero_iff hrun).trans ⟨?_, ?_⟩
        · intro hachieved
          exact ⟨call, outcome, rfl, hrun, hachieved⟩
        · rintro ⟨call', outcome', hcall', -, hachieved⟩
          obtain rfl := Except.ok.inj hcall'
          exact hachieved

end

end ExecutionPipelineService

namespace Fixture

open Flags (Argument)

/-- A line with every flag that a run of the fixtures needs. -/
def executeLine : List (Argument String) := [.bare "fa-local-run", .bare "execute",
  .option "--request" "request.json", .option "--requester-trust" "trust.json",
  .option "--policy" "policy.json", .option "--capability-registry" "registry.json",
  .option "--plan" "plan.json", .bare "--per-step-dispatch",
  .option "--local-file-write-root" "/srv/delivery"]

/-- The same with the switch in front and the required files in another order. -/
def executeLineReordered : List (Argument String) := [.bare "fa-local-run", .bare "execute",
  .bare "--per-step-dispatch", .option "--capability-registry" "registry.json",
  .option "--local-file-write-root" "/srv/delivery", .option "--plan" "plan.json",
  .option "--policy" "policy.json", .option "--requester-trust" "trust.json",
  .option "--request" "request.json"]

/-- The fixture loaders look at no value but that of the requester. -/
def commandHost : CommandHost where
  texts := ⟨fun _ => true, fun _ => "invalid length"⟩
  readJsonFile := fun _ => .ok plannedInputs.requesterTrust
  openSqlite := fun _ => .error "unable to open database file"
  jsonl := fun _ => ⟨"jsonl-forensic-export", fun _ event =>
    .exported event.forensicEventId.display⟩

end Fixture

namespace ExecutionPipelineService

open Fixture (executeLine executeLineReordered commandHost timeTexts context twoStepRun capabilities)

theorem execute_line_reordered :
    execute timeTexts.toDateTimes (twoStepRun capabilities) commandHost context
        (Flags.line executeLineReordered) [] =
      execute timeTexts.toDateTimes (twoStepRun capabilities) commandHost context
        (Flags.line executeLine) [] := by
  have hplain : ExecuteFlags.Plain executeLine := ⟨by decide, by decide⟩
  exact (execute_line hplain []).2 _ ⟨by decide, by decide⟩ (by decide) (by decide)

/-- The second step has no adapter, and still the command exits with 0. -/
example : (execute timeTexts.toDateTimes (twoStepRun capabilities) commandHost context
    (Flags.line executeLine) []).1.2 = 0 := by
  decide +kernel

end ExecutionPipelineService

/-- A value that is spelled like a switch turns it on. -/
example : (ExecuteFlags.ofArgs
    ["fa-local-run", "execute", "--plan", "--per-step-dispatch"]).perStepDispatch = true := by
  decide

end FaLocal
