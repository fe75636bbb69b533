import FaLocal.ExecuteCommand

/-!
# The commands `validate` and `route`

Both read what `execute` reads and deliver nothing. What `execute` succeeds with, `route` admits,
and what `route` decides on, `validate` accepts. Files are parameters, with the messages if they
cannot be read or parsed.
-/
namespace FaLocal

open ExecutionPipelineService
open WorldEvent (calls)

/-! ## Files -/

/-- What the commands read, and how bytes are parsed. -/
structure FileHost where
  texts : CommandTexts
  read : String → Except String ByteArray
  stdin : Except String ByteArray
  fromSlice : ByteArray → Except String Value

namespace FileHost

variable (host : FileHost)

/-- `read_json_file` -/
def readJsonFile (path : String) : Except String Value := do
  let bytes ← (host.read path).mapError
    (("error: could not read file " ++ host.texts.quoted path ++ ": ") ++ ·)
  (host.fromSlice bytes).mapError
    (("error: could not parse " ++ host.texts.quoted path ++ " as JSON: ") ++ ·)

/-- The host of `execute` over these files. -/
def commandHost (openSqlite : String → Except String (ForensicEventExportAdapter BuiltAdapter))
    (jsonl : String → ForensicEventExportAdapter BuiltAdapter) : CommandHost where
  texts := host.texts
  readJsonFile := host.readJsonFile
  openSqlite := openSqlite
  jsonl := jsonl

variable {host} in
theorem readJsonFile_eq_ok {path : String} {value : Value} : host.readJsonFile path = .ok value ↔
    ∃ bytes, host.read path = .ok bytes ∧ host.fromSlice bytes = .ok value := by
  simp only [readJsonFile, bind_eq_ok, mapError_eq_ok]

end FileHost

/-! ## `validate` -/

/-- `{:?}` -/
def EnvironmentMode.debug : EnvironmentMode → String
  | .dev => "Dev"
  | .test => "Test"
  | .staging => "Staging"
  | .prod => "Prod"
  | .airgapped => "Airgapped"
  | .testHarness => "TestHarness"

namespace IntakeService

def validateRequestBytes (loaders : ContractLoaders) (host : FileHost) (bytes : ByteArray) :
    FaLocalResult IntakeValidationResult :=
  match host.fromSlice bytes with
  | .ok value => validateRequest loaders value
  | .error text => .error (.returned (.serialization text))

/-- What is printed of a valid request. -/
def output (result : IntakeValidationResult) : Value := .object [
  ("status", .string "valid"),
  ("request_id", result.request.requestId.toValue),
  ("correlation_id", result.request.correlationId.toValue),
  ("environment_mode", .string result.request.environmentMode.debug)]

/-- `fa-local-run validate` -/
def validate (loaders : ContractLoaders) (host : FileHost) (args : List String) :
    CommandEnd × Nat :=
  let bytes := match Flags.firstValue args "--request" with
    | some path => (host.read path).mapError
      (("error: could not read request file " ++ host.texts.quoted path ++ ": ") ++ ·)
    | none => host.stdin.mapError ("error: could not read from stdin: " ++ ·)
  match bytes with
  | .error message => (.refused message, 1)
  | .ok bytes =>
    match validateRequestBytes loaders host bytes with
    | .ok result => (.printed (output result), 0)
    | .error error => (.aborted error, error.exitCode)

end IntakeService

/-! ## `route` -/

namespace DecisionService

/-- The four files of a route. -/
structure RouteFiles where
  request : Value
  requesterTrust : Value
  policy : Value
  capabilityRegistry : Value

def routeFiles (readJsonFile : String → Except String Value) (args : List String) :
    Except String RouteFiles :=
  match Flags.firstValue args "--request", Flags.firstValue args "--requester-trust",
      Flags.firstValue args "--policy", Flags.firstValue args "--capability-registry" with
  | some requestPath, some requesterTrustPath, some policyPath, some capabilityRegistryPath => do
    let request ← readJsonFile requestPath
    let requesterTrust ← readJsonFile requesterTrustPath
    let policy ← readJsonFile policyPath
    let capabilityRegistry ← readJsonFile capabilityRegistryPath
    return { request, requesterTrust, policy, capabilityRegistry }
  | _, _, _, _ => .error
      "error: route requires --request, --requester-trust, --policy, and --capability-registry"

/-- `fa-local-run route` -/
def route (times : DateTimes) (loaders : ContractLoaders) (clock : GuardClock)
    (readJsonFile : String → Except String Value) (context : RouteResolutionContext)
    (args : List String) : CommandEnd × Nat :=
  match routeFiles readJsonFile args with
  | .error message => (.refused message, 1)
  | .ok files =>
    match resolveRouteDecision loaders clock files.request files.requesterTrust files.policy
      files.capabilityRegistry context with
    | .ok d => (.printed (d.toValue times), if d.executionAllowed then 0 else 1)
    | .error error => (.aborted error, error.exitCode)

end DecisionService

/-! ## What the commands agree on -/

/-- A flag is looked for behind the words that name the program and its command. -/
theorem firstValue_behind {program command flag : String} (hprogram : program ≠ flag)
    (hcommand : command ≠ flag) (rest : List String) :
    Flags.firstValue (program :: command :: rest) flag = Flags.firstValue rest flag := by
  rw [Flags.firstValue_eq_head?, Flags.firstValue_eq_head?, Flags.values_cons_of_ne hprogram,
    Flags.values_cons_of_ne hcommand]

/-- The flags that name the files of a route. -/
def routeFlags : List String :=
  ["--request", "--requester-trust", "--policy", "--capability-registry"]

theorem routeFlags_behind {program command flag : String} (hprogram : program ∉ routeFlags)
    (hcommand : command ∉ routeFlags) (rest : List String) (hflag : flag ∈ routeFlags) :
    Flags.firstValue (program :: command :: rest) flag = Flags.firstValue rest flag := by
  apply firstValue_behind
  · rintro rfl
    exact hprogram hflag
  · rintro rfl
    exact hcommand hflag

theorem routeFiles_behind {program command : String} (hprogram : program ∉ routeFlags)
    (hcommand : command ∉ routeFlags) (readJsonFile : String → Except String Value)
    (rest : List String) :
    DecisionService.routeFiles readJsonFile (program :: command :: rest) =
      DecisionService.routeFiles readJsonFile rest := by
  have hbehind : ∀ flag ∈ routeFlags,
      Flags.firstValue (program :: command :: rest) flag = Flags.firstValue rest flag :=
    fun flag => routeFlags_behind hprogram hcommand rest
  rw [DecisionService.routeFiles, DecisionService.routeFiles, hbehind "--request" (by decide),
    hbehind "--requester-trust" (by decide), hbehind "--policy" (by decide),
    hbehind "--capability-registry" (by decide)]

section
variable {host : CommandHost} {call : ExecuteCall} {args : List String}

/-- A call of `execute` works on the files of a route. -/
theorem executeCall_routeFiles (h : host.executeCall (.ofArgs args) = .ok call) :
    DecisionService.routeFiles host.readJsonFile args = .ok ⟨call.inputs.request,
      call.inputs.requesterTrust, call.inputs.policy, call.inputs.capabilityRegistry⟩ := by
  rw [CommandHost.executeCall] at h
  split at h
  · rename_i requestPath requesterTrustPath policyPath capabilityRegistryPath hr ht hp hc
    simp only [bind_eq_ok] at h
    obtain ⟨request, hrequest, trust, htrust, policy, hpolicy, registry, hregistry, plan, -,
      selection, -, adapters, -, sink, -, hcall⟩ := h
    cases hcall
    rw [DecisionService.routeFiles, show Flags.firstValue args "--request" = _ from hr,
      show Flags.firstValue args "--requester-trust" = _ from ht,
      show Flags.firstValue args "--policy" = _ from hp,
      show Flags.firstValue args "--capability-registry" = _ from hc]
    simp only [bind_eq_ok]
    exact ⟨request, hrequest, trust, htrust, policy, hpolicy, registry, hregistry, rfl⟩
  · cases h

end

/-- A decision that admits is printed with 0. -/
theorem route_of_decided {times : DateTimes} {loaders : ContractLoaders} {clock : GuardClock}
    {readJsonFile : String → Except String Value} {context : RouteResolutionContext}
    {args : List String} {files : DecisionService.RouteFiles} {d : RouteDecision}
    (hfiles : DecisionService.routeFiles readJsonFile args = .ok files)
    (hd : DecisionService.resolveRouteDecision loaders clock files.request files.requesterTrust
      files.policy files.capabilityRegistry context = .ok d)
    (hadmitted : d.resolvedApprovalPosture.admitted = true) :
    (DecisionService.route times loaders clock readJsonFile context args).2 = 0 := by
  obtain ⟨request, _, -, -, hres⟩ := DecisionService.resolveRouteDecision_eq_ok hd
  have hallowed : d.executionAllowed = true := by
    rw [(ApprovalPostureResolver.resolve_spec hres).2.1.execution]
    cases hposture : d.resolvedApprovalPosture <;> rw [hposture] at hadmitted <;>
      first | rfl | cases hadmitted
  rw [DecisionService.route, hfiles]
  dsimp only
  rw [hd]
  exact if_pos hallowed

/-- What is decided on was a valid request. -/
theorem validate_of_routed {times : DateTimes} {loaders : ContractLoaders} {clock : GuardClock}
    {host : FileHost} {context : RouteResolutionContext} {args args' : List String}
    {output : Value} (hargs : Flags.firstValue args' "--request" = Flags.firstValue args "--request")
    (h : (DecisionService.route times loaders clock host.readJsonFile context args).1 =
      .printed output) : (IntakeService.validate loaders host args').2 = 0 := by
  rw [DecisionService.route] at h
  cases hfiles : DecisionService.routeFiles host.readJsonFile args with
  | error message =>
    rw [hfiles] at h
    cases h
  | ok files =>
    rw [hfiles] at h
    dsimp only at h
    cases hd : DecisionService.resolveRouteDecision loaders clock files.request
        files.requesterTrust files.policy files.capabilityRegistry context with
    | error error =>
      rw [hd] at h
      cases h
    | ok d =>
      obtain ⟨request, _, -, hrequest, -⟩ := DecisionService.resolveRouteDecision_eq_ok hd
      rw [DecisionService.routeFiles] at hfiles
      split at hfiles
      · rename_i requestPath _ _ _ hpath _ _ _
        simp only [bind_eq_ok] at hfiles
        obtain ⟨value, hvalue, _, -, _, -, _, -, hfiles⟩ := hfiles
        cases hfiles
        obtain ⟨bytes, hread, hparse⟩ := FileHost.readJsonFile_eq_ok.mp hvalue
        have hvalid : IntakeService.validateRequestBytes loaders host bytes = .ok ⟨request⟩ := by
          rw [IntakeService.validateRequestBytes, hparse]
          dsimp only
          rw [IntakeService.validateRequest, loaded_eq_ok.mpr hrequest]
          rfl
        rw [IntakeService.validate, hargs, hpath]
        dsimp only
        rw [hread]
        simp only [Except.mapError]
        rw [hvalid]
      · cases hfiles

/-- Over the same files and at the same time: `execute` calls adapters, or exits with 0, only where
`route` exits with 0, and `route` prints a decision only where `validate` exits with 0. -/
theorem commands_agree (times : DateTimes) (env : RunEnvironment) (host : FileHost)
    (openSqlite : String → Except String (ForensicEventExportAdapter BuiltAdapter))
    (jsonl : String → ForensicEventExportAdapter BuiltAdapter) (context : RouteResolutionContext)
    {program : String} (hprogram : program ∉ routeFlags) (rest : List String)
    (log : List (WorldEvent BuiltAdapter)) :
    ∃ events,
      (execute times env (host.commandHost openSqlite jsonl) context (program :: "execute" :: rest)
        log).2 = log ++ events ∧
      (calls events ≠ [] ∨ (execute times env (host.commandHost openSqlite jsonl) context
          (program :: "execute" :: rest) log).1.2 = 0 →
        (DecisionService.route times env.loaders env.clock host.readJsonFile context
          (program :: "route" :: rest)).2 = 0) ∧
      ∀ output, (DecisionService.route times env.loaders env.clock host.readJsonFile context
          (program :: "route" :: rest)).1 = .printed output →
        (IntakeService.validate env.loaders host (program :: "validate" :: rest)).2 = 0 := by
  have hvalidate : ∀ output, (DecisionService.route times env.loaders env.clock host.readJsonFile
      context (program :: "route" :: rest)).1 = .printed output →
      (IntakeService.validate env.loaders host (program :: "validate" :: rest)).2 = 0 := by
    intro output
    apply validate_of_routed
    rw [routeFlags_behind hprogram (by decide) rest (by decide),
      routeFlags_behind hprogram (by decide) rest (by decide)]
  rw [execute, executeFlags]
  cases hcall : (host.commandHost openSqlite jsonl).executeCall
      (.ofArgs (program :: "execute" :: rest)) with
  | error message =>
    refine ⟨[], (List.append_nil log).symm, ?_, hvalidate⟩
    rintro (hcalls | hzero)
    · exact absurd rfl hcalls
    · cases hzero
  | ok call =>
    obtain ⟨events, hreached, he⟩ := run_calls env call.inputs call.adapterSelection
      call.additionalAdapters call.dispatchMode call.forensicExportAdapter context log
    have hfiles := executeCall_routeFiles hcall
    rw [routeFiles_behind hprogram (by decide)] at hfiles
    rw [← routeFiles_behind hprogram (by decide : "route" ∉ routeFlags)] at hfiles
    have hrouted : calls events ≠ [] → (DecisionService.route times env.loaders env.clock
        host.readJsonFile context (program :: "route" :: rest)).2 = 0 := by
      intro hcalls
      obtain ⟨delivery, hdelivery⟩ := List.exists_mem_of_ne_nil _ hcalls
      obtain ⟨d, prepared, hr, -⟩ := hreached delivery hdelivery
      exact route_of_decided hfiles hr.decided hr.admitted
    dsimp only
    cases hrun : run env call.inputs call.adapterSelection call.additionalAdapters
      call.dispatchMode call.forensicExportAdapter context log with
    | mk result out =>
      rw [hrun] at he
      obtain rfl : out = log ++ events := he
      refine ⟨events, by cases result <;> rfl, ?_, hvalidate⟩
      rintro (hcalls | hzero)
      · exact hrouted hcalls
      · cases result with
        | error error => exact absurd hzero error.exitCode_ne_zero
        | ok outcome =>
          obtain ⟨delivery, hdelivery, -⟩ := (exitCode_eq_zero_iff hrun).mp hzero
          exact hrouted (List.ne_nil_of_mem hdelivery)

namespace Fixture

/-- The fixture loaders look at no value but that of the requester. -/
def fileHost : FileHost where
  texts := commandHost.texts
  read := fun _ => .ok ByteArray.empty
  stdin := .ok ByteArray.empty
  fromSlice := fun _ => .ok plannedInputs.requesterTrust

/-- The words behind the command. -/
def executeRest : List String := ["--request", "request.json", "--requester-trust", "trust.json",
  "--policy", "policy.json", "--capability-registry", "registry.json", "--plan", "plan.json",
  "--per-step-dispatch", "--local-file-write-root", "/srv/delivery"]

end Fixture

open Fixture (fileHost executeRest timeTexts twoStepRun capabilities context) in
theorem commands_agree_two_steps :
    (DecisionService.route timeTexts.toDateTimes (twoStepRun capabilities).loaders
      (twoStepRun capabilities).clock fileHost.readJsonFile context
      ("fa-local-run" :: "route" :: executeRest)).2 = 0 := by
  have hzero : (execute timeTexts.toDateTimes (twoStepRun capabilities)
      (fileHost.commandHost Fixture.commandHost.openSqlite Fixture.commandHost.jsonl) context
      ("fa-local-run" :: "execute" :: executeRest) []).1.2 = 0 := by
    decide +kernel
  have hprogram : "fa-local-run" ∉ routeFlags := by decide
  obtain ⟨_, -, hroute, -⟩ := commands_agree timeTexts.toDateTimes (twoStepRun capabilities)
    fileHost Fixture.commandHost.openSqlite Fixture.commandHost.jsonl context hprogram executeRest
    []
  exact hroute (.inr hzero)

end FaLocal
