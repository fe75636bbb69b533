import FaLocal.ExecutionGate
import FaLocal.Library.Versions
import FaLocal.RegistryLookup
import FaLocal.SqliteForensicStore

/-!
# The served registry

`ServeService`: one registry behind a read-write lock, loaded at the start and replaced
by reloads. What the disk, `serde_json`, `jsonschema` and `serde` answer are parameters.
Lookups and reloads run on any number of threads, a lookup record by record.
-/
namespace FaLocal

/-! ## Loading the file -/

/-- What `fs::read_to_string` answers during one load. -/
structure Disk where
  registryFile : Except String String
  schemaFile : Except String String

/-- `serde_json::from_str`, the validators of `jsonschema`, and `serde_json::from_value`. -/
structure JsonTools where
  fromStr : String → Except String Value
  build : Value → Except String (Value → List String)
  fromValue : Value → Except String CapabilityRegistry

/-- `SchemaName::file_name` of the registry. -/
def capabilityRegistrySchema : String := "capability-registry.schema.json"

def loadJsonValue (tools : JsonTools) (file : Except String String) :
    Except FaLocalError Value := do
  let raw ← file.mapError .io
  (tools.fromStr raw).mapError .serialization

def validateContractValue (tools : JsonTools) (schemaName : String)
    (schemaFile : Except String String) (value : Value) : Except FaLocalError Unit := do
  let schema ← loadJsonValue tools schemaFile
  let validator ← (tools.build schema).mapError (.schemaCompile schemaName)
  let errors := validator value
  if errors.isEmpty then .ok () else .error (.schemaValidation schemaName errors)

def deserializeContractValue (tools : JsonTools) (schemaName : String)
    (schemaFile : Except String String) (value : Value) :
    Except FaLocalError CapabilityRegistry := do
  validateContractValue tools schemaName schemaFile value
  (tools.fromValue value).mapError .serialization

def loadContractFromPath (tools : JsonTools) (schemaName : String) (disk : Disk) :
    Except FaLocalError CapabilityRegistry := do
  let value ← loadJsonValue tools disk.registryFile
  deserializeContractValue tools schemaName disk.schemaFile value

def loadRegistryFromFile (tools : JsonTools) (disk : Disk) :
    Except FaLocalError CapabilityRegistry :=
  loadContractFromPath tools capabilityRegistrySchema disk

/-! ## Serialised records -/

def RequesterClass.serdeName : RequesterClass → String
  | .trustedAppSurface => "trusted_app_surface"
  | .trustedInternalService => "trusted_internal_service"
  | .reviewSurface => "review_surface"
  | .developmentTestSurface => "development_test_surface"
  | .untrustedUnknown => "untrusted_unknown"

def CapabilityType.serdeName : CapabilityType → String
  | .localFileRead => "local_file_read"
  | .localFileWrite => "local_file_write"
  | .localDbMutation => "local_db_mutation"
  | .localProcessSpawn => "local_process_spawn"
  | .governedOther => "governed_other"

def EnabledState.serdeName : EnabledState → String
  | .enabled => "enabled"
  | .disabled => "disabled"

def CapabilityProvenanceKind.serdeName : CapabilityProvenanceKind → String
  | .registryFile => "registry_file"

def RevocationState.serdeName : RevocationState → String
  | .active => "active"
  | .disabled => "disabled"
  | .revoked => "revoked"

def CapabilityProvenance.toValue (times : DateTimes) (provenance : CapabilityProvenance) :
    Value := .object [
  ("issued_at", .string (times.text provenance.issuedAt)),
  ("source_kind", .string provenance.sourceKind.serdeName)]

/-- `serde_json::to_value`, whose maps keep their keys in order. -/
def CapabilityRecord.toValue (times : DateTimes) (record : CapabilityRecord) : Value := .object [
  ("allowed_requester_classes",
    .array (record.allowedRequesterClasses.map fun c => .string c.serdeName)),
  ("approval_posture", record.approvalPosture.toValue),
  ("capability_id", record.capabilityId.toValue),
  ("capability_type", .string record.capabilityType.serdeName),
  ("enabled_state", .string record.enabledState.serdeName),
  ("max_cpu_budget", optionValue (fun n => .number (toString n)) record.maxCpuBudget),
  ("max_duration_budget_ms", .number (toString record.maxDurationBudgetMs)),
  ("max_mem_budget_mb", optionValue (fun n => .number (toString n)) record.maxMemBudgetMb),
  ("owner_service", .string record.ownerService),
  ("provenance", record.provenance.toValue times),
  ("retry_budget", .number (toString record.retryBudget)),
  ("review_class", .string record.reviewClass.serdeName),
  ("revocation_state", .string record.revocationState.serdeName),
  ("side_effect_class", .string record.sideEffectClass.serdeName),
  ("timeout_budget_ms", .number (toString record.timeoutBudgetMs)),
  ("version_range", optionValue .string record.versionRange)]

def CapabilityRegistry.toValue (times : DateTimes) (registry : CapabilityRegistry) : Value :=
  .object [
    ("capabilities", .array (registry.capabilities.map (CapabilityRecord.toValue times))),
    ("registry_version", .string registry.registryVersion)]

/-! ## The service -/

inductive ServeLookupResult where
  | found (record : CapabilityRecord)
  | notFound
  | registryUnavailable
  deriving DecidableEq

structure ServeService where
  registry : Option CapabilityRegistry

/-- What a lookup in one registry says. -/
def CapabilityRegistry.Answers (registry : CapabilityRegistry) (capabilityId : CapabilityId) :
    ServeLookupResult → Prop
  | .found record => registry.FirstRecord capabilityId record
  | .notFound => ∀ record ∈ registry.capabilities, record.capabilityId ≠ capabilityId
  | .registryUnavailable => False

namespace ServeService

def load (tools : JsonTools) (disk : Disk) : Except FaLocalError ServeService := do
  let registry ← loadRegistryFromFile tools disk
  return { registry := some registry }

def lookup (service : ServeService) (capabilityId : CapabilityId) : ServeLookupResult :=
  match service.registry with
  | some registry =>
    match registry.capabilityFor capabilityId with
    | some record => .found record
    | none => .notFound
  | none => .registryUnavailable

def reload (tools : JsonTools) (disk : Disk) (service : ServeService) :
    Except FaLocalError Unit × ServeService :=
  match loadRegistryFromFile tools disk with
  | .error e => (.error e, service)
  | .ok fresh => (.ok (), { service with registry := some fresh })

/-- Where a lookup is: `find` has passed so many records. -/
structure Place where
  capabilityId : CapabilityId
  passed : Nat

/-- One step of `lookup` under the read guard: the next record is looked at. -/
def look (registry : Option CapabilityRegistry) (place : Place) : Place ⊕ ServeLookupResult :=
  match registry with
  | some registry =>
    match registry.capabilities[place.passed]? with
    | some entry =>
      if entry.capabilityId == place.capabilityId then .inr (.found entry)
      else .inl { place with passed := place.passed + 1 }
    | none => .inr .notFound
  | none => .inr .registryUnavailable

/-- The lock of the registry: lookups hold the read guard, and a reload takes the write
guard after it has loaded the file. -/
def cell (tools : JsonTools) :
    Versions.Cell (Option CapabilityRegistry) CapabilityId Place ServeLookupResult Disk
      FaLocalError where
  start capabilityId := ⟨capabilityId, 0⟩
  look := look
  load disk := (loadRegistryFromFile tools disk).map some

/-! ## Lookups record by record -/

/-- The answer of a lookup that has passed some records. -/
def answerFrom (registry : Option CapabilityRegistry) (place : Place) : ServeLookupResult :=
  lookup ⟨registry.map fun registry =>
    { registry with capabilities := registry.capabilities.drop place.passed }⟩ place.capabilityId

variable {tools : JsonTools} {registry : Option CapabilityRegistry} {place place' : Place}
  {answer : ServeLookupResult}

theorem answerFrom_start (registry : Option CapabilityRegistry) (capabilityId : CapabilityId) :
    answerFrom registry ((cell tools).start capabilityId) = lookup ⟨registry⟩ capabilityId := by
  cases registry with
  | none => rfl
  | some registry => simp [answerFrom, cell]

/-- A look passes a record that is not the one, or it comes to the answer. -/
theorem look_answerFrom (registry : Option CapabilityRegistry) (place : Place) :
    (look registry place).elim (answerFrom registry) id = answerFrom registry place := by
  cases registry with
  | none => rfl
  | some registry =>
    cases hentry : registry.capabilities[place.passed]? with
    | none =>
      have hdrop : registry.capabilities.drop place.passed = [] := by
        simpa using List.getElem?_eq_none_iff.mp hentry
      simp [look, hentry, answerFrom, lookup, hdrop, CapabilityRegistry.capabilityFor]
    | some entry =>
      obtain ⟨hlt, heq⟩ := List.getElem?_eq_some_iff.mp hentry
      have hdrop : registry.capabilities.drop place.passed =
          entry :: registry.capabilities.drop (place.passed + 1) := by
        rw [List.drop_eq_getElem_cons hlt, heq]
      by_cases hid : entry.capabilityId = place.capabilityId
      · simp [look, hentry, hid, answerFrom, lookup, hdrop, CapabilityRegistry.capabilityFor]
      · simp [look, hentry, hid, answerFrom, lookup, hdrop, CapabilityRegistry.capabilityFor]

theorem looks_answerFrom (h : (cell tools).Looks registry place place') :
    answerFrom registry place' = answerFrom registry place := by
  induction h with
  | refl => rfl
  | @tail mid last _ hlook ih =>
    have hstep := look_answerFrom registry mid
    rw [show look registry mid = .inl last from hlook] at hstep
    exact hstep.trans ih

theorem answers_eq (h : (cell tools).Answers registry place answer) :
    answer = answerFrom registry place := by
  obtain ⟨last, hlooks, hlast⟩ := h
  have hstep := look_answerFrom registry last
  rw [show look registry last = .inr answer from hlast] at hstep
  exact hstep.trans (looks_answerFrom hlooks)

/-- The records that a lookup may still look at. -/
def left (registry : Option CapabilityRegistry) (place : Place) : Nat :=
  (registry.elim 0 fun registry => registry.capabilities.length) - place.passed

theorem look_left (h : look registry place = .inl place') :
    left registry place' < left registry place := by
  cases registry with
  | none => simp [look] at h
  | some registry =>
    cases hentry : registry.capabilities[place.passed]? with
    | none => simp [look, hentry] at h
    | some entry =>
      obtain ⟨hlt, -⟩ := List.getElem?_eq_some_iff.mp hentry
      by_cases hid : entry.capabilityId = place.capabilityId
      · simp [look, hentry, hid] at h
      · have hplace : { place with passed := place.passed + 1 } = place' := by
          simpa [look, hentry, hid] using h
        subst hplace
        simp only [left, Option.elim_some]
        omega

/-- A lookup comes to the end of its registry. -/
theorem answers_total (tools : JsonTools) (registry : Option CapabilityRegistry) (place : Place) :
    (cell tools).Answers registry place (answerFrom registry place) := by
  induction hleft : left registry place using Nat.strong_induction_on generalizing place with
  | h n ih =>
    have hstep := look_answerFrom registry place
    cases hlook : look registry place with
    | inr answer =>
      rw [hlook] at hstep
      exact ⟨place, .refl, hlook.trans (congrArg Sum.inr hstep)⟩
    | inl place' =>
      rw [hlook] at hstep
      obtain ⟨last, hlooks, hlast⟩ := ih _ (hleft ▸ look_left hlook) place' rfl
      rw [← hstep]
      exact ⟨last, .head hlook hlooks, hlast⟩

theorem answers_iff {capabilityId : CapabilityId} :
    (cell tools).Answers registry ((cell tools).start capabilityId) answer ↔
      answer = lookup ⟨registry⟩ capabilityId := by
  rw [show lookup ⟨registry⟩ capabilityId = answerFrom registry ((cell tools).start capabilityId)
    from (answerFrom_start registry capabilityId).symm]
  constructor
  · exact answers_eq
  · rintro rfl
    exact answers_total tools registry _

theorem lookup_answers (registry : CapabilityRegistry) (capabilityId : CapabilityId) :
    registry.Answers capabilityId (lookup ⟨some registry⟩ capabilityId) := by
  simp only [lookup]
  cases hfind : registry.capabilityFor capabilityId with
  | some record => exact CapabilityRegistry.capabilityFor_eq_some.mp hfind
  | none => exact CapabilityRegistry.capabilityFor_eq_none.mp hfind

theorem lookup_eq_found {service : ServeService} {capabilityId : CapabilityId}
    {record : CapabilityRecord} :
    service.lookup capabilityId = .found record ↔
      ∃ registry, service.registry = some registry ∧ registry.FirstRecord capabilityId record := by
  constructor
  · intro h
    obtain ⟨_ | registry⟩ := service
    · cases h
    · have hanswer := lookup_answers registry capabilityId
      rw [h] at hanswer
      exact ⟨registry, rfl, hanswer⟩
  · rintro ⟨registry, hregistry, hfirst⟩
    simp only [lookup, hregistry, CapabilityRegistry.capabilityFor_eq_some.mpr hfirst]

/-! ## Any order of calls -/

/-- `ι` are the names of the calls. -/
abbrev Event (ι : Type) : Type :=
  Versions.Event (Option CapabilityRegistry) CapabilityId ServeLookupResult Disk FaLocalError ι

abbrev State (ι : Type) : Type :=
  Versions.State (Option CapabilityRegistry) CapabilityId Place ι

/-- The answer that an event gives. -/
def answerOf {ι : Type} : ServeService.Event ι → Option ServeLookupResult
  | .answered _ _ answer => some answer
  | _ => none

/-- The registry is what the file held at the start or when one of the reloads in a
history read it. -/
def Held {ι : Type} (tools : JsonTools) (disk : Disk) (history : List (Event ι))
    (registry : CapabilityRegistry) : Prop :=
  ∃ source, (source = disk ∨ ∃ call, .loaded call source ∈ history) ∧
    loadRegistryFromFile tools source = .ok registry

section Runs

open Versions

variable {ι : Type} [DecidableEq ι] {disk : Disk} {service : ServeService}
  {history : List (ServeService.Event ι)} {state : ServeService.State ι}

theorem load_eq_ok (h : load tools disk = .ok service) :
    ∃ registry, loadRegistryFromFile tools disk = .ok registry ∧ service = ⟨some registry⟩ := by
  cases hfile : loadRegistryFromFile tools disk with
  | error e => simp [load, hfile, bind, Except.bind] at h
  | ok registry =>
    refine ⟨registry, rfl, ?_⟩
    simpa [load, hfile, bind, Except.bind, pure, Except.pure] using h.symm

/-- The registry is there in every version, and one state of the file held all of it. -/
theorem run_held (hload : load tools disk = .ok service)
    (hrun : (cell tools).Run (.idle service.registry) history state) :
    ∃ registry, version service.registry history = some registry ∧
      Held tools disk history registry := by
  obtain ⟨first, hfirst, rfl⟩ := load_eq_ok hload
  rcases Cell.run_version hrun with heq | ⟨call, source, hmem, hsource⟩
  · exact ⟨first, heq, disk, .inl rfl, hfirst⟩
  · cases hfile : loadRegistryFromFile tools source with
    | error e => simp [cell, hfile, Except.map] at hsource
    | ok registry =>
      have hversion : some registry = version (some first) history := by
        simpa [cell, hfile, Except.map] using hsource
      exact ⟨registry, hversion.symm, source, .inr ⟨call, hmem⟩, hfile⟩

/-- A lookup answers from the version in front of it. -/
theorem run_answer {before after : List (ServeService.Event ι)} {call : ι}
    {capabilityId : CapabilityId} (hload : load tools disk = .ok service)
    (hrun : (cell tools).Run (.idle service.registry)
      (before ++ .answered call capabilityId answer :: after) state) :
    ∃ registry, version service.registry before = some registry ∧
      Held tools disk before registry ∧ registry.Answers capabilityId answer := by
  obtain ⟨mid, hbefore, -⟩ := Cell.run_append_iff.mp hrun
  obtain ⟨registry, hversion, hheld⟩ := run_held hload hbefore
  have hanswer := Cell.run_answered (Cell.sound_idle _) hrun
  refine ⟨registry, hversion, hheld, ?_⟩
  rw [answers_iff.mp hanswer]
  change registry.Answers capabilityId (lookup ⟨version service.registry before⟩ capabilityId)
  rw [hversion]
  exact lookup_answers registry capabilityId

/-- A lookup that nobody interrupts. -/
theorem lookup_run (tools : JsonTools) (service : ServeService) (call : ι)
    (capabilityId : CapabilityId) :
    ∃ looks, (cell tools).Run (.idle service.registry)
      (.asked call capabilityId :: (List.replicate looks (.looked call) ++
        [.answered call capabilityId (service.lookup capabilityId)])) (.idle service.registry) := by
  have hcall : ((State.idle service.registry : ServeService.State ι).set call
      (some (.reading capabilityId ((cell tools).start capabilityId)))).calls call =
      some (.reading capabilityId ((cell tools).start capabilityId)) := Function.update_self ..
  have hanswer : (cell tools).Answers service.registry ((cell tools).start capabilityId)
    (service.lookup capabilityId) := answers_iff.mpr rfl
  obtain ⟨looks, hrun⟩ := Cell.run_completes hcall hanswer
  rw [Cell.set_set, Cell.set_idle] at hrun
  exact ⟨looks, .cons (.asked capabilityId rfl) hrun⟩

/-- A reload that nobody interrupts. -/
theorem reload_run (tools : JsonTools) (disk : Disk) (service : ServeService) (call : ι) :
    ∃ history : List (ServeService.Event ι),
      (cell tools).Run (.idle service.registry) history
        (.idle (reload tools disk service).2.registry) ∧
      (∀ other source, .loaded other source ∈ history → source = disk) ∧
      history.filterMap answerOf = [] := by
  cases hfile : loadRegistryFromFile tools disk with
  | error e =>
    have hload : (cell tools).load disk = .error e := by simp [cell, hfile, Except.map]
    refine ⟨[.refused call disk e], ?_, by simp, rfl⟩
    simp only [reload, hfile]
    exact .cons (.refused rfl hload) (.nil _)
  | ok fresh =>
    have hload : (cell tools).load disk = .ok (some fresh) := by simp [cell, hfile, Except.map]
    refine ⟨[.loaded call disk, .written call (some fresh)], ?_, by simp, rfl⟩
    simp only [reload, hfile]
    exact Cell.run_refresh call hload

/-! ## One call behind the other -/

/-- A call that nobody interrupts, a reload with what the disk answers by then. -/
inductive ServeCall where
  | lookup (capabilityId : CapabilityId)
  | reload (disk : Disk)

/-- The service behind some calls. -/
def after (tools : JsonTools) (service : ServeService) : List ServeCall → ServeService
  | [] => service
  | .lookup _ :: calls => after tools service calls
  | .reload disk :: calls => after tools (reload tools disk service).2 calls

/-- What the lookups among some calls answer. -/
def answers (tools : JsonTools) (service : ServeService) : List ServeCall → List ServeLookupResult
  | [] => []
  | .lookup capabilityId :: calls => service.lookup capabilityId :: answers tools service calls
  | .reload disk :: calls => answers tools (reload tools disk service).2 calls

/-- The registries that the reloads among some calls could load. -/
def reloaded (tools : JsonTools) : List ServeCall → List CapabilityRegistry
  | [] => []
  | .lookup _ :: calls => reloaded tools calls
  | .reload disk :: calls =>
    (loadRegistryFromFile tools disk).toOption.toList ++ reloaded tools calls

/-- The registry behind some calls is the last one that could be loaded. -/
theorem after_registry (tools : JsonTools) (service : ServeService) (calls : List ServeCall) :
    (after tools service calls).registry =
      (reloaded tools calls).getLast?.or service.registry := by
  induction calls generalizing service with
  | nil => rfl
  | cons call calls ih =>
    cases call with
    | lookup capabilityId => exact ih service
    | reload disk =>
      rw [after, ih, reload, reloaded]
      cases hfile : loadRegistryFromFile tools disk with
      | error e => rfl
      | ok fresh =>
        change (reloaded tools calls).getLast?.or (some fresh) =
          (fresh :: reloaded tools calls).getLast?.or service.registry
        rw [List.getLast?_cons]
        cases (reloaded tools calls).getLast? <;> rfl

/-- Calls one behind the other are one way to run them, with the same answers. -/
theorem calls_run (tools : JsonTools) (service : ServeService) (call : ι)
    (calls : List ServeCall) :
    ∃ history : List (ServeService.Event ι),
      (cell tools).Run (.idle service.registry) history
        (.idle (after tools service calls).registry) ∧
      history.filterMap answerOf = answers tools service calls := by
  induction calls generalizing service with
  | nil => exact ⟨[], .nil _, rfl⟩
  | cons next calls ih =>
    cases next with
    | lookup capabilityId =>
      obtain ⟨looks, hlookup⟩ := lookup_run tools service call capabilityId
      obtain ⟨history, hrun, hanswers⟩ := ih service
      refine ⟨_, Cell.run_append_iff.mpr ⟨_, hlookup, hrun⟩, ?_⟩
      have hlooks : (List.replicate looks (Event.looked call : ServeService.Event ι)).filterMap
          answerOf = [] := by
        refine List.filterMap_eq_nil_iff.mpr fun event hevent => ?_
        rw [List.eq_of_mem_replicate hevent]
        rfl
      rw [List.cons_append, List.filterMap_cons_none rfl, List.append_assoc, List.filterMap_append,
        hlooks, List.nil_append, List.filterMap_append, hanswers]
      rfl
    | reload disk =>
      obtain ⟨first, hreload, -, hquiet⟩ := reload_run tools disk service call
      obtain ⟨history, hrun, hanswers⟩ := ih (reload tools disk service).2
      refine ⟨_, Cell.run_append_iff.mpr ⟨_, hreload, hrun⟩, ?_⟩
      rw [List.filterMap_append, hquiet, List.nil_append, hanswers]
      rfl

/-- A lookup behind some calls answers from the registry that was loaded last. -/
theorem lookup_after (hload : load tools disk = .ok service) (calls : List ServeCall)
    (capabilityId : CapabilityId) :
    ∃ first registry, loadRegistryFromFile tools disk = .ok first ∧
      (first :: reloaded tools calls).getLast? = some registry ∧
      registry.Answers capabilityId ((after tools service calls).lookup capabilityId) := by
  obtain ⟨first, hfirst, rfl⟩ := load_eq_ok hload
  have hregistry := after_registry tools ⟨some first⟩ calls
  refine ⟨first, (reloaded tools calls).getLast?.getD first, hfirst, List.getLast?_cons, ?_⟩
  have hsome : (after tools ⟨some first⟩ calls).registry =
      some ((reloaded tools calls).getLast?.getD first) := by
    rw [hregistry]
    cases (reloaded tools calls).getLast? <;> rfl
  have hanswers := lookup_answers ((reloaded tools calls).getLast?.getD first) capabilityId
  rw [← hsome] at hanswers
  exact hanswers

/-- Whatever lookups and reloads run in whatever order after a load: every lookup is
answered, from the one registry that was written last before its answer, and nothing is
written between its start and its answer; a refused reload could be left out. Where none
interrupts another, a lookup answers from the registry that was loaded last. -/
theorem run_lookups (tools : JsonTools) (disk : Disk) (service : ServeService)
    (history : List (ServeService.Event ι)) (state : ServeService.State ι)
    (hload : load tools disk = .ok service)
    (hrun : (cell tools).Run (.idle service.registry) history state) :
    (∀ before after call capabilityId answer,
      history = before ++ .answered call capabilityId answer :: after →
      ∃ registry, version service.registry before = some registry ∧
        Held tools disk before registry ∧ registry.Answers capabilityId answer) ∧
    (∀ before during after call capabilityId,
      history = before ++ .asked call capabilityId :: (during ++ after) →
      (∀ answer, .answered call capabilityId answer ∉ during) →
      version service.registry (before ++ .asked call capabilityId :: during) =
        version service.registry before) ∧
    (∀ call capabilityId place, state.calls call = some (.reading capabilityId place) →
      ∃ looks answer, (cell tools).Run state
        (List.replicate looks (.looked call) ++ [.answered call capabilityId answer])
        (state.set call none)) ∧
    (∀ before after call source error, history = before ++ .refused call source error :: after →
      loadRegistryFromFile tools source = .error error ∧
        (cell tools).Run (.idle service.registry) (before ++ after) state) ∧
    ∀ calls capabilityId, ∃ first registry, loadRegistryFromFile tools disk = .ok first ∧
      (first :: reloaded tools calls).getLast? = some registry ∧
      registry.Answers capabilityId ((after tools service calls).lookup capabilityId) := by
  refine ⟨?_, ?_, ?_, ?_, lookup_after hload⟩
  · rintro before after call capabilityId answer rfl
    exact run_answer hload hrun
  · rintro before during after call capabilityId rfl hanswer
    exact Cell.run_guarded hrun hanswer
  · intro call capabilityId place hcall
    obtain ⟨looks, hfinish⟩ := Cell.run_completes hcall (answers_total tools state.value place)
    exact ⟨looks, _, hfinish⟩
  · rintro before after call source error rfl
    refine ⟨?_, Cell.run_without_refused hrun⟩
    obtain ⟨mid, -, hrest⟩ := Cell.run_append_iff.mp hrun
    obtain ⟨_, hstep, -⟩ := Cell.run_cons_iff.mp hrest
    cases hstep with
    | refused _ hrefused =>
      cases hfile : loadRegistryFromFile tools source with
      | error e => simpa [cell, hfile, Except.map] using hrefused
      | ok registry => simp [cell, hfile, Except.map] at hrefused

end Runs

end ServeService

namespace Fixture

/-- The only time of the registry is that of its provenance. -/
def provenanceTimes : DateTimes := ⟨fun _ => "2029-12-30T00:00:00Z", fun _ => true⟩

def registryText : String := String.ofList (registry.toValue provenanceTimes).compact

/-- The registry's file, beside a schema that accepts everything. -/
def disk : Disk := { registryFile := .ok registryText, schemaFile := .ok "\x7b\x7d" }

def missingFile : Disk :=
  { disk with registryFile := .error "No such file or directory (os error 2)" }

def jsonTools : JsonTools where
  fromStr raw := .ok (if raw = registryText then registry.toValue provenanceTimes else .object [])
  build := fun _ => .ok fun _ => []
  fromValue := fun _ => .ok registry

/-- A reload is refused while a lookup is under way; the next one succeeds. -/
def servedHistory : List (ServeService.Event Nat) := [
  .asked 0 (id .capability 4),
  .refused 1 missingFile (.io "No such file or directory (os error 2)"),
  .answered 0 (id .capability 4) (.found record),
  .loaded 2 disk,
  .written 2 (some registry),
  .asked 3 (id .capability 5),
  .looked 3,
  .answered 3 (id .capability 5) .notFound]

open Versions in
theorem servedHistory_run :
    (ServeService.cell jsonTools).Run (.idle (some registry)) servedHistory
      (.idle (some registry)) := by
  have hload : (ServeService.cell jsonTools).load disk = .ok (some registry) := rfl
  have hmissing : (ServeService.cell jsonTools).load missingFile =
    .error (.io "No such file or directory (os error 2)") := rfl
  have hreading : ∀ (call : Nat) (place : ServeService.Place),
      ((State.idle (some registry) : ServeService.State Nat).set call
        (some (.reading place.capabilityId place))).calls call =
      some (.reading place.capabilityId place) := by
    intro call place
    exact Function.update_self ..
  have hrefused : (ServeService.cell jsonTools).Step
      ((State.idle (some registry)).set 0
        (some (.reading (id .capability 4) ⟨id .capability 4, 0⟩)))
      (.refused 1 missingFile (.io "No such file or directory (os error 2)")) _ :=
    .refused rfl hmissing
  have hfound : (ServeService.cell jsonTools).Step _ _ _ :=
    .answered (hreading 0 ⟨id .capability 4, 0⟩) rfl
  have hlooked : (ServeService.cell jsonTools).Step _ _ _ :=
    .looked (hreading 3 ⟨id .capability 5, 0⟩) rfl
  have hnone : (ServeService.cell jsonTools).Step _ _ _ :=
    .answered (hreading 3 ⟨id .capability 5, 1⟩) rfl
  rw [Cell.set_set, Cell.set_idle] at hfound hnone
  rw [Cell.set_set] at hlooked
  have hfirst := Cell.Run.cons (.asked _ rfl) (.cons hrefused (.cons hfound (.nil _)))
  have hlast := Cell.Run.cons (.asked _ rfl) (.cons hlooked (.cons hnone (.nil _)))
  exact Cell.run_append_iff.mpr ⟨_, hfirst,
    Cell.run_append_iff.mpr ⟨_, Cell.run_refresh 2 hload, hlast⟩⟩

end Fixture

namespace ServeService

/-- The last answer of the fixture comes from the registry that the reload has read. -/
theorem run_lookups_fixture : ∃ registry : CapabilityRegistry,
    Versions.version (some Fixture.registry) (Fixture.servedHistory.take 7) = some registry ∧
      Held Fixture.jsonTools Fixture.disk (Fixture.servedHistory.take 7) registry ∧
      registry.Answers (Fixture.id .capability 5) .notFound :=
  (run_lookups Fixture.jsonTools Fixture.disk ⟨some Fixture.registry⟩ Fixture.servedHistory _ rfl
    Fixture.servedHistory_run).1 _ [] 3 _ _ rfl

end ServeService

end FaLocal
