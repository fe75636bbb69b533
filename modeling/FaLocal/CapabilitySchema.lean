import FaLocal.ContractSchema
import FaLocal.HttpServer

/-!
# The schema of the capability registry

What `capability-registry.schema.json` asks of a registry file, how the file is read, and
when a registry that was read can be written so that it is read again. Fields that a file may
leave out are written as `null`, which the schema does not take.
-/
namespace FaLocal

/-! ## Reading a registry -/

def RequesterClass.variants : List RequesterClass :=
  [.trustedAppSurface, .trustedInternalService, .reviewSurface, .developmentTestSurface,
    .untrustedUnknown]

def CapabilityType.variants : List CapabilityType :=
  [.localFileRead, .localFileWrite, .localDbMutation, .localProcessSpawn, .governedOther]

def SideEffectClass.variants : List SideEffectClass :=
  [.none, .localFileWrite, .localDbMutation, .localProcessSpawn,
    .externalNetworkDeniedByDefault, .otherGoverned]

def EnabledState.variants : List EnabledState := [.enabled, .disabled]

def ReviewClass.variants : List ReviewClass := [.none, .operator]

def CapabilityProvenanceKind.variants : List CapabilityProvenanceKind := [.registryFile]

def RevocationState.variants : List RevocationState := [.active, .disabled, .revoked]

namespace Decoder

def u64 : Decoder UInt64 := fun value => (unsigned (2 ^ 64) value).map UInt64.ofNat

def u32 : Decoder UInt32 := fun value => (unsigned (2 ^ 32) value).map UInt32.ofNat

end Decoder

def CapabilityProvenance.fromValue (times : TimeTexts) : Decoder CapabilityProvenance :=
  fun value => do
    let sourceKind ← Decoder.field "source_kind"
      (.variant CapabilityProvenanceKind.serdeName CapabilityProvenanceKind.variants) value
    let issuedAt ← Decoder.field "issued_at" (.timestamp times) value
    return { sourceKind, issuedAt }

def CapabilityRecord.fromValue (times : TimeTexts) : Decoder CapabilityRecord := fun value => do
  let capabilityId ← Decoder.field "capability_id" .uuid value
  let ownerService ← Decoder.field "owner_service" .string value
  let capabilityType ← Decoder.field "capability_type"
    (.variant CapabilityType.serdeName CapabilityType.variants) value
  let sideEffectClass ← Decoder.field "side_effect_class"
    (.variant SideEffectClass.serdeName SideEffectClass.variants) value
  let approvalPosture ← Decoder.field "approval_posture" .approvalPosture value
  let allowedRequesterClasses ← Decoder.field "allowed_requester_classes"
    (.list (.variant RequesterClass.serdeName RequesterClass.variants)) value
  let timeoutBudgetMs ← Decoder.field "timeout_budget_ms" .u64 value
  let retryBudget ← Decoder.field "retry_budget" .u32 value
  let maxDurationBudgetMs ← Decoder.field "max_duration_budget_ms" .u64 value
  let maxCpuBudget ← Decoder.optionalField "max_cpu_budget" .u32 value
  let maxMemBudgetMb ← Decoder.optionalField "max_mem_budget_mb" .u32 value
  let enabledState ← Decoder.field "enabled_state"
    (.variant EnabledState.serdeName EnabledState.variants) value
  let reviewClass ← Decoder.field "review_class"
    (.variant ReviewClass.serdeName ReviewClass.variants) value
  let provenance ← Decoder.field "provenance" (CapabilityProvenance.fromValue times) value
  let revocationState ← Decoder.field "revocation_state"
    (.variant RevocationState.serdeName RevocationState.variants) value
  let versionRange ← Decoder.optionalField "version_range" .string value
  return { capabilityId, ownerService, capabilityType, sideEffectClass, approvalPosture,
           allowedRequesterClasses, timeoutBudgetMs, retryBudget, maxDurationBudgetMs,
           maxCpuBudget, maxMemBudgetMb, enabledState, reviewClass, provenance,
           revocationState, versionRange }

def CapabilityRegistry.fromValue (times : TimeTexts) : Decoder CapabilityRegistry :=
  fun value => do
    let registryVersion ← Decoder.field "registry_version" .string value
    let capabilities ← Decoder.field "capabilities"
      (.list (CapabilityRecord.fromValue times)) value
    return { registryVersion, capabilities }

/-! ## The schema -/

namespace Schema

/-- Some properties are required, some are not, and there are no others. -/
def objectWith (required optional : List (String × Schema)) : Schema
  | .object fields =>
    (required.all fun property => (fields.lookup property.1).any property.2) &&
      (optional.all fun property => (fields.lookup property.1).all property.2) &&
      fields.all fun field => ((required ++ optional).lookup field.1).isSome
  | _ => false

end Schema

namespace CapabilityRegistrySchema

open Schema
open RouteDecisionSchema (uuidText approvalPosture sideEffectClass)

def requesterClass : Schema := enum ["trusted_app_surface", "trusted_internal_service",
  "review_surface", "development_test_surface", "untrusted_unknown"]

def revocationState : Schema := enum ["active", "disabled", "revoked"]

def capabilityType : Schema := enum ["local_file_read", "local_file_write", "local_db_mutation",
  "local_process_spawn", "governed_other"]

/-- `"pattern": "^[a-z][a-z0-9-]{1,63}$"` -/
def ownerPattern : List Char → Bool
  | [] => false
  | first :: rest => first.isLower && decide (1 ≤ rest.length) && decide (rest.length ≤ 63) &&
      rest.all fun c => c.isLower || c.isDigit || c == '-'

/-- `"pattern": "^[0-9]+\\.[0-9]+\\.[0-9]+$"` -/
def versionPattern (text : List Char) : Bool :=
  match text.splitOn '.' with
  | [major, minor, patch] =>
    [major, minor, patch].all fun digits => !digits.isEmpty && digits.all Char.isDigit
  | _ => false

def provenance (times : DateTimes) : Schema := object [
  ("source_kind", enum ["registry_file"]),
  ("issued_at", dateTime times)]

def required (times : DateTimes) : List (String × Schema) := [
  ("capability_id", uuidText),
  ("owner_service", checked fun s => ownerPattern s.toList),
  ("capability_type", capabilityType),
  ("side_effect_class", sideEffectClass),
  ("approval_posture", approvalPosture),
  ("allowed_requester_classes", allOf [arrayOf requesterClass,
    itemCount fun n => decide (1 ≤ n) && decide (n ≤ 5), uniqueTexts]),
  ("timeout_budget_ms", integer 1 300000),
  ("retry_budget", integer 0 10),
  ("max_duration_budget_ms", integer 1 86400000),
  ("enabled_state", enum ["enabled", "disabled"]),
  ("review_class", enum ["none", "operator"]),
  ("provenance", provenance times),
  ("revocation_state", revocationState)]

def optional : List (String × Schema) := [
  ("max_cpu_budget", integer 1 100),
  ("max_mem_budget_mb", integer 16 65536),
  ("version_range", text 0 64)]

/-- The items of `capabilities`. -/
def capability (times : DateTimes) : Schema := objectWith (required times) optional

/-- `capability-registry.schema.json` -/
def capabilityRegistry (times : DateTimes) : Schema := object [
  ("registry_version", checked fun s => versionPattern s.toList),
  ("capabilities", allOf [arrayOf (capability times),
    itemCount fun n => decide (1 ≤ n) && decide (n ≤ 128)])]

end CapabilityRegistrySchema

/-- `CapabilityRegistryLoader::load_contract_value` -/
def CapabilityRegistryLoader.loadContractValue (times : TimeTexts) :
    Value → Option CapabilityRegistry :=
  loadContract (CapabilityRegistrySchema.capabilityRegistry times.toDateTimes)
    (CapabilityRegistry.fromValue times)

/-! ## What is read -/

namespace Decoder

variable {β : Type} {value : Value} {key : String}

theorem field_eq_some {d : Decoder β} {b : β} : field key d value = some b ↔
    ∃ part, value.get key = some part ∧ d part = some b := Option.bind_eq_some_iff

theorem string_eq_some {s : String} (h : string value = some s) : value = .string s := by
  cases value with
  | string t =>
    cases h
    rfl
  | _ => cases h

/-- A variant is read from its name. -/
theorem variant_eq_some {name : β → String} {variants : List β} {b : β}
    (h : variant name variants value = some b) : value = .string (name b) := by
  cases value with
  | string s =>
    have hname := List.find?_some h
    rw [eq_of_beq hname]
  | _ => cases h

theorem list_eq_some {d : Decoder β} {l : List β} (h : d.list value = some l) :
    ∃ items, value = .array items ∧ List.Forall₂ (fun item b => d item = some b) items l := by
  cases value with
  | array items =>
    refine ⟨items, rfl, ?_⟩
    rw [list] at h
    induction items generalizing l with
    | nil =>
      cases h
      exact .nil
    | cons item items ih =>
      rw [List.mapM_cons] at h
      obtain ⟨b, hb, rest, hrest, hl⟩ := by simpa [Option.bind_eq_some_iff] using h
      cases hl
      exact .cons hb (ih hrest)
  | _ => cases h

/-- Names are read from the list of their texts. -/
theorem list_variants_eq_some {name : β → String} {variants l : List β}
    (h : list (variant name variants) value = some l) :
    value = .array (l.map fun b => .string (name b)) := by
  obtain ⟨items, rfl, hitems⟩ := list_eq_some h
  clear h
  refine congrArg _ ?_
  induction hitems with
  | nil => rfl
  | cons hb _ ih => rw [List.map_cons, ← ih, variant_eq_some hb]

/-- A field that is missing, or one that is read. -/
theorem optionalField_eq_some {d : Decoder β} {o : Option β}
    (h : optionalField key d value = some o) : (value.get key = none ∧ o = none) ∨
      ∃ part, value.get key = some part ∧ d.option part = some o := by
  rw [optionalField] at h
  cases hget : value.get key with
  | none =>
    rw [hget] at h
    cases h
    exact .inl ⟨rfl, rfl⟩
  | some part =>
    rw [hget] at h
    exact .inr ⟨part, rfl, h⟩

theorem option_eq_some {d : Decoder β} {o : Option β} (h : d.option value = some o)
    (hnull : Schema.null value = false) : ∃ b, o = some b ∧ d value = some b := by
  rw [option_some hnull] at h
  obtain ⟨b, hb, rfl⟩ := Option.map_eq_some_iff.mp h
  exact ⟨b, rfl, hb⟩

/-- A number is read, whatever its spelling. -/
theorem unsigned_eq_some {size n : Nat} (h : unsigned size value = some n) :
    n < size ∧ ∀ minimum maximum, Schema.integer minimum maximum value =
      Schema.integer minimum maximum (natValue n) := by
  cases value with
  | number digits =>
    rw [unsigned, Option.filter_eq_some_iff] at h
    refine ⟨by simpa using h.2, fun minimum maximum => ?_⟩
    rw [Schema.integer, h.1, natValue, Schema.integer, Schema.decimal_toString]
  | _ => cases h

theorem u64_eq_some {n : UInt64} (h : u64 value = some n) (minimum maximum : Nat) :
    Schema.integer minimum maximum value = true ↔ minimum ≤ n.toNat ∧ n.toNat ≤ maximum := by
  obtain ⟨k, hk, rfl⟩ := Option.map_eq_some_iff.mp h
  obtain ⟨hlt, hinteger⟩ := unsigned_eq_some hk
  rw [hinteger, Schema.integer_natValue, UInt64.toNat_ofNat_of_lt' hlt]

theorem u32_eq_some {n : UInt32} (h : u32 value = some n) (minimum maximum : Nat) :
    Schema.integer minimum maximum value = true ↔ minimum ≤ n.toNat ∧ n.toNat ≤ maximum := by
  obtain ⟨k, hk, rfl⟩ := Option.map_eq_some_iff.mp h
  obtain ⟨hlt, hinteger⟩ := unsigned_eq_some hk
  rw [hinteger, Schema.integer_natValue, UInt32.toNat_ofNat_of_lt' hlt]

theorem u64_toString (n : UInt64) : u64 (.number (toString n)) = some n := by
  have hread : unsigned (2 ^ 64) (.number (toString n)) = some n.toNat :=
    unsigned_natValue n.toNat_lt
  rw [u64, hread, Option.map_some, UInt64.ofNat_toNat]

theorem u32_toString (n : UInt32) : u32 (.number (toString n)) = some n := by
  have hread : unsigned (2 ^ 32) (.number (toString n)) = some n.toNat :=
    unsigned_natValue n.toNat_lt
  rw [u32, hread, Option.map_some, UInt32.ofNat_toNat]

end Decoder

/-! ## What the schema asks of a record -/

namespace Schema

variable {required optional : List (String × Schema)} {value part : Value} {key : String}
  {schema : Schema}

theorem object_of_objectWith (h : objectWith required optional value = true) :
    ∃ fields, value = .object fields := by
  cases value with
  | object fields => exact ⟨fields, rfl⟩
  | _ => cases h

theorem part_of_required (h : objectWith required optional value = true)
    (hmem : (key, schema) ∈ required) (hget : value.get key = some part) : schema part = true := by
  obtain ⟨fields, rfl⟩ := object_of_objectWith h
  rw [objectWith, Bool.and_eq_true, Bool.and_eq_true, List.all_eq_true] at h
  have hpart := h.1.1 _ hmem
  rwa [show fields.lookup key = some part from hget] at hpart

theorem part_of_optional (h : objectWith required optional value = true)
    (hmem : (key, schema) ∈ optional) (hget : value.get key = some part) : schema part = true := by
  obtain ⟨fields, rfl⟩ := object_of_objectWith h
  rw [objectWith, Bool.and_eq_true, Bool.and_eq_true, List.all_eq_true, List.all_eq_true] at h
  have hpart := h.1.2 _ hmem
  rwa [show fields.lookup key = some part from hget] at hpart

/-- An object without other properties is checked part for part. -/
theorem objectWith_iff {fields : List (String × Value)}
    (hknown : ∀ key ∈ fields.map Prod.fst, key ∈ (required ++ optional).map Prod.fst) :
    objectWith required optional (.object fields) = true ↔
      (∀ property ∈ required, ((Value.object fields).get property.1).any property.2 = true) ∧
        ∀ property ∈ optional, ((Value.object fields).get property.1).all property.2 = true := by
  have hall : (fields.all fun field => ((required ++ optional).lookup field.1).isSome) = true :=
    List.all_eq_true.mpr fun field hfield =>
      lookup_isSome_of_mem (hknown _ (List.mem_map_of_mem (f := Prod.fst) hfield))
  rw [objectWith, hall, Bool.and_true, Bool.and_eq_true, List.all_eq_true, List.all_eq_true]
  rfl

/-- The same of a schema with required properties only. -/
theorem part_of_object {properties : List (String × Schema)}
    (h : object properties value = true) (hmem : (key, schema) ∈ properties)
    (hget : value.get key = some part) : schema part = true := by
  cases value with
  | object fields =>
    rw [object, Bool.and_eq_true, List.all_eq_true] at h
    have hpart := h.1 _ hmem
    rwa [show fields.lookup key = some part from hget] at hpart
  | _ => cases h

end Schema

/-- The bounds of the fields of a record. -/
structure CapabilityRecord.Fits (record : CapabilityRecord) : Prop where
  capabilityId : record.capabilityId.Versioned
  ownerService :
    CapabilityRegistrySchema.ownerPattern record.ownerService.toList = true
  classCount : 1 ≤ record.allowedRequesterClasses.length ∧
    record.allowedRequesterClasses.length ≤ 5
  classesUnique : record.allowedRequesterClasses.Nodup
  timeoutBudgetMs : 1 ≤ record.timeoutBudgetMs.toNat ∧ record.timeoutBudgetMs.toNat ≤ 300000
  retryBudget : 0 ≤ record.retryBudget.toNat ∧ record.retryBudget.toNat ≤ 10
  maxDurationBudgetMs : 1 ≤ record.maxDurationBudgetMs.toNat ∧
    record.maxDurationBudgetMs.toNat ≤ 86400000
  maxCpuBudget : ∀ n ∈ record.maxCpuBudget, 1 ≤ n.toNat ∧ n.toNat ≤ 100
  maxMemBudgetMb : ∀ n ∈ record.maxMemBudgetMb, 16 ≤ n.toNat ∧ n.toNat ≤ 65536
  versionRange : ∀ s ∈ record.versionRange, Schema.text 0 64 (.string s) = true

/-- A record whose fields are all there, with a time that can be written. -/
structure CapabilityRecord.Complete (record : CapabilityRecord) : Prop where
  maxCpuBudget : record.maxCpuBudget.isSome = true
  maxMemBudgetMb : record.maxMemBudgetMb.isSome = true
  versionRange : record.versionRange.isSome = true
  issuedAt : FourDigitYear record.provenance.issuedAt

namespace CapabilityRegistrySchema

open Schema
open RouteDecisionSchema (uuidText approvalPosture sideEffectClass)

variable {times : TimeTexts} {item : Value} {record : CapabilityRecord}

theorem requesterClass_inj : Function.Injective RequesterClass.serdeName := by
  intro c c' h
  cases c <;> cases c' <;> first | rfl | exact absurd h (by decide)

/-- The classes of a record, in the words of the schema. -/
theorem classes_iff {classes : List RequesterClass} :
    allOf [arrayOf requesterClass, itemCount fun n => decide (1 ≤ n) && decide (n ≤ 5),
        uniqueTexts] (.array (classes.map fun c => .string c.serdeName)) = true ↔
      (1 ≤ classes.length ∧ classes.length ≤ 5) ∧ classes.Nodup := by
  have hnames : (classes.map fun c => Value.string c.serdeName) =
      (classes.map RequesterClass.serdeName).map .string := by
    rw [List.map_map]
    rfl
  have hunique : uniqueTexts (.array (classes.map fun c => .string c.serdeName)) = true ↔
      classes.Nodup := by
    rw [hnames, GnatDispatchEnvelopeSchema.uniqueTexts_iff, List.nodup_map_iff requesterClass_inj]
  have hclass : ∀ c : RequesterClass, requesterClass (.string c.serdeName) = true := by
    intro c
    cases c <;> decide
  simp only [allOf, List.all_cons, List.all_nil, Bool.and_true, hunique, arrayOf, itemCount,
    List.length_map, List.all_map, Bool.and_eq_true, decide_eq_true_eq, List.all_eq_true,
    Function.comp_apply, hclass, implies_true, true_and]

/-- An optional field is missing, or it is not `null` and read. -/
theorem optional_cases {β : Type} {d : Decoder β} {key : String} {schema : Schema} {o : Option β}
    (h : capability times.toDateTimes item = true)
    (hread : Decoder.optionalField key d item = some o) (hmem : (key, schema) ∈ optional)
    (hnull : schema .null = false) : (item.get key = none ∧ o = none) ∨
      ∃ part b, item.get key = some part ∧ o = some b ∧ d part = some b ∧ schema part = true := by
  rcases Decoder.optionalField_eq_some hread with hnone | ⟨part, hget, hpart⟩
  · exact .inl hnone
  · have hschema := part_of_optional h hmem hget
    have hvalue : null part = false := by
      cases part with
      | null =>
        rw [hnull] at hschema
        cases hschema
      | _ => rfl
    obtain ⟨b, hb, hd⟩ := Decoder.option_eq_some hpart hvalue
    exact .inr ⟨part, b, hget, hb, hd, hschema⟩

theorem fits_of_optional {β : Type} {d : Decoder β} {key : String} {schema : Schema} {o : Option β}
    {fits : β → Prop} (h : capability times.toDateTimes item = true)
    (hread : Decoder.optionalField key d item = some o) (hmem : (key, schema) ∈ optional)
    (hnull : schema .null = false)
    (hfits : ∀ part b, d part = some b → schema part = true → fits b) : ∀ b ∈ o, fits b := by
  intro b hb
  rcases optional_cases h hread hmem hnull with ⟨-, rfl⟩ | ⟨part, c, -, rfl, hc, hschema⟩
  · cases hb
  · cases hb
    exact hfits part b hc hschema

theorem isSome_iff_of_optional {β : Type} {d : Decoder β} {key : String} {schema : Schema}
    {o : Option β} (h : capability times.toDateTimes item = true)
    (hread : Decoder.optionalField key d item = some o) (hmem : (key, schema) ∈ optional)
    (hnull : schema .null = false) : o.isSome = true ↔ (item.get key).isSome = true := by
  rcases optional_cases h hread hmem hnull with ⟨hget, rfl⟩ | ⟨part, b, hget, rfl, -⟩
  · rw [hget]
    rfl
  · rw [hget]
    exact iff_of_true rfl rfl

/-- The fields of a record that was read, but for the variants that are always accepted. -/
structure ReadFrom (times : TimeTexts) (item : Value) (record : CapabilityRecord) : Prop where
  capabilityId : Decoder.field "capability_id" .uuid item = some record.capabilityId
  ownerService : Decoder.field "owner_service" .string item = some record.ownerService
  classes : Decoder.field "allowed_requester_classes"
    (.list (.variant RequesterClass.serdeName RequesterClass.variants)) item =
      some record.allowedRequesterClasses
  timeoutBudgetMs : Decoder.field "timeout_budget_ms" .u64 item = some record.timeoutBudgetMs
  retryBudget : Decoder.field "retry_budget" .u32 item = some record.retryBudget
  maxDurationBudgetMs :
    Decoder.field "max_duration_budget_ms" .u64 item = some record.maxDurationBudgetMs
  maxCpuBudget : Decoder.optionalField "max_cpu_budget" .u32 item = some record.maxCpuBudget
  maxMemBudgetMb :
    Decoder.optionalField "max_mem_budget_mb" .u32 item = some record.maxMemBudgetMb
  provenance : Decoder.field "provenance" (CapabilityProvenance.fromValue times) item =
    some record.provenance
  versionRange : Decoder.optionalField "version_range" .string item = some record.versionRange

theorem readFrom_of_fromValue (hread : CapabilityRecord.fromValue times item = some record) :
    ReadFrom times item record := by
  rw [CapabilityRecord.fromValue] at hread
  obtain ⟨_, hid, hread⟩ := Option.bind_eq_some_iff.mp hread
  obtain ⟨_, howner, hread⟩ := Option.bind_eq_some_iff.mp hread
  obtain ⟨_, -, hread⟩ := Option.bind_eq_some_iff.mp hread
  obtain ⟨_, -, hread⟩ := Option.bind_eq_some_iff.mp hread
  obtain ⟨_, -, hread⟩ := Option.bind_eq_some_iff.mp hread
  obtain ⟨_, hclasses, hread⟩ := Option.bind_eq_some_iff.mp hread
  obtain ⟨_, htimeout, hread⟩ := Option.bind_eq_some_iff.mp hread
  obtain ⟨_, hretry, hread⟩ := Option.bind_eq_some_iff.mp hread
  obtain ⟨_, hduration, hread⟩ := Option.bind_eq_some_iff.mp hread
  obtain ⟨_, hcpu, hread⟩ := Option.bind_eq_some_iff.mp hread
  obtain ⟨_, hmem, hread⟩ := Option.bind_eq_some_iff.mp hread
  obtain ⟨_, -, hread⟩ := Option.bind_eq_some_iff.mp hread
  obtain ⟨_, -, hread⟩ := Option.bind_eq_some_iff.mp hread
  obtain ⟨_, hprovenance, hread⟩ := Option.bind_eq_some_iff.mp hread
  obtain ⟨_, -, hread⟩ := Option.bind_eq_some_iff.mp hread
  obtain ⟨_, hversion, hread⟩ := Option.bind_eq_some_iff.mp hread
  cases hread
  exact ⟨hid, howner, hclasses, htimeout, hretry, hduration, hcpu, hmem, hprovenance, hversion⟩

/-- A record that is read from an accepted object fits. -/
theorem fits_of_read (h : capability times.toDateTimes item = true)
    (hread : CapabilityRecord.fromValue times item = some record) : record.Fits := by
  have hfrom := readFrom_of_fromValue hread
  have hpart : ∀ {key : String} {schema : Schema} {part : Value} (i : Nat),
      (required times.toDateTimes)[i]? = some (key, schema) → item.get key = some part →
        schema part = true :=
    fun _ hi hget => part_of_required h (List.mem_of_getElem? hi) hget
  refine ⟨?_, ?_, ?_, ?_, ?_, ?_, ?_, ?_, ?_, ?_⟩
  · obtain ⟨part, hget, hd⟩ := Decoder.field_eq_some.mp hfrom.capabilityId
    have htext := hpart 0 rfl hget
    cases part with
    | string s => exact UuidId.ofText_versioned hd htext
    | _ => cases hd
  · obtain ⟨part, hget, hd⟩ := Decoder.field_eq_some.mp hfrom.ownerService
    have htext := hpart 1 rfl hget
    rwa [Decoder.string_eq_some hd] at htext
  · obtain ⟨part, hget, hd⟩ := Decoder.field_eq_some.mp hfrom.classes
    have hall := hpart 5 rfl hget
    rw [Decoder.list_variants_eq_some hd, classes_iff] at hall
    exact hall.1
  · obtain ⟨part, hget, hd⟩ := Decoder.field_eq_some.mp hfrom.classes
    have hall := hpart 5 rfl hget
    rw [Decoder.list_variants_eq_some hd, classes_iff] at hall
    exact hall.2
  · obtain ⟨part, hget, hd⟩ := Decoder.field_eq_some.mp hfrom.timeoutBudgetMs
    exact (Decoder.u64_eq_some hd _ _).mp (hpart 6 rfl hget)
  · obtain ⟨part, hget, hd⟩ := Decoder.field_eq_some.mp hfrom.retryBudget
    exact (Decoder.u32_eq_some hd _ _).mp (hpart 7 rfl hget)
  · obtain ⟨part, hget, hd⟩ := Decoder.field_eq_some.mp hfrom.maxDurationBudgetMs
    exact (Decoder.u64_eq_some hd _ _).mp (hpart 8 rfl hget)
  · exact fits_of_optional h hfrom.maxCpuBudget (List.mem_of_getElem? (i := 0) rfl) rfl
      fun part b hd => (Decoder.u32_eq_some hd _ _).mp
  · exact fits_of_optional h hfrom.maxMemBudgetMb (List.mem_of_getElem? (i := 1) rfl) rfl
      fun part b hd => (Decoder.u32_eq_some hd _ _).mp
  · refine fits_of_optional h hfrom.versionRange (List.mem_of_getElem? (i := 2) rfl) rfl
      fun part b hd htext => ?_
    rwa [Decoder.string_eq_some hd] at htext

/-- The keys of a record that is written are those of the schema. -/
theorem keys_known : ∀ key ∈ ["allowed_requester_classes", "approval_posture", "capability_id",
    "capability_type", "enabled_state", "max_cpu_budget", "max_duration_budget_ms",
    "max_mem_budget_mb", "owner_service", "provenance", "retry_budget", "review_class",
    "revocation_state", "side_effect_class", "timeout_budget_ms", "version_range"],
    key ∈ ["capability_id", "owner_service", "capability_type", "side_effect_class",
      "approval_posture", "allowed_requester_classes", "timeout_budget_ms", "retry_budget",
      "max_duration_budget_ms", "enabled_state", "review_class", "provenance",
      "revocation_state", "max_cpu_budget", "max_mem_budget_mb", "version_range"] := by
  decide

/-- A record is accepted when its fields fit and are all there. -/
theorem toValue_accepted_iff (htimes : times.Rfc3339) (hfits : record.Fits) :
    capability times.toDateTimes (record.toValue times.toDateTimes) = true ↔ record.Complete := by
  have hid : uuidText record.capabilityId.toValue = true := hfits.capabilityId
  have howner : checked (fun s => ownerPattern s.toList) (.string record.ownerService) = true :=
    hfits.ownerService
  have htype : capabilityType (.string record.capabilityType.serdeName) = true := by
    cases record.capabilityType <;> decide
  have heffect : sideEffectClass (.string record.sideEffectClass.serdeName) = true := by
    cases record.sideEffectClass <;> decide
  have hposture : approvalPosture record.approvalPosture.toValue = true :=
    RouteDecisionSchema.posture_accepted _
  have hclasses := classes_iff.mpr ⟨hfits.classCount, hfits.classesUnique⟩
  have htimeout : integer 1 300000 (.number (toString record.timeoutBudgetMs)) = true :=
    integer_natValue.mpr hfits.timeoutBudgetMs
  have hretry : integer 0 10 (.number (toString record.retryBudget)) = true :=
    integer_natValue.mpr hfits.retryBudget
  have hduration : integer 1 86400000 (.number (toString record.maxDurationBudgetMs)) = true :=
    integer_natValue.mpr hfits.maxDurationBudgetMs
  have henabled : enum ["enabled", "disabled"] (.string record.enabledState.serdeName) = true := by
    cases record.enabledState <;> decide
  have hreview : enum ["none", "operator"] (.string record.reviewClass.serdeName) = true := by
    cases record.reviewClass <;> decide
  have hrevocation : revocationState (.string record.revocationState.serdeName) = true := by
    cases record.revocationState <;> decide
  have hcpu : integer 1 100
      (optionValue (fun n : UInt32 => .number (toString n)) record.maxCpuBudget) =
        record.maxCpuBudget.isSome :=
    required_optionValue rfl fun n hn => integer_natValue.mpr (hfits.maxCpuBudget n hn)
  have hmem : integer 16 65536
      (optionValue (fun n : UInt32 => .number (toString n)) record.maxMemBudgetMb) =
        record.maxMemBudgetMb.isSome :=
    required_optionValue rfl fun n hn => integer_natValue.mpr (hfits.maxMemBudgetMb n hn)
  have hversion : text 0 64 (optionValue .string record.versionRange) =
      record.versionRange.isSome :=
    required_optionValue rfl hfits.versionRange
  have hkind : enum ["registry_file"] (.string record.provenance.sourceKind.serdeName) = true := by
    cases record.provenance.sourceKind
    decide
  have hprovenance : provenance times.toDateTimes (record.provenance.toValue times.toDateTimes) =
      true ↔ FourDigitYear record.provenance.issuedAt := by
    rw [← htimes.printable]
    simp only [provenance, CapabilityProvenance.toValue, object, List.all_cons, List.all_nil,
      List.lookup_cons, String.reduceBEq, Option.any_some, hkind, Option.isSome_some,
      Bool.and_true, Bool.true_and]
    rfl
  rw [capability, CapabilityRecord.toValue]
  refine (objectWith_iff (by exact keys_known)).trans ?_
  simp only [required, optional, List.forall_mem_cons, List.not_mem_nil, false_implies,
    implies_true, and_true]
  constructor
  · rintro ⟨⟨-, -, -, -, -, -, -, -, -, -, -, hyear, -⟩, hcpuPart, hmemPart, hversionPart⟩
    exact ⟨hcpu.symm.trans hcpuPart, hmem.symm.trans hmemPart, hversion.symm.trans hversionPart,
      hprovenance.mp hyear⟩
  · intro h
    exact ⟨⟨hid, howner, htype, heffect, hposture, hclasses, htimeout, hretry, hduration, henabled,
      hreview, hprovenance.mpr h.issuedAt, hrevocation⟩, hcpu.trans h.maxCpuBudget,
      hmem.trans h.maxMemBudgetMb, hversion.trans h.versionRange⟩

section
open Decoder

theorem provenance_fromValue_toValue (htimes : times.Rfc3339) {provenance : CapabilityProvenance}
    (h : FourDigitYear provenance.issuedAt) :
    CapabilityProvenance.fromValue times (provenance.toValue times.toDateTimes) =
      some provenance := by
  have hkind : variant CapabilityProvenanceKind.serdeName CapabilityProvenanceKind.variants
      (.string provenance.sourceKind.serdeName) = some provenance.sourceKind :=
    variant_name (by decide) (by cases provenance.sourceKind; decide)
  rw [CapabilityProvenance.fromValue]
  refine (bind_field rfl hkind).trans ?_
  refine (bind_field rfl (timestamp_text htimes h)).trans ?_
  rfl

/-- A record with a time that can be written is read back. -/
theorem record_fromValue_toValue (htimes : times.Rfc3339)
    (h : FourDigitYear record.provenance.issuedAt) :
    CapabilityRecord.fromValue times (record.toValue times.toDateTimes) = some record := by
  have htype : variant CapabilityType.serdeName CapabilityType.variants
      (.string record.capabilityType.serdeName) = some record.capabilityType :=
    variant_name (by decide) (by cases record.capabilityType <;> decide)
  have heffect : variant SideEffectClass.serdeName SideEffectClass.variants
      (.string record.sideEffectClass.serdeName) = some record.sideEffectClass :=
    variant_name (by decide) (by cases record.sideEffectClass <;> decide)
  have hclasses : list (variant RequesterClass.serdeName RequesterClass.variants)
      (.array (record.allowedRequesterClasses.map fun c => .string c.serdeName)) =
        some record.allowedRequesterClasses :=
    list_map fun c _ => variant_name (by decide) (by cases c <;> decide)
  have henabled : variant EnabledState.serdeName EnabledState.variants
      (.string record.enabledState.serdeName) = some record.enabledState :=
    variant_name (by decide) (by cases record.enabledState <;> decide)
  have hreview : variant ReviewClass.serdeName ReviewClass.variants
      (.string record.reviewClass.serdeName) = some record.reviewClass :=
    variant_name (by decide) (by cases record.reviewClass <;> decide)
  have hrevocation : variant RevocationState.serdeName RevocationState.variants
      (.string record.revocationState.serdeName) = some record.revocationState :=
    variant_name (by decide) (by cases record.revocationState <;> decide)
  have hnumbers : ∀ o : Option UInt32,
      option u32 (optionValue (fun n : UInt32 => .number (toString n)) o) = some o :=
    fun _ => option_optionValue (fun _ => rfl) fun n _ => u32_toString n
  rw [CapabilityRecord.fromValue]
  refine (bind_field rfl (uuid_toValue _)).trans ?_
  refine (bind_field rfl (string_string _)).trans ?_
  refine (bind_field rfl htype).trans ?_
  refine (bind_field rfl heffect).trans ?_
  refine (bind_field rfl (approvalPosture_toValue _)).trans ?_
  refine (bind_field rfl hclasses).trans ?_
  refine (bind_field rfl (u64_toString _)).trans ?_
  refine (bind_field rfl (u32_toString _)).trans ?_
  refine (bind_field rfl (u64_toString _)).trans ?_
  refine (bind_optionalField rfl (hnumbers _)).trans ?_
  refine (bind_optionalField rfl (hnumbers _)).trans ?_
  refine (bind_field rfl henabled).trans ?_
  refine (bind_field rfl hreview).trans ?_
  refine (bind_field rfl (provenance_fromValue_toValue htimes h)).trans ?_
  refine (bind_field rfl hrevocation).trans ?_
  refine (bind_optionalField rfl (option_strings _)).trans ?_
  rfl

end

/-! ## Loaded registries -/

variable {value : Value} {registry : CapabilityRegistry}

/-- The version and the records of a registry that was loaded. -/
structure Loaded (times : TimeTexts) (value : Value) (registry : CapabilityRegistry)
    (items : List Value) : Prop where
  version : versionPattern registry.registryVersion.toList = true
  count : 1 ≤ items.length ∧ items.length ≤ 128
  array : value.get "capabilities" = some (.array items)
  records : List.Forall₂ (fun item record => capability times.toDateTimes item = true ∧
    CapabilityRecord.fromValue times item = some record) items registry.capabilities

theorem loaded_of_load (h : CapabilityRegistryLoader.loadContractValue times value = some registry) :
    ∃ items, Loaded times value registry items := by
  obtain ⟨haccepted, hread⟩ := loadContract_eq_some.mp h
  rw [CapabilityRegistry.fromValue] at hread
  obtain ⟨version, hversion, hread⟩ := Option.bind_eq_some_iff.mp hread
  obtain ⟨capabilities, hcapabilities, hread⟩ := Option.bind_eq_some_iff.mp hread
  cases hread
  obtain ⟨versionPart, hversionGet, hversionRead⟩ := Decoder.field_eq_some.mp hversion
  obtain ⟨part, hget, hlist⟩ := Decoder.field_eq_some.mp hcapabilities
  obtain ⟨items, rfl, hitems⟩ := Decoder.list_eq_some hlist
  have hpattern := part_of_object haccepted (List.mem_of_getElem? (i := 0) rfl) hversionGet
  have hall := part_of_object haccepted (List.mem_of_getElem? (i := 1) rfl) hget
  rw [Decoder.string_eq_some hversionRead] at hpattern
  simp only [allOf, List.all_cons, List.all_nil, Bool.and_true, Bool.and_eq_true, arrayOf,
    itemCount, List.all_eq_true, decide_eq_true_eq] at hall
  obtain ⟨hschema, hcount⟩ := hall
  refine ⟨items, hpattern, hcount, hget, ?_⟩
  exact (List.forall₂_and_left _ _).mpr ⟨hschema, hitems⟩

/-- A loaded registry is accepted as it is written when its records are complete. -/
theorem registry_accepted_iff (htimes : times.Rfc3339) {items : List Value}
    (h : Loaded times value registry items) :
    capabilityRegistry times.toDateTimes (registry.toValue times.toDateTimes) = true ↔
      ∀ record ∈ registry.capabilities, record.Complete := by
  have hversion : checked (fun s => versionPattern s.toList) (.string registry.registryVersion) =
      true := h.version
  have hcount := h.count
  rw [h.records.length_eq] at hcount
  have hrecords : ∀ record ∈ registry.capabilities,
      (capability times.toDateTimes (record.toValue times.toDateTimes) = true ↔
        record.Complete) := by
    intro record hrecord
    obtain ⟨item, -, hitem, hread⟩ := exists_mem_of_forall₂ h.records hrecord
    exact toValue_accepted_iff htimes (fits_of_read hitem hread)
  have hlist : allOf [arrayOf (capability times.toDateTimes),
      itemCount fun n => decide (1 ≤ n) && decide (n ≤ 128)]
        (.array (registry.capabilities.map (CapabilityRecord.toValue times.toDateTimes))) = true ↔
      ∀ record ∈ registry.capabilities, record.Complete := by
    simp only [allOf, List.all_cons, List.all_nil, Bool.and_true, arrayOf, itemCount,
      List.length_map, hcount, decide_true, List.all_map, List.all_eq_true, Function.comp_apply]
    exact forall₂_congr hrecords
  simp only [capabilityRegistry, CapabilityRegistry.toValue, object, List.all_cons, List.all_nil,
    List.lookup_cons, String.reduceBEq, Option.any_some, Option.isSome_some, hversion,
    Bool.and_true, Bool.true_and]
  exact hlist

open Decoder in
/-- A registry of complete records is read back. -/
theorem registry_fromValue_toValue (htimes : times.Rfc3339)
    (h : ∀ record ∈ registry.capabilities, record.Complete) :
    CapabilityRegistry.fromValue times (registry.toValue times.toDateTimes) = some registry := by
  have hcapabilities : list (CapabilityRecord.fromValue times)
      (.array (registry.capabilities.map (CapabilityRecord.toValue times.toDateTimes))) =
        some registry.capabilities :=
    list_map fun record hrecord => record_fromValue_toValue htimes (h record hrecord).issuedAt
  rw [CapabilityRegistry.fromValue]
  refine (bind_field rfl (string_string _)).trans ?_
  refine (bind_field rfl hcapabilities).trans ?_
  rfl

/-- The time of the provenance of a record, as it is read. -/
def issuedAt (times : TimeTexts) (item : Value) : Option TimestampUtc :=
  ((item.get "provenance").bind (·.get "issued_at")).bind (Decoder.timestamp times)

/-- A record of a file that leaves nothing out, and was issued in a year that is written with
four digits. -/
structure LeavesNothingOut (times : TimeTexts) (item : Value) : Prop where
  maxCpuBudget : (item.get "max_cpu_budget").isSome = true
  maxMemBudgetMb : (item.get "max_mem_budget_mb").isSome = true
  versionRange : (item.get "version_range").isSome = true
  issuedAt : ∀ t ∈ issuedAt times item, FourDigitYear t

theorem complete_iff_of_read (h : capability times.toDateTimes item = true)
    (hread : CapabilityRecord.fromValue times item = some record) :
    record.Complete ↔ LeavesNothingOut times item := by
  have hfrom := readFrom_of_fromValue hread
  have hcpu := isSome_iff_of_optional h hfrom.maxCpuBudget (List.mem_of_getElem? (i := 0) rfl) rfl
  have hmem := isSome_iff_of_optional h hfrom.maxMemBudgetMb (List.mem_of_getElem? (i := 1) rfl) rfl
  have hversion := isSome_iff_of_optional h hfrom.versionRange
    (List.mem_of_getElem? (i := 2) rfl) rfl
  have hissued : issuedAt times item = some record.provenance.issuedAt := by
    obtain ⟨part, hget, hpart⟩ := Decoder.field_eq_some.mp hfrom.provenance
    rw [CapabilityProvenance.fromValue] at hpart
    obtain ⟨_, -, hpart⟩ := Option.bind_eq_some_iff.mp hpart
    obtain ⟨issued, hissued, hpart⟩ := Option.bind_eq_some_iff.mp hpart
    obtain ⟨text, htext, htime⟩ := Decoder.field_eq_some.mp hissued
    rw [issuedAt, hget, Option.bind_some, htext, Option.bind_some, htime]
    exact congrArg (Option.map (·.issuedAt)) hpart
  constructor
  · intro hcomplete
    refine ⟨hcpu.mp hcomplete.maxCpuBudget, hmem.mp hcomplete.maxMemBudgetMb,
      hversion.mp hcomplete.versionRange, fun t ht => ?_⟩
    rw [hissued] at ht
    cases ht
    exact hcomplete.issuedAt
  · intro hgiven
    exact ⟨hcpu.mpr hgiven.maxCpuBudget, hmem.mpr hgiven.maxMemBudgetMb,
      hversion.mpr hgiven.versionRange, hgiven.issuedAt _ hissued⟩

/-- The records are complete when the file leaves nothing out. -/
theorem complete_iff {items : List Value} (h : Loaded times value registry items) :
    (∀ record ∈ registry.capabilities, record.Complete) ↔
      ∀ item ∈ items, LeavesNothingOut times item := by
  constructor
  · intro hcomplete item hitem
    obtain ⟨record, hrecord, haccepted, hread⟩ := exists_mem_of_forall₂ h.records.flip hitem
    exact (complete_iff_of_read haccepted hread).mp (hcomplete record hrecord)
  · intro hgiven record hrecord
    obtain ⟨item, hitem, haccepted, hread⟩ := exists_mem_of_forall₂ h.records hrecord
    exact (complete_iff_of_read haccepted hread).mpr (hgiven item hitem)

end CapabilityRegistrySchema

open CapabilityRegistrySchema
open HttpServer (Request buildResponse)

/-- A file of records that leave nothing out. -/
def FileLeavesNothingOut (times : TimeTexts) (value : Value) : Prop :=
  ∀ items, value.get "capabilities" = some (.array items) →
    ∀ item ∈ items, LeavesNothingOut times item

/-- Every body that is sent with the status 200 is a record of the schema. -/
def ServesRecords (times : DateTimes) (registry : CapabilityRegistry) : Prop :=
  ∀ (κ : Type) (jwt : Jwt κ) (request : Request) (publicKeys : PublicKeys),
    (buildResponse jwt times request publicKeys ⟨some registry⟩).status = 200 →
      ∃ body, (buildResponse jwt times request publicKeys ⟨some registry⟩).body =
          String.ofList body.compact ∧
        capability times body = true

theorem servesRecords_of_complete {times : TimeTexts} (htimes : times.Rfc3339) {value : Value}
    {registry : CapabilityRegistry} {items : List Value}
    (hloaded : Loaded times value registry items)
    (h : ∀ record ∈ registry.capabilities, record.Complete) :
    ServesRecords times.toDateTimes registry := by
  intro κ jwt request publicKeys hok
  obtain ⟨capabilityId, served, record, -, hserved, hfirst, hresponse⟩ :=
    HttpServer.buildResponse_ok_iff.mp hok
  cases hserved
  obtain ⟨item, -, hitem, hread⟩ := exists_mem_of_forall₂ hloaded.records hfirst.mem
  refine ⟨record.toValue times.toDateTimes, by rw [hresponse]; rfl, ?_⟩
  exact (toValue_accepted_iff htimes (fits_of_read hitem hread)).mpr (h record hfirst.mem)

/-- A registry that was loaded is written so that the schema takes it, it is loaded again, and
the served records are valid, if and only if its file left nothing out. -/
theorem CapabilityRegistry.reserialized_iff {times : TimeTexts} (htimes : times.Rfc3339)
    {value : Value} {registry : CapabilityRegistry}
    (hload : CapabilityRegistryLoader.loadContractValue times value = some registry) :
    (capabilityRegistry times.toDateTimes (registry.toValue times.toDateTimes) = true ∧
      CapabilityRegistryLoader.loadContractValue times (registry.toValue times.toDateTimes) =
        some registry ∧
      ServesRecords times.toDateTimes registry) ↔
    FileLeavesNothingOut times value := by
  obtain ⟨items, hloaded⟩ := loaded_of_load hload
  have hfile : FileLeavesNothingOut times value ↔ ∀ record ∈ registry.capabilities,
      record.Complete := by
    rw [complete_iff hloaded]
    constructor
    · intro h
      exact h items hloaded.array
    · intro h items' harray
      rw [hloaded.array] at harray
      cases harray
      exact h
  rw [hfile, ← registry_accepted_iff htimes hloaded]
  constructor
  · rintro ⟨haccepted, -⟩
    exact haccepted
  · intro haccepted
    have hcomplete := (registry_accepted_iff htimes hloaded).mp haccepted
    exact ⟨haccepted, loadContract_eq_some.mpr
      ⟨haccepted, registry_fromValue_toValue htimes hcomplete⟩,
      servesRecords_of_complete htimes hloaded hcomplete⟩

namespace Fixture

/-- The basic registry file, whose one record has no budgets of CPU and memory. -/
def registryFile : Value := .object [
  ("registry_version", .string "1.0.0"),
  ("capabilities", .array [.object [
    ("capability_id", .string "44444444-4444-4444-8444-444444444444"),
    ("owner_service", .string "fa-local"),
    ("capability_type", .string "local_file_write"),
    ("side_effect_class", .string "local_file_write"),
    ("approval_posture", .string "policy_preapproved"),
    ("allowed_requester_classes", .array [.string "trusted_app_surface"]),
    ("timeout_budget_ms", .number "1000"),
    ("retry_budget", .number "0"),
    ("max_duration_budget_ms", .number "5000"),
    ("enabled_state", .string "enabled"),
    ("review_class", .string "none"),
    ("provenance", .object [
      ("source_kind", .string "registry_file"),
      ("issued_at", .string "2029-12-30T00:00:00Z")]),
    ("revocation_state", .string "active"),
    ("version_range", .string ">=1.0.0")]])]

/-- The record with both budgets. -/
def completeRecord : CapabilityRecord :=
  { Fixture.record with maxCpuBudget := some 50, maxMemBudgetMb := some 512 }

def completeRegistry : CapabilityRegistry :=
  { registryVersion := "1.0.0", capabilities := [completeRecord] }

theorem completeRegistry_loaded : CapabilityRegistryLoader.loadContractValue timeTexts
    (completeRegistry.toValue timeTexts.toDateTimes) = some completeRegistry := by
  decide

end Fixture

theorem CapabilityRegistry.reserialized_iff_complete :
    FileLeavesNothingOut Fixture.timeTexts
      (Fixture.completeRegistry.toValue Fixture.timeTexts.toDateTimes) := by
  have hiff := CapabilityRegistry.reserialized_iff Fixture.timeTexts_rfc3339
    Fixture.completeRegistry_loaded
  obtain ⟨items, hloaded⟩ := loaded_of_load Fixture.completeRegistry_loaded
  have hcomplete : ∀ record ∈ Fixture.completeRegistry.capabilities, record.Complete := by
    simp only [Fixture.completeRegistry, List.forall_mem_singleton]
    exact ⟨rfl, rfl, rfl, by decide⟩
  refine hiff.mp ⟨?_, Fixture.completeRegistry_loaded,
    servesRecords_of_complete Fixture.timeTexts_rfc3339 hloaded hcomplete⟩
  exact (registry_accepted_iff Fixture.timeTexts_rfc3339 hloaded).mpr hcomplete

/-- The basic file is loaded, and neither its registry nor its record can be loaded again. -/
theorem CapabilityRegistry.not_reserialized_basic :
    CapabilityRegistryLoader.loadContractValue Fixture.timeTexts Fixture.registryFile =
        some Fixture.registry ∧
      capabilityRegistry Fixture.timeTexts.toDateTimes
        (Fixture.registry.toValue Fixture.timeTexts.toDateTimes) = false ∧
      CapabilityRegistryLoader.loadContractValue Fixture.timeTexts
        (Fixture.registry.toValue Fixture.timeTexts.toDateTimes) = none ∧
      buildResponse Fixture.jwt Fixture.timeTexts.toDateTimes Fixture.recordRequest
          [("forge", Fixture.forgeKey)] ⟨some Fixture.registry⟩ =
        HttpServer.jsonResponse 200 (Fixture.record.toValue Fixture.timeTexts.toDateTimes) ∧
      capability Fixture.timeTexts.toDateTimes
        (Fixture.record.toValue Fixture.timeTexts.toDateTimes) = false := by
  refine ⟨by decide, by decide, by decide, ?_, by decide⟩
  rw [HttpServer.buildResponse_admitted HttpServer.recordRequest_admitted]
  rfl

end FaLocal
