import FaLocal.DecisionSchema
import FaLocal.GnatAdmission

/-!
# The schema of a Gnat dispatch envelope

An envelope as it is serialised, and what `gnat-dispatch-envelope.schema.json` asks
of it.
-/
namespace FaLocal

/-! ## Serialised envelopes -/

def GnatWorkerType.serdeName : GnatWorkerType → String
  | .markdownSyntax => "markdown_syntax"
  | .plainTextSyntax => "plain_text_syntax"
  | .pdfTextSyntax => "pdf_text_syntax"
  | .docxTextSyntax => "docx_text_syntax"
  | .rtfTextSyntax => "rtf_text_syntax"
  | .odtTextSyntax => "odt_text_syntax"
  | .epubTextSyntax => "epub_text_syntax"

def GnatCancellationPolicy.serdeName : GnatCancellationPolicy → String
  | .cancelRemainingShards => "cancel_remaining_shards"
  | .finishInFlightOnly => "finish_in_flight_only"

def GnatRetryPolicy.serdeName : GnatRetryPolicy → String
  | .none => "none"
  | .infrastructureOnly => "infrastructure_only"

def natValue (n : Nat) : Value := .number (toString n)

def GnatDispatchShard.toValue (shard : GnatDispatchShard) : Value := .object [
  ("shard_id", .string shard.shardId),
  ("ordinal", natValue shard.ordinal.toNat),
  ("worker_type", .string shard.workerType.serdeName),
  ("source_ref", .string shard.sourceRef),
  ("source_fingerprint_digest", .string shard.sourceFingerprintDigest),
  ("deadline_ms", natValue shard.deadlineMs.toNat)]

def GnatExecutionLimits.toValue (limits : GnatExecutionLimits) : Value := .object [
  ("requested_concurrency", natValue limits.requestedConcurrency.toNat),
  ("max_concurrency", natValue limits.maxConcurrency.toNat),
  ("deadline_ms", natValue limits.deadlineMs.toNat)]

def GnatDispatchPlan.toValue (plan : GnatDispatchPlan) : Value := .object [
  ("contract_version", .string plan.contractVersion),
  ("run_id", .string plan.runId),
  ("plan_hash", .string plan.planHash),
  ("operation", .string plan.operation),
  ("expected_receipt_schema", .string plan.expectedReceiptSchema),
  ("shard_count", natValue plan.shardCount.toNat),
  ("shards", .array (plan.shards.map (·.toValue))),
  ("execution_limits", plan.executionLimits.toValue),
  ("serial_fallback_allowed", .bool plan.serialFallbackAllowed)]

def GnatRequiredCapabilities.toValue (required : GnatRequiredCapabilities) : Value := .object [
  ("supported_contract_versions",
    .array (required.supportedContractVersions.map .string)),
  ("worker_types", .array (required.workerTypes.map fun t => .string t.serdeName)),
  ("cancellation_policy", .string required.cancellationPolicy.serdeName),
  ("deadline_enforced", .bool required.deadlineEnforced)]

def GnatRoutePolicy.toValue (policy : GnatRoutePolicy) : Value := .object [
  ("fa_local_owns_execution_routing", .bool policy.faLocalOwnsExecutionRouting),
  ("cortex_validates_receipts", .bool policy.cortexValidatesReceipts),
  ("retry_policy", .string policy.retryPolicy.serdeName)]

def GnatDispatchEnvelope.toValue (envelope : GnatDispatchEnvelope) : Value := .object [
  ("contract_version", .string envelope.contractVersion),
  ("correlation_id", envelope.correlationId.toValue),
  ("requester_service", .string envelope.requesterService),
  ("plan", envelope.plan.toValue),
  ("required_capabilities", envelope.requiredCapabilities.toValue),
  ("route_policy", envelope.routePolicy.toValue)]

/-! ## The schema -/

def isLowerHex (c : Char) : Bool := c.isDigit || ('a' ≤ c && c ≤ 'f')

namespace GnatDispatchEnvelopeSchema

open Schema

def workerType : Schema := enum ["markdown_syntax", "plain_text_syntax", "pdf_text_syntax",
  "docx_text_syntax", "rtf_text_syntax", "odt_text_syntax", "epub_text_syntax"]

def digest : List (Char → Bool) := List.replicate 64 isLowerHex

def shard : Schema := object [
  ("shard_id", text 1 160),
  ("ordinal", integer 0 255),
  ("worker_type", workerType),
  ("source_ref", text 1 160),
  ("source_fingerprint_digest", checked fun s => matchesShape digest s.toList),
  ("deadline_ms", integer 1 86400000)]

def executionLimits : Schema := object [
  ("requested_concurrency", integer 1 8),
  ("max_concurrency", integer 1 8),
  ("deadline_ms", integer 1 86400000)]

def plan : Schema := object [
  ("contract_version", enum ["GnatRunPlan.v1"]),
  ("run_id", text 1 120),
  ("plan_hash", checked fun s =>
    matchesShape ("sha256:".toList.map (fun c d => c == d) ++ digest) s.toList),
  ("operation", enum ["syntax_extract"]),
  ("expected_receipt_schema", enum ["gnat-worker-receipt.schema.json"]),
  ("shard_count", integer 1 256),
  ("shards", allOf [arrayOf shard, itemCount fun n => decide (1 ≤ n) && decide (n ≤ 256)]),
  ("execution_limits", executionLimits),
  ("serial_fallback_allowed", boolean)]

def requiredCapabilities : Schema := object [
  ("supported_contract_versions", allOf [
    arrayOf (enum ["GnatDispatchEnvelope.v1", "GnatRunPlan.v1", "GnatWorkerReceipt.v1"]),
    itemCount fun n => decide (1 ≤ n) && decide (n ≤ 8), uniqueTexts]),
  ("worker_types", allOf [arrayOf workerType,
    itemCount fun n => decide (1 ≤ n) && decide (n ≤ 7), uniqueTexts]),
  ("cancellation_policy", enum ["cancel_remaining_shards", "finish_in_flight_only"]),
  ("deadline_enforced", constBool true)]

def routePolicy : Schema := object [
  ("fa_local_owns_execution_routing", constBool true),
  ("cortex_validates_receipts", constBool true),
  ("retry_policy", enum ["infrastructure_only"])]

/-- `gnat-dispatch-envelope.schema.json` -/
def gnatDispatchEnvelope : Schema := allOf [
  object [
    ("contract_version", enum ["GnatDispatchEnvelope.v1"]),
    ("correlation_id", checked isUuidText),
    ("requester_service", enum ["cortex"]),
    ("plan", plan),
    ("required_capabilities", requiredCapabilities),
    ("route_policy", routePolicy)],
  lacks ["raw_content_preview", "workflow_id", "executor"]]

end GnatDispatchEnvelopeSchema

/-- The schema takes an envelope. -/
def GnatDispatchEnvelope.Accepted (envelope : GnatDispatchEnvelope) : Prop :=
  GnatDispatchEnvelopeSchema.gnatDispatchEnvelope envelope.toValue = true

instance : DecidablePred GnatDispatchEnvelope.Accepted := fun envelope =>
  inferInstanceAs
    (Decidable (GnatDispatchEnvelopeSchema.gnatDispatchEnvelope envelope.toValue = true))

/-! ## What the schema asks of an envelope -/

/-- A number in decimal digits is read back. -/
theorem Schema.decimal_toString (n : Nat) : Schema.decimal (toString n).toList = some n := by
  have hdigits : (Nat.toDigits 10 n).all Char.isDigit = true := by
    rw [List.all_eq_true]
    exact fun c hc => Nat.isDigit_of_mem_toDigits (by decide) (by decide) hc
  have hsome : (Nat.toDigits 10 n).isEmpty = false := by
    rw [List.isEmpty_eq_false_iff]
    exact Nat.toDigits_ne_nil
  rw [Nat.toString_eq_repr, Nat.toList_repr, Schema.decimal, hdigits, hsome]
  exact congrArg some Nat.ofDigitChars_ten_toDigits

theorem Schema.integer_natValue {minimum maximum n : Nat} :
    Schema.integer minimum maximum (natValue n) = true ↔ minimum ≤ n ∧ n ≤ maximum := by
  rw [natValue, Schema.integer, Schema.decimal_toString]
  simp

namespace GnatDispatchEnvelopeSchema

open Schema

structure ShardFits (s : GnatDispatchShard) : Prop where
  shardId : 1 ≤ s.shardId.toList.length ∧ s.shardId.toList.length ≤ 160
  ordinal : s.ordinal.toNat ≤ 255
  sourceRef : 1 ≤ s.sourceRef.toList.length ∧ s.sourceRef.toList.length ≤ 160
  digest : matchesShape digest s.sourceFingerprintDigest.toList = true
  deadlineMs : 1 ≤ s.deadlineMs.toNat ∧ s.deadlineMs.toNat ≤ 86400000

theorem workerType_accepted (t : GnatWorkerType) : workerType (.string t.serdeName) = true := by
  cases t <;> decide

theorem shard_accepted_iff {s : GnatDispatchShard} :
    shard s.toValue = true ↔ ShardFits s := by
  have hkeys : ["shard_id", "ordinal", "worker_type", "source_ref", "source_fingerprint_digest",
      "deadline_ms"].Nodup := by
    decide
  rw [shard, GnatDispatchShard.toValue]
  refine (object_iff (by exact rfl) (by exact hkeys)).trans ?_
  simp only [List.forall₂_cons, integer_natValue, workerType_accepted, text, checked,
    Bool.and_eq_true, decide_eq_true_eq, List.forall₂_nil_left_iff, and_true, true_and,
    Nat.zero_le]
  constructor
  · rintro ⟨h₁, h₂, h₃, h₄, h₅⟩
    exact ⟨h₁, h₂, h₃, h₄, h₅⟩
  · intro h
    exact ⟨h.shardId, h.ordinal, h.sourceRef, h.digest, h.deadlineMs⟩

structure LimitsFit (limits : GnatExecutionLimits) : Prop where
  requestedConcurrency : 1 ≤ limits.requestedConcurrency.toNat ∧
    limits.requestedConcurrency.toNat ≤ 8
  maxConcurrency : 1 ≤ limits.maxConcurrency.toNat ∧ limits.maxConcurrency.toNat ≤ 8
  deadlineMs : 1 ≤ limits.deadlineMs.toNat ∧ limits.deadlineMs.toNat ≤ 86400000

theorem limits_accepted_iff {limits : GnatExecutionLimits} :
    executionLimits limits.toValue = true ↔ LimitsFit limits := by
  have hkeys : ["requested_concurrency", "max_concurrency", "deadline_ms"].Nodup := by decide
  rw [executionLimits, GnatExecutionLimits.toValue]
  refine (object_iff (by exact rfl) (by exact hkeys)).trans ?_
  simp only [List.forall₂_cons, integer_natValue, List.forall₂_nil_left_iff, and_true]
  constructor
  · rintro ⟨h₁, h₂, h₃⟩
    exact ⟨h₁, h₂, h₃⟩
  · intro h
    exact ⟨h.requestedConcurrency, h.maxConcurrency, h.deadlineMs⟩

structure PlanFits (p : GnatDispatchPlan) : Prop where
  contractVersion : p.contractVersion = "GnatRunPlan.v1"
  runId : 1 ≤ p.runId.toList.length ∧ p.runId.toList.length ≤ 120
  planHash : matchesShape ("sha256:".toList.map (fun c d => c == d) ++ digest)
    p.planHash.toList = true
  operation : p.operation = "syntax_extract"
  expectedReceiptSchema : p.expectedReceiptSchema = "gnat-worker-receipt.schema.json"
  shardCount : 1 ≤ p.shardCount.toNat ∧ p.shardCount.toNat ≤ 256
  shards : ∀ s ∈ p.shards, ShardFits s
  shardsCounted : 1 ≤ p.shards.length ∧ p.shards.length ≤ 256
  limits : LimitsFit p.executionLimits

theorem const_iff {expected actual : String} :
    enum [expected] (.string actual) = true ↔ actual = expected := by
  simp [enum, checked]

theorem plan_accepted_iff {p : GnatDispatchPlan} : plan p.toValue = true ↔ PlanFits p := by
  have hkeys : ["contract_version", "run_id", "plan_hash", "operation", "expected_receipt_schema",
      "shard_count", "shards", "execution_limits", "serial_fallback_allowed"].Nodup := by
    decide
  have hshards : allOf [arrayOf shard, itemCount fun n => decide (1 ≤ n) && decide (n ≤ 256)]
      (.array (p.shards.map (·.toValue))) = true ↔
      (∀ s ∈ p.shards, ShardFits s) ∧ 1 ≤ p.shards.length ∧ p.shards.length ≤ 256 := by
    simp [allOf, arrayOf, itemCount, shard_accepted_iff]
  rw [plan, GnatDispatchPlan.toValue]
  refine (object_iff (by exact rfl) (by exact hkeys)).trans ?_
  simp only [List.forall₂_cons, const_iff, integer_natValue, hshards, limits_accepted_iff,
    boolean, text, checked, Bool.and_eq_true, decide_eq_true_eq, List.forall₂_nil_left_iff,
    and_true]
  constructor
  · rintro ⟨h₁, h₂, h₃, h₄, h₅, h₆, h₇, h₈⟩
    exact ⟨h₁, h₂, h₃, h₄, h₅, h₆, h₇.1, h₇.2, h₈⟩
  · intro h
    exact ⟨h.contractVersion, h.runId, h.planHash, h.operation, h.expectedReceiptSchema,
      h.shardCount, ⟨h.shards, h.shardsCounted⟩, h.limits⟩

structure RequiredFits (required : GnatRequiredCapabilities) : Prop where
  versions : ∀ v ∈ required.supportedContractVersions,
    v ∈ ["GnatDispatchEnvelope.v1", "GnatRunPlan.v1", "GnatWorkerReceipt.v1"]
  versionsCounted : 1 ≤ required.supportedContractVersions.length ∧
    required.supportedContractVersions.length ≤ 8
  versionsUnique : required.supportedContractVersions.Nodup
  workersCounted : 1 ≤ required.workerTypes.length ∧ required.workerTypes.length ≤ 7
  workersUnique : required.workerTypes.Nodup
  deadlineEnforced : required.deadlineEnforced = true

theorem worker_serdeName_inj : Function.Injective GnatWorkerType.serdeName := by
  intro t t' h
  cases t <;> cases t' <;> first | rfl | exact absurd h (by decide)

theorem uniqueTexts_iff {texts : List String} :
    uniqueTexts (.array (texts.map .string)) = true ↔ texts.Nodup := by
  have hsome : textOf ∘ Value.string = some := rfl
  rw [uniqueTexts, List.filterMap_map, decide_eq_true_eq, hsome, List.filterMap_some]

theorem required_accepted_iff {required : GnatRequiredCapabilities} :
    requiredCapabilities required.toValue = true ↔ RequiredFits required := by
  have hkeys : ["supported_contract_versions", "worker_types", "cancellation_policy",
      "deadline_enforced"].Nodup := by
    decide
  have hversions : allOf [
      arrayOf (enum ["GnatDispatchEnvelope.v1", "GnatRunPlan.v1", "GnatWorkerReceipt.v1"]),
      itemCount fun n => decide (1 ≤ n) && decide (n ≤ 8), uniqueTexts]
      (.array (required.supportedContractVersions.map .string)) = true ↔
      (∀ v ∈ required.supportedContractVersions,
        v ∈ ["GnatDispatchEnvelope.v1", "GnatRunPlan.v1", "GnatWorkerReceipt.v1"]) ∧
      (1 ≤ required.supportedContractVersions.length ∧
        required.supportedContractVersions.length ≤ 8) ∧
      required.supportedContractVersions.Nodup := by
    simp only [allOf, List.all_cons, List.all_nil, uniqueTexts_iff, arrayOf, itemCount,
      List.length_map, List.all_map, Bool.and_eq_true, decide_eq_true_eq, List.all_eq_true,
      Function.comp_apply, enum, checked, List.contains_iff_mem, Bool.and_true]
  have hworkers : allOf [arrayOf workerType,
      itemCount fun n => decide (1 ≤ n) && decide (n ≤ 7), uniqueTexts]
      (.array (required.workerTypes.map fun t => .string t.serdeName)) = true ↔
      (1 ≤ required.workerTypes.length ∧ required.workerTypes.length ≤ 7) ∧
      required.workerTypes.Nodup := by
    have hunique : uniqueTexts (.array (required.workerTypes.map fun t => .string t.serdeName)) =
        true ↔ required.workerTypes.Nodup := by
      rw [← List.nodup_map_iff worker_serdeName_inj, ← uniqueTexts_iff, List.map_map]
      rfl
    simp only [allOf, List.all_cons, List.all_nil, hunique, arrayOf, itemCount,
      List.length_map, List.all_map, Bool.and_eq_true, decide_eq_true_eq, List.all_eq_true,
      Function.comp_apply, workerType_accepted, implies_true, true_and, Bool.and_true]
  have hpolicy : enum ["cancel_remaining_shards", "finish_in_flight_only"]
      (.string required.cancellationPolicy.serdeName) = true := by
    cases required.cancellationPolicy <;> decide
  rw [requiredCapabilities, GnatRequiredCapabilities.toValue]
  refine (object_iff (by exact rfl) (by exact hkeys)).trans ?_
  simp only [List.forall₂_cons, hversions, hworkers, hpolicy, constBool, beq_iff_eq,
    List.forall₂_nil_left_iff, and_true, true_and]
  constructor
  · rintro ⟨h₁, h₂, h₃⟩
    exact ⟨h₁.1, h₁.2.1, h₁.2.2, h₂.1, h₂.2, h₃⟩
  · intro h
    exact ⟨⟨h.versions, h.versionsCounted, h.versionsUnique⟩,
      ⟨h.workersCounted, h.workersUnique⟩, h.deadlineEnforced⟩

/-- What it asks of an envelope; of the shards of a plan it only asks what they are one
by one, and how many. -/
structure EnvelopeFits (e : GnatDispatchEnvelope) : Prop where
  contractVersion : e.contractVersion = "GnatDispatchEnvelope.v1"
  correlationId : e.correlationId.Versioned
  requesterService : e.requesterService = "cortex"
  plan : PlanFits e.plan
  required : RequiredFits e.requiredCapabilities
  routing : e.routePolicy = ⟨true, true, .infrastructureOnly⟩

theorem routing_accepted_iff {policy : GnatRoutePolicy} :
    routePolicy policy.toValue = true ↔ policy = ⟨true, true, .infrastructureOnly⟩ := by
  obtain ⟨owns, validates, retry⟩ := policy
  cases owns <;> cases validates <;> cases retry <;> decide

theorem envelope_accepted_iff {e : GnatDispatchEnvelope} : e.Accepted ↔ EnvelopeFits e := by
  have hkeys : ["contract_version", "correlation_id", "requester_service", "plan",
      "required_capabilities", "route_policy"].Nodup := by
    decide
  have hlacks : lacks ["raw_content_preview", "workflow_id", "executor"] e.toValue = true := rfl
  have hall : ∀ schema : Schema, allOf [schema,
      lacks ["raw_content_preview", "workflow_id", "executor"]] e.toValue = true ↔
      schema e.toValue = true := by
    intro schema
    simp [allOf, hlacks]
  rw [GnatDispatchEnvelope.Accepted, gnatDispatchEnvelope, hall, GnatDispatchEnvelope.toValue]
  refine (object_iff (by exact rfl) (by exact hkeys)).trans ?_
  simp only [List.forall₂_cons, const_iff, plan_accepted_iff, required_accepted_iff,
    routing_accepted_iff, checked, UuidId.toValue, List.forall₂_nil_left_iff, and_true]
  constructor
  · rintro ⟨h₁, h₂, h₃, h₄, h₅, h₆⟩
    exact ⟨h₁, h₂, h₃, h₄, h₅, h₆⟩
  · intro h
    exact ⟨h.contractVersion, h.correlationId, h.requesterService, h.plan, h.required,
      h.routing⟩

end GnatDispatchEnvelopeSchema

end FaLocal
