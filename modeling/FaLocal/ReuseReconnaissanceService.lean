import FaLocal.Coordination
import FaLocal.DeliveryLaws
import FaLocal.Library.Keyed
import FaLocal.Library.Traced
import FaLocal.ReconnaissanceEngine

/-!
# The reconnaissance service

`ReuseReconnaissanceService::run`: five components are asked before the sealed corpus is
read once. The reading adapter may answer anything; the log keeps its calls.
-/
namespace FaLocal

structure SealedCorpusReadRequest where
  allowedRoot : String
  manifestRelativePath : String
  maxTotalBytes : UInt64
  deriving DecidableEq

structure SealedCorpusReadReceipt where
  corpusId : String
  aggregateSha256 : String
  memberCount : Nat
  totalBytes : UInt64
  documents : List CorpusDocument
  deriving DecidableEq

/-- One call of the adapter, with its answer. -/
structure SealedCorpusRead where
  request : SealedCorpusReadRequest
  answer : Except FaLocalError SealedCorpusReadReceipt

/-- What the adapter answers, given all the calls before. -/
abbrev SealedCorpusReadAdapter :=
  List SealedCorpusRead → SealedCorpusReadRequest → Except FaLocalError SealedCorpusReadReceipt

structure ReuseReconnaissanceRun where
  corpusReceipt : SealedCorpusReadReceipt
  result : ReuseReconnaissanceResult
  executionTrace : ExecutionTrace

namespace ReuseReconnaissanceService

def validateCp1PlanShape (plan : ExecutionPlan) (input : ReuseReconnaissanceInput) :
    FaLocalResult Unit := do
  require (plan.steps.map (·.stepId) == fraaCp1StepIds)
    "FRAA CP1 execution plan does not match the authorized six-step sequence"
  require (!(plan.completionPolicy != .allStepsMustSucceed || !plan.fallbackReferences.isEmpty ||
      plan.referencedCapabilities != [input.capabilityId] ||
      plan.declaredSideEffectClasses != [.none] ||
      plan.steps.any fun step => step.capabilityId != input.capabilityId ||
        step.declaredSideEffectClass != .none))
    "FRAA CP1 execution plan broadens capability, side effect, or fallback scope"

section
variable (tools : FraaTools) (digest : PlanDigest) (utcNow : TimestampUtc)
  (input : ReuseReconnaissanceInput) (routeDecision : RouteDecision) (plan : ExecutionPlan)
  (registry : CapabilityRegistry) (corpusRoot : String) (adapter : SealedCorpusReadAdapter)
  (context : CoordinationContext)

/-- Everything in `run` that stands in front of the read. -/
def admission : FaLocalResult ValidatedExecutionPlan := do
  input.validateAuthorityBoundary
  match registry.capabilityFor input.capabilityId with
  | none => .error (contractInvalid "FRAA input references an unregistered read capability")
  | some capability => do
    require (capability.capabilityType == .localFileRead && capability.sideEffectClass == .none)
      "FRAA CP1 requires an explicit local_file_read capability with side_effect_class none"
    let validatedPlan ← (ExecutionPlanValidator.validate digest utcNow plan registry).mapError
      fun guard => Abort.returned (.denied guard)
    validateCp1PlanShape plan input
    require (routeDecision.resolvedApprovalPosture == .policyPreapproved &&
        routeDecision.executionAllowed)
      "FRAA CP1 route must be policy_preapproved and executable"
    let routingInput ← RoutingInput.new routeDecision (some validatedPlan)
    let selectedRoute ← RoutingService.selectRoute routingInput
    require selectedRoute.executable
      "FRAA CP1 routing did not select an executable bounded route"
    return validatedPlan

def corpusRequest : SealedCorpusReadRequest where
  allowedRoot := corpusRoot
  manifestRelativePath := input.corpusManifestPath
  maxTotalBytes := 1024 * 1024

/-- `adapter.read_candidate_visible(&request)` -/
def readCandidateVisible (request : SealedCorpusReadRequest) :
    Traced SealedCorpusRead Abort (Except FaLocalError SealedCorpusReadReceipt) :=
  Traced.perform fun log => (⟨request, adapter log request⟩, adapter log request)

/-- Everything in `run` that stands behind the read. -/
def conclude (validatedPlan : ValidatedExecutionPlan)
    (answer : Except FaLocalError SealedCorpusReadReceipt) :
    FaLocalResult ReuseReconnaissanceRun := do
  let corpusReceipt ← loaded answer
  let result ← analyze tools input corpusReceipt.aggregateSha256 corpusReceipt.documents
  let coordinationInput ←
    CoordinationInput.new routeDecision (some validatedPlan) .completeDeclaredPlan context
  let executionTrace ← ExecutionService.coordinate coordinationInput
  return { corpusReceipt, result, executionTrace }

def run : Traced SealedCorpusRead Abort ReuseReconnaissanceRun := do
  let validatedPlan ← Traced.lift (admission digest utcNow input routeDecision plan registry)
  let answer ← readCandidateVisible adapter (corpusRequest input corpusRoot)
  Traced.lift (conclude tools input routeDecision context validatedPlan answer)

end

/-! ## In front of the read -/

/-- The input, the registry, the plan and the route allow one read of the corpus. -/
structure Authorized (digest : PlanDigest) (input : ReuseReconnaissanceInput)
    (routeDecision : RouteDecision) (plan : ExecutionPlan) (registry : CapabilityRegistry) :
    Prop where
  authority : AuthorityDenied input
  capability : ∃ capability, registry.capabilityFor input.capabilityId = some capability ∧
    capability.capabilityType = .localFileRead ∧ capability.sideEffectClass = .none
  accepted : ExecutionPlanValidator.Accepted digest plan registry
  steps : plan.steps.map (·.stepId) = fraaCp1StepIds
  stepCapability : ∀ step ∈ plan.steps, step.capabilityId = input.capabilityId
  stepEffect : ∀ step ∈ plan.steps, step.declaredSideEffectClass = .none
  referenced : plan.referencedCapabilities = [input.capabilityId]
  effects : plan.declaredSideEffectClasses = [.none]
  fallbacks : plan.fallbackReferences = []
  completion : plan.completionPolicy = .allStepsMustSucceed
  preapproved : routeDecision.resolvedApprovalPosture = .policyPreapproved
  executable : routeDecision.executionAllowed = true
  unreviewed : routeDecision.reviewRequired = false ∧
    routeDecision.explicitApprovalRequired = false
  correlation : plan.correlationId = routeDecision.correlationId
  request : plan.originatingRequestId = routeDecision.requestId
  requested : routeDecision.capabilityDecisionSummary.requestedCapabilityId = input.capabilityId

section
variable {digest : PlanDigest} {utcNow : TimestampUtc} {input : ReuseReconnaissanceInput}
  {routeDecision : RouteDecision} {plan : ExecutionPlan} {registry : CapabilityRegistry}
  {v : ValidatedExecutionPlan}

theorem validateCp1PlanShape_eq_ok :
    validateCp1PlanShape plan input = .ok () ↔
      plan.steps.map (·.stepId) = fraaCp1StepIds ∧
      plan.completionPolicy = .allStepsMustSucceed ∧ plan.fallbackReferences = [] ∧
      plan.referencedCapabilities = [input.capabilityId] ∧
      plan.declaredSideEffectClasses = [.none] ∧
      ∀ step ∈ plan.steps, step.capabilityId = input.capabilityId ∧
        step.declaredSideEffectClass = .none := by
  rw [validateCp1PlanShape, seq_eq_ok, require_eq_ok, require_eq_ok]
  simp [and_assoc]

theorem Authorized.matches (h : Authorized digest input routeDecision plan registry)
    (stablePlanHash : String) : Matches routeDecision ⟨plan, stablePlanHash⟩ where
  flags := by
    refine ⟨?_, ?_, ?_⟩
    · rw [h.executable, h.preapproved]
      rfl
    · simp [h.preapproved, h.unreviewed]
    · simp [h.preapproved, h.unreviewed]
  correlationId := h.correlation
  requestId := h.request
  requested := by
    rw [h.referenced, h.requested]
    exact List.mem_singleton_self _

/-- The read is reached exactly with the authorization. The route's capability is the
input's because the plan references no other one. -/
theorem admission_eq_ok :
    admission digest utcNow input routeDecision plan registry = .ok v ↔
      Authorized digest input routeDecision plan registry ∧
        v = ⟨plan, ExecutionPlanValidator.computeStablePlanHash digest plan⟩ := by
  constructor
  · intro h
    rw [admission, seq_eq_ok, validateAuthorityBoundary_eq_ok] at h
    obtain ⟨hauthority, h⟩ := h
    cases hcapability : registry.capabilityFor input.capabilityId with
    | none =>
      rw [hcapability] at h
      cases h
    | some capability =>
      simp only [hcapability] at h
      rw [seq_eq_ok, require_eq_ok, bind_eq_ok] at h
      obtain ⟨hkind, validated, hvalidated, h⟩ := h
      obtain ⟨haccepted, rfl⟩ := ExecutionPlanValidator.validate_eq_ok.mp
        (mapError_eq_ok.mp hvalidated)
      rw [seq_eq_ok, seq_eq_ok, require_eq_ok, validateCp1PlanShape_eq_ok, bind_eq_ok] at h
      obtain ⟨⟨hsteps, hcompletion, hfallbacks, hreferenced, heffects, hstep⟩, hroute, routingInput,
        hrouting, h⟩ := h
      simp only [Bool.and_eq_true, beq_iff_eq] at hkind hroute
      have hadmitted : routeDecision.resolvedApprovalPosture.admitted = true := by
        rw [hroute.1]
        rfl
      obtain ⟨hmatches, rfl⟩ := (RoutingInput.new_eq_ok hadmitted).mp hrouting
      rw [RoutingService.selectRoute_of_admitted hadmitted] at h
      cases h
      have hrequested := hmatches.requested
      rw [hreferenced, List.mem_singleton] at hrequested
      exact ⟨{
        authority := hauthority
        capability := ⟨capability, hcapability, hkind⟩
        accepted := haccepted
        steps := hsteps
        stepCapability := fun step hmem => (hstep step hmem).1
        stepEffect := fun step hmem => (hstep step hmem).2
        referenced := hreferenced
        effects := heffects
        fallbacks := hfallbacks
        completion := hcompletion
        preapproved := hroute.1
        executable := hroute.2
        unreviewed := by simpa [hroute.1] using And.intro hmatches.flags.review hmatches.flags.approval
        correlation := hmatches.correlationId
        request := hmatches.requestId
        requested := hrequested }, rfl⟩
  · rintro ⟨h, rfl⟩
    obtain ⟨capability, hcapability, hread, hnone⟩ := h.capability
    have hadmitted : routeDecision.resolvedApprovalPosture.admitted = true := by
      rw [h.preapproved]
      rfl
    have hshape : validateCp1PlanShape plan input = .ok () :=
      validateCp1PlanShape_eq_ok.mpr ⟨h.steps, h.completion, h.fallbacks, h.referenced, h.effects,
        fun step hmem => ⟨h.stepCapability step hmem, h.stepEffect step hmem⟩⟩
    have hvalid : ExecutionPlanValidator.validate digest utcNow plan registry =
        .ok ⟨plan, ExecutionPlanValidator.computeStablePlanHash digest plan⟩ :=
      ExecutionPlanValidator.validate_eq_ok.mpr ⟨h.accepted, rfl⟩
    have hrouting : RoutingInput.new routeDecision
        (some ⟨plan, ExecutionPlanValidator.computeStablePlanHash digest plan⟩) = .ok _ :=
      (RoutingInput.new_eq_ok hadmitted).mpr ⟨h.matches _, rfl⟩
    rw [admission, seq_eq_ok, validateAuthorityBoundary_eq_ok]
    refine ⟨h.authority, ?_⟩
    simp only [hcapability]
    rw [seq_eq_ok, require_eq_ok, hread, hnone, bind_eq_ok]
    refine ⟨rfl, _, mapError_eq_ok.mpr hvalid, ?_⟩
    rw [seq_eq_ok, seq_eq_ok, require_eq_ok, h.preapproved, h.executable, bind_eq_ok]
    refine ⟨hshape, rfl, _, hrouting, ?_⟩
    rw [RoutingService.selectRoute_of_admitted hadmitted]
    rfl

end

/-! ## The run -/

section
variable {tools : FraaTools} {digest : PlanDigest} {utcNow : TimestampUtc}
  {input : ReuseReconnaissanceInput} {routeDecision : RouteDecision} {plan : ExecutionPlan}
  {registry : CapabilityRegistry} {corpusRoot : String} {adapter : SealedCorpusReadAdapter}
  {context : CoordinationContext} {log out : List SealedCorpusRead}
  {r : Except Abort ReuseReconnaissanceRun} {run' : ReuseReconnaissanceRun}

/-- The corpus is read once, behind everything that is checked in front. -/
theorem run_apply :
    run tools digest utcNow input routeDecision plan registry corpusRoot adapter context log =
      match admission digest utcNow input routeDecision plan registry with
      | .error e => (.error e, log)
      | .ok validatedPlan =>
        (conclude tools input routeDecision context validatedPlan
            (adapter log (corpusRequest input corpusRoot)),
          log ++ [⟨corpusRequest input corpusRoot,
            adapter log (corpusRequest input corpusRoot)⟩]) := by
  rw [run]
  cases admission digest utcNow input routeDecision plan registry <;> rfl

/-- What a concluded run has shown. -/
theorem conclude_eq_ok {v : ValidatedExecutionPlan}
    {answer : Except FaLocalError SealedCorpusReadReceipt}
    (hadmitted : routeDecision.resolvedApprovalPosture.admitted = true)
    (h : conclude tools input routeDecision context v answer = .ok run') :
    answer = .ok run'.corpusReceipt ∧
      analyze tools input run'.corpusReceipt.aggregateSha256 run'.corpusReceipt.documents =
        .ok run'.result ∧
      ExecutionService.traceStates run'.executionTrace = (.admittedNotStarted, none) ::
        (v.plan.steps.map (·.stepId)).map (fun stepId => (.inProgress, some stepId)) ++
        [(.completed, none)] := by
  simp only [conclude, bind_eq_ok] at h
  obtain ⟨corpusReceipt, hanswer, result, hresult, coordinationInput, hinput, trace, htrace, hrun⟩ := h
  cases hrun
  rw [CoordinationInput.new_fields hinput,
    ExecutionService.coordinate_of_admitted hadmitted] at htrace
  exact ⟨loaded_eq_ok.mp hanswer, hresult, ExecutionService.completed_states htrace⟩

/-- The corpus is read at most once, and only with the authorization. A run that returns
has read it: the aggregate is the one that the input is bound to, the result passes its
contract when it is loaded again, and the trace is that of the six steps. -/
theorem run_authorized (tools : FraaTools) (digest : PlanDigest) (utcNow : TimestampUtc)
    (input : ReuseReconnaissanceInput) (routeDecision : RouteDecision) (plan : ExecutionPlan)
    (registry : CapabilityRegistry) (corpusRoot : String) (adapter : SealedCorpusReadAdapter)
    (context : CoordinationContext) (log out : List SealedCorpusRead)
    (r : Except Abort ReuseReconnaissanceRun) (hserde : tools.ReadsBack)
    (h : run tools digest utcNow input routeDecision plan registry corpusRoot adapter context log =
      (r, out)) :
    (out = log ∨ Authorized digest input routeDecision plan registry ∧
      ∃ answer, out = log ++ [⟨corpusRequest input corpusRoot, answer⟩]) ∧
    ∀ returned, r = .ok returned →
      out = log ++ [⟨corpusRequest input corpusRoot, .ok returned.corpusReceipt⟩] ∧
      returned.corpusReceipt.aggregateSha256 = input.expectedCorpusAggregateSha256 ∧
      returned.result.corpusAggregateSha256 = input.expectedCorpusAggregateSha256 ∧
      ReuseReconnaissanceResult.loadContractValue tools returned.result.toValue =
        .ok returned.result ∧
      ExecutionService.traceStates returned.executionTrace = (.admittedNotStarted, none) ::
        fraaCp1StepIds.map (fun stepId => (.inProgress, some stepId)) ++ [(.completed, none)] := by
  rw [run_apply] at h
  cases hadmission : admission digest utcNow input routeDecision plan registry with
  | error e =>
    rw [hadmission] at h
    cases h
    exact ⟨.inl rfl, by rintro returned ⟨⟩⟩
  | ok v =>
    rw [hadmission] at h
    cases h
    obtain ⟨hauthorized, rfl⟩ := admission_eq_ok.mp hadmission
    refine ⟨.inr ⟨hauthorized, _, rfl⟩, fun returned hreturned => ?_⟩
    have hpreapproved : routeDecision.resolvedApprovalPosture.admitted = true := by
      rw [hauthorized.preapproved]
      rfl
    obtain ⟨hanswer, hresult, htrace⟩ := conclude_eq_ok hpreapproved hreturned
    obtain ⟨haggregate, draft, hfreeze, hdraft⟩ := analyze_eq_ok hresult
    have hkept : returned.result.corpusAggregateSha256 = draft.corpusAggregateSha256 := by
      rw [(freeze_eq_ok.mp hfreeze).1]
    rw [hauthorized.steps] at htrace
    exact ⟨by rw [hanswer], haggregate, hkept.trans (hdraft.trans haggregate),
      freeze_reloads hserde hfreeze, htrace⟩

end

end ReuseReconnaissanceService

/-! A sealed corpus of one donor and one topology, and the six steps that analyse it. -/

namespace Fixture

def targetBriefValue : Value := .object [
  ("kind", .string "target_brief"),
  ("application", .string "tarcie-reviewer"),
  ("repository_posture", .string "new_private_application"),
  ("separate_trust_actors_required", .bool true),
  ("required_capabilities", textsValue ["encrypted_local_outbox"]),
  ("authority", .object [
    ("topology_owner", .string "Forge"),
    ("operator_surface", .string "Forge_Command"),
    ("execution_owner", .string "fa-local-operator"),
    ("mutation_owner", .string "forge-smithy"),
    ("final_decision_owner", .string "operator")])]

def donorEvidenceValue : Value := .object [
  ("kind", .string "donor_evidence"),
  ("donors", .array [.object [
    ("capability_id", .string "legacy-tarcie-outbox"),
    ("source_repo", .string "forge/tarcie"),
    ("source_commit", .string "6e1be2f5"),
    ("source_paths", textsValue ["src/queue.rs"]),
    ("behavior_proven", .bool true),
    ("evidence_class", .string "source_review_only"),
    ("allowed_modes", textsValue ["bounded_extraction"]),
    ("prohibited_modes", textsValue ["vendoring"]),
    ("blockers", textsValue []),
    ("preserved_tests", textsValue ["claim_recovery"])]])]

def topologyOptionsValue : Value := .object [
  ("kind", .string "topology_options"),
  ("options", .array [.object [
    ("topology_id", .string "separate_deployables"),
    ("repository_posture", .string "new_private_application"),
    ("supports_new_application", .bool true),
    ("separate_trust_actors", .bool true),
    ("complexity_rank", .number "2"),
    ("deployables", textsValue ["apps/reviewer"]),
    ("hard_blockers", textsValue [])]])]

def constraintsValue : Value := .object [
  ("kind", .string "constraints"),
  ("critical_blockers", textsValue ["live_networking"]),
  ("verification_obligations", textsValue ["clean_build"])]

/-- The schema that accepts everything. -/
def schemaValue : Value := .object []

def jsonText (value : Value) : String := String.ofList value.compact

def jsonValues : List Value :=
  [schemaValue, constraintsValue, donorEvidenceValue, targetBriefValue, topologyOptionsValue]

/-- `serde` on the schema and the four documents, and the SHA-256 of the one result. -/
noncomputable def fraaTools : FraaTools where
  fromStr text :=
    (jsonValues.find? fun value => jsonText value == text).elim (.error "expected value") .ok
  targetBrief := fun _ => .ok {
    application := "tarcie-reviewer"
    repositoryPosture := "new_private_application"
    separateTrustActorsRequired := true
    requiredCapabilities := ["encrypted_local_outbox"]
    authority := {
      topologyOwner := "Forge"
      operatorSurface := "Forge_Command"
      executionOwner := "fa-local-operator"
      mutationOwner := "forge-smithy"
      finalDecisionOwner := "operator" } }
  donorEvidence := fun _ => .ok { donors := [{
    capabilityId := "legacy-tarcie-outbox"
    sourceRepo := "forge/tarcie"
    sourceCommit := "6e1be2f5"
    sourcePaths := ["src/queue.rs"]
    behaviorProven := true
    evidenceClass := .sourceReviewOnly
    allowedModes := [.boundedExtraction]
    prohibitedModes := [.vendoring]
    blockers := []
    preservedTests := ["claim_recovery"] }] }
  topologyOptions := fun _ => .ok { options := [{
    topologyId := "separate_deployables"
    repositoryPosture := "new_private_application"
    supportsNewApplication := true
    separateTrustActors := true
    complexityRank := 2
    deployables := ["apps/reviewer"]
    hardBlockers := [] }] }
  constraints := fun _ => .ok {
    criticalBlockers := ["live_networking"]
    verificationObligations := ["clean_build"] }
  reconnaissanceResult := Function.extend ReuseReconnaissanceResult.toValue .ok
    fun _ => .error "invalid type"
  schemaFile := fun _ => .ok (jsonText schemaValue)
  build := fun _ => .ok fun _ => []
  sha256Hex := fun _ => "6d5fc131a5c19a72ff21198d6f7d8884b2d7f005d09ef02cbfd02371d3992366"

theorem fraaTools_readsBack : fraaTools.ReadsBack := by
  intro result
  exact ReuseReconnaissanceResult.toValue_injective.extend_apply Except.ok
    (fun _ => Except.error "invalid type") result

/-- The texts of values differ if their characters do. -/
theorem jsonText_nodup {values : List Value} (h : (values.map Value.compact).Nodup) :
    (values.map jsonText).Nodup := by
  have htexts : values.map jsonText = (values.map Value.compact).map String.ofList := by
    rw [List.map_map]
    rfl
  rw [htexts]
  exact h.map fun compact compact' h => String.ofList_inj.mp h

theorem jsonTexts_nodup : (jsonValues.map jsonText).Nodup := jsonText_nodup (by decide +kernel)

/-- The texts differ, so each of them is read back as its own value. -/
theorem fraaTools_fromStr {value : Value} (h : value ∈ jsonValues) :
    fraaTools.fromStr (jsonText value) = .ok value := by
  simp only [fraaTools, Keyed.find?_of_mem jsonTexts_nodup h, Option.elim_some]

def corpusReceipt : SealedCorpusReadReceipt where
  corpusId := "tarcie-cp0-candidate-visible-v1"
  aggregateSha256 := "aa491bc820dff2ccc553be6f795599749ebc45d80f55ad1b7edc2e8f82955d6e"
  memberCount := 4
  totalBytes := 1080
  documents := [
    { relativePath := "constraints.json"
      sha256 := "742e5ad88bf62276b9ffdc1931663b0151d977203bc99aea5e323dcd767bd52e"
      sizeBytes := 105
      content := jsonText constraintsValue },
    { relativePath := "donor-evidence.json"
      sha256 := "ffe49b1d2f49e85766411a338ec2ca76b7ee6c07f2fdb0ff161ce9ccd03f03d1"
      sizeBytes := 349
      content := jsonText donorEvidenceValue },
    { relativePath := "target-brief.json"
      sha256 := "c85cf9c85d8ff674443572ee865595e232dcaf94e6025fc9984ff0b5cebbfb93"
      sizeBytes := 369
      content := jsonText targetBriefValue },
    { relativePath := "topology-options.json"
      sha256 := "f0c75b3b9183a1ae600a33c38cbcde72aa896135f53eb000ef5ab41a6a3f311e"
      sizeBytes := 257
      content := jsonText topologyOptionsValue }]

def reconnaissanceInput : ReuseReconnaissanceInput where
  schemaVersion := "FraaReconnaissanceInput.v0"
  runId := "fraa-tarcie-cp0-run-001"
  capabilityId := id .capability 7
  corpusManifestPath := "manifest.json"
  expectedCorpusAggregateSha256 := corpusReceipt.aggregateSha256
  targetApplication := "tarcie-reviewer"
  targetRepositoryPosture := .newPrivateApplication
  requiredCapabilities := ["encrypted_local_outbox"]
  prohibitedEffects := ["network_calls"]
  authority := {
    executionOwner := "fa-local-operator"
    networkAllowed := false
    modelAllowed := false
    repositoryMutationAllowed := false
    hiddenOracleAllowed := false }

def readCapabilities : CapabilityRegistry where
  registryVersion := "1.0.0"
  capabilities := [{ record with
    capabilityId := id .capability 7
    capabilityType := .localFileRead
    sideEffectClass := .none }]

def cp1Hash : String := "8e9140dd71e4d15e91ab8fade123db76ea1a04463176044948e9d436b4d9652c"

def cp1Digest : PlanDigest := digestOf cp1Hash (by decide +kernel)

def cp1Plan : ExecutionPlan where
  executionPlanId := id .executionPlan 9
  correlationId := id .correlation 6
  originatingRequestId := id .request 5
  steps := fraaCp1StepIds.map fun stepId =>
    { stepId := stepId
      capabilityId := id .capability 7
      declaredSideEffectClass := .none
      timeoutBudgetMs := 500 }
  referencedCapabilities := [id .capability 7]
  declaredMaxStepCount := 6
  declaredSideEffectClasses := [.none]
  fallbackReferences := []
  cancellationPolicy := .cancelRemainingSteps
  completionPolicy := .allStepsMustSucceed
  maxDurationBudgetMs := 5000
  stablePlanHash := cp1Hash
  plannedAtUtc := at2030 600

def cp1Decision : RouteDecision :=
  { decision with
    capabilityDecisionSummary := { decision.capabilityDecisionSummary with
      requestedCapabilityId := id .capability 7
      requestedSideEffectClass := .none }
    operatorVisibleSummary :=
      "request is policy preapproved for capability 77777777-7777-4777-8777-777777777777" }

theorem corpus_analyzed : (analyze fraaTools reconnaissanceInput corpusReceipt.aggregateSha256
    corpusReceipt.documents).isOk = true := by
  have hread : ∀ value ∈ jsonValues, fraaTools.fromStr (jsonText value) = .ok value :=
    fun value => fraaTools_fromStr
  simp only [jsonValues, List.forall_mem_cons] at hread
  obtain ⟨hschema, hconstraints, hdonors, hbrief, htopologies, -⟩ := hread
  simp only [analyze, corpusReceipt, List.foldlM_cons, readDocument, hconstraints, hdonors, hbrief,
    htopologies, ReuseReconnaissanceResult.freeze, validateFraaContract]
  decide +kernel

/-- The run over the sealed corpus, with the log that it leaves. -/
noncomputable def cp1Run : Except Abort ReuseReconnaissanceRun × List SealedCorpusRead :=
  ReuseReconnaissanceService.run fraaTools cp1Digest (at2030 600) reconnaissanceInput cp1Decision
    cp1Plan readCapabilities "candidate-visible" (fun _ _ => .ok corpusReceipt) coordination []

def cp1Validated : ValidatedExecutionPlan := ⟨cp1Plan, cp1Hash⟩

theorem cp1_admitted : ReuseReconnaissanceService.admission cp1Digest (at2030 600)
    reconnaissanceInput cp1Decision cp1Plan readCapabilities = .ok cp1Validated := by
  decide +kernel

theorem cp1_coordinated : (CoordinationInput.new cp1Decision (some cp1Validated)
    .completeDeclaredPlan coordination >>= ExecutionService.coordinate).isOk = true := by
  decide +kernel

theorem cp1Run_returns : ∃ returned, cp1Run.1 = .ok returned := by
  obtain ⟨result, hresult⟩ := exists_of_isOk corpus_analyzed
  obtain ⟨trace, hcoordinated⟩ := exists_of_isOk cp1_coordinated
  obtain ⟨coordinationInput, hinput, htrace⟩ := bind_eq_ok.mp hcoordinated
  refine ⟨⟨corpusReceipt, result, trace⟩, ?_⟩
  rw [cp1Run, ReuseReconnaissanceService.run_apply, cp1_admitted]
  simp only [ReuseReconnaissanceService.conclude, bind_eq_ok]
  exact ⟨corpusReceipt, rfl, result, hresult, coordinationInput, hinput, trace, htrace, rfl⟩

end Fixture

namespace ReuseReconnaissanceService

theorem run_authorized_fixture : ∃ returned, Fixture.cp1Run.1 = .ok returned ∧
    Authorized Fixture.cp1Digest Fixture.reconnaissanceInput Fixture.cp1Decision Fixture.cp1Plan
      Fixture.readCapabilities ∧
    returned.result.corpusAggregateSha256 = Fixture.corpusReceipt.aggregateSha256 ∧
    ReuseReconnaissanceResult.loadContractValue Fixture.fraaTools returned.result.toValue =
      .ok returned.result ∧
    ExecutionService.traceStates returned.executionTrace = [
      (.admittedNotStarted, none),
      (.inProgress, some "validate_sealed_manifest"),
      (.inProgress, some "read_candidate_visible"),
      (.inProgress, some "normalize_evidence"),
      (.inProgress, some "classify_donor_capabilities"),
      (.inProgress, some "select_topology"),
      (.inProgress, some "freeze_reconnaissance_result"),
      (.completed, none)] := by
  obtain ⟨hread, hreturned⟩ := run_authorized Fixture.fraaTools Fixture.cp1Digest
    (Fixture.at2030 600) Fixture.reconnaissanceInput Fixture.cp1Decision Fixture.cp1Plan
    Fixture.readCapabilities "candidate-visible" (fun _ _ => .ok Fixture.corpusReceipt)
    Fixture.coordination [] Fixture.cp1Run.2 Fixture.cp1Run.1 Fixture.fraaTools_readsBack
    (Prod.mk.eta (p := Fixture.cp1Run)).symm
  obtain ⟨returned, hrun⟩ := Fixture.cp1Run_returns
  obtain ⟨hlog, -, hresult, hreload, htrace⟩ := hreturned returned hrun
  rcases hread with hnone | ⟨hauthorized, -⟩
  · rw [hnone] at hlog
    cases hlog
  · exact ⟨returned, hrun, hauthorized, hresult, hreload, htrace⟩

end ReuseReconnaissanceService

end FaLocal
