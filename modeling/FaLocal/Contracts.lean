import FaLocal.Vocabulary

/-!
# Contract records

The typed values that requests, requester envelopes, policies, capability
registries and execution plans are loaded into, and the loading boundary.
-/
namespace FaLocal

/-! ## JSON and loading -/

/-- A JSON value; numbers keep their text. -/
inductive Value where
  | null : Value
  | bool : Bool → Value
  | number : String → Value
  | string : String → Value
  | array : List Value → Value
  | object : List (String × Value) → Value

def Value.isObject : Value → Bool
  | .object _ => true
  | _ => false

/-- `Value::get` by key. -/
def Value.get : Value → String → Option Value
  | .object fields, key => fields.lookup key
  | _, _ => none

inductive RequestIntent where
  | executeCapability
  deriving DecidableEq

structure ExecutionRequest where
  requestId : RequestId
  correlationId : CorrelationId
  requesterId : RequesterId
  environmentMode : EnvironmentMode
  requestedCapabilityId : CapabilityId
  requestedSideEffectClass : SideEffectClass
  intent : RequestIntent
  intentSummary : String
  requestedAt : TimestampUtc
  deriving DecidableEq

/-! ## Requester trust -/

structure AppContext where
  appId : String
  appVersion : String
  installationId : Uuid
  deriving DecidableEq

inductive TrustBasis where
  | signedLocalSurface | internalServiceToken | reviewMediation | developmentFixture
  deriving DecidableEq

inductive TrustBasisProvenance where
  | signedManifest | operatorConfiguration | runtimeAttestation | testFixture
  deriving DecidableEq

inductive UserIntentBasis where
  | explicitUserAction | operatorApproval
  deriving DecidableEq

structure RequesterTrustEnvelope where
  requesterId : RequesterId
  requesterClass : RequesterClass
  appContext : AppContext
  environmentMode : EnvironmentMode
  trustBasis : TrustBasis
  trustBasisProvenance : TrustBasisProvenance
  userIntentBasis : Option UserIntentBasis
  requestNonceOrToken : String
  issuedAt : TimestampUtc
  expiresAt : TimestampUtc
  deriving DecidableEq

/-! ## Policy -/

structure PolicyScope where
  serviceId : String
  environmentModes : List EnvironmentMode
  deriving DecidableEq

structure CapabilityRule where
  capabilityId : CapabilityId
  allowed : Bool
  allowedRequesterClasses : List RequesterClass
  allowedSideEffectClasses : List SideEffectClass
  requiredApprovalPosture : ApprovalPosture
  deriving DecidableEq

structure SideEffectRule where
  sideEffectClass : SideEffectClass
  allowed : Bool
  deriving DecidableEq

structure ApprovalRule where
  requesterClass : RequesterClass
  maxPosture : ApprovalPosture
  deriving DecidableEq

inductive DependencyReadinessCondition where
  | allDependenciesReady
  deriving DecidableEq

inductive FailureBehavior where
  | deny
  deriving DecidableEq

inductive PolicyProvenanceKind where
  | localGovernedFile
  deriving DecidableEq

structure PolicyProvenance where
  sourceKind : PolicyProvenanceKind
  issuedAt : TimestampUtc
  deriving DecidableEq

structure PolicyArtifact where
  policyId : PolicyId
  policyVersion : String
  scope : PolicyScope
  capabilityRules : List CapabilityRule
  sideEffectRules : List SideEffectRule
  approvalRules : List ApprovalRule
  environmentConditions : List EnvironmentMode
  dependencyReadinessConditions : List DependencyReadinessCondition
  failureBehavior : FailureBehavior
  policyProvenance : PolicyProvenance
  deriving DecidableEq

def PolicyArtifact.capabilityRuleFor (policy : PolicyArtifact) (capabilityId : CapabilityId) :
    Option CapabilityRule :=
  policy.capabilityRules.find? fun rule => rule.capabilityId == capabilityId

/-! ## Capabilities -/

inductive CapabilityType where
  | localFileRead | localFileWrite | localDbMutation | localProcessSpawn | governedOther
  deriving DecidableEq

inductive EnabledState where
  | enabled | disabled
  deriving DecidableEq

inductive ReviewClass where
  | none | operator
  deriving DecidableEq

inductive CapabilityProvenanceKind where
  | registryFile
  deriving DecidableEq

structure CapabilityProvenance where
  sourceKind : CapabilityProvenanceKind
  issuedAt : TimestampUtc
  deriving DecidableEq

structure CapabilityRecord where
  capabilityId : CapabilityId
  ownerService : String
  capabilityType : CapabilityType
  sideEffectClass : SideEffectClass
  approvalPosture : ApprovalPosture
  allowedRequesterClasses : List RequesterClass
  timeoutBudgetMs : UInt64
  retryBudget : UInt32
  maxDurationBudgetMs : UInt64
  maxCpuBudget : Option UInt32
  maxMemBudgetMb : Option UInt32
  enabledState : EnabledState
  reviewClass : ReviewClass
  provenance : CapabilityProvenance
  revocationState : RevocationState
  versionRange : Option String
  deriving DecidableEq

structure CapabilityRegistry where
  registryVersion : String
  capabilities : List CapabilityRecord
  deriving DecidableEq

def CapabilityRegistry.capabilityFor (registry : CapabilityRegistry)
    (capabilityId : CapabilityId) : Option CapabilityRecord :=
  registry.capabilities.find? fun entry => entry.capabilityId == capabilityId

/-! ## Execution plans -/

inductive CancellationPolicy where
  | cancelRemainingSteps | finishInFlightOnly
  deriving DecidableEq

inductive CompletionPolicy where
  | allStepsMustSucceed | allowDeclaredFallbackCompletion
  deriving DecidableEq

structure ExecutionPlanStep where
  stepId : String
  capabilityId : CapabilityId
  declaredSideEffectClass : SideEffectClass
  timeoutBudgetMs : UInt64
  deriving DecidableEq

structure FallbackReference where
  stepId : String
  fallbackStepId : String
  deriving DecidableEq

structure ExecutionPlan where
  executionPlanId : ExecutionPlanId
  correlationId : CorrelationId
  originatingRequestId : RequestId
  steps : List ExecutionPlanStep
  referencedCapabilities : List CapabilityId
  declaredMaxStepCount : UInt32
  declaredSideEffectClasses : List SideEffectClass
  fallbackReferences : List FallbackReference
  cancellationPolicy : CancellationPolicy
  completionPolicy : CompletionPolicy
  maxDurationBudgetMs : UInt64
  stablePlanHash : String
  plannedAtUtc : TimestampUtc
  deriving DecidableEq

structure ValidatedExecutionPlan where
  plan : ExecutionPlan
  stablePlanHash : String
  deriving DecidableEq

/-- The loading boundary: `deserialize_contract_value` for each contract (JSON
Schema validation, then `serde`), and the plain characters of `{:?}`. -/
structure ContractLoaders where
  executionRequest : Value → Except FaLocalError ExecutionRequest
  requesterTrust : Value → Except FaLocalError RequesterTrustEnvelope
  policyArtifact : Value → Except FaLocalError PolicyArtifact
  capabilityRegistry : Value → Except FaLocalError CapabilityRegistry
  executionPlan : Value → Except FaLocalError ExecutionPlan
  plainChar : Char → Bool

/-- `?` on a loader. -/
def loaded {β : Type} (x : Except FaLocalError β) : FaLocalResult β :=
  x.mapError .returned

theorem loaded_eq_ok {β : Type} {x : Except FaLocalError β} {b : β} :
    loaded x = .ok b ↔ x = .ok b := mapError_eq_ok

end FaLocal
