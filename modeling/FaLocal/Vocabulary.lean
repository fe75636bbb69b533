import Mathlib

/-!
# Shared vocabulary

Identifiers, timestamps, the closed vocabularies of the contracts, denial
guards and errors. Texts are Unicode strings; their length in bytes is
`String.utf8ByteSize`.
-/
namespace FaLocal

structure Uuid where
  bytes : Vector UInt8 16
  deriving DecidableEq

inductive IdKind where
  | request | correlation | requester | policy | capability | routeDecision | executionPlan
  | reviewPackage | forensicEvent | frictionPayload
  deriving DecidableEq

/-- The `uuid_id!` newtypes, told apart by their kind. -/
structure UuidId (k : IdKind) where
  uuid : Uuid
  deriving DecidableEq

abbrev RequestId := UuidId .request
abbrev CorrelationId := UuidId .correlation
abbrev RequesterId := UuidId .requester
abbrev PolicyId := UuidId .policy
abbrev CapabilityId := UuidId .capability
abbrev RouteDecisionId := UuidId .routeDecision
abbrev ExecutionPlanId := UuidId .executionPlan
abbrev ReviewPackageId := UuidId .reviewPackage
abbrev ForensicEventId := UuidId .forensicEvent

def hexByte (b : UInt8) : List Char := [Nat.digitChar (b.toNat / 16), Nat.digitChar (b.toNat % 16)]

/-- The hyphenated lower-case form of a UUID, as `Display` prints it. -/
def Uuid.hyphenated (u : Uuid) : List Char :=
  let hex := fun (i n : Nat) => ((u.bytes.toList.drop i).take n).flatMap hexByte
  hex 0 4 ++ '-' :: (hex 4 2 ++ '-' :: (hex 6 2 ++ '-' :: (hex 8 2 ++ '-' :: hex 10 6)))

def UuidId.display {k : IdKind} (i : UuidId k) : String := String.ofList i.uuid.hyphenated

/-- `DateTime<Utc>`, counted in nanoseconds. -/
abbrev TimestampUtc := Int

inductive EnvironmentMode where
  | dev | test | staging | prod | airgapped | testHarness
  deriving DecidableEq

inductive RequesterClass where
  | trustedAppSurface | trustedInternalService | reviewSurface | developmentTestSurface
  | untrustedUnknown
  deriving DecidableEq

inductive ApprovalPosture where
  | denied | reviewRequired | explicitOperatorApproval | policyPreapproved | executeAllowed
  deriving DecidableEq

/-- The postures of admitted routes. -/
def ApprovalPosture.admitted : ApprovalPosture → Bool
  | .policyPreapproved | .executeAllowed => true
  | _ => false

inductive ExecutionState where
  | denied | reviewRequired | waitingExplicitApproval | admittedNotStarted | inProgress | degraded
  | partialSuccess | completedWithConstraints | completed | failed | canceled
  deriving DecidableEq

inductive DegradedSubtype where
  | degradedPreStart | degradedInFlight | degradedFallbackEquivalent | degradedFallbackLimited
  | degradedPartial | unavailableDependencyBlock
  deriving DecidableEq

inductive SideEffectClass where
  | none | localFileWrite | localDbMutation | localProcessSpawn | externalNetworkDeniedByDefault
  | otherGoverned
  deriving DecidableEq

inductive RevocationState where
  | active | disabled | revoked
  deriving DecidableEq

inductive DenialReasonClass where
  | unknownRequester | untrustedRequester | missingPolicy | policyDenied | capabilityNotAdmitted
  | contractInvalid | integrityFailed | dependencyUnavailable | privacyScopeViolation
  | reviewRequired | unsupportedRoute | disabledByOperator
  deriving DecidableEq

inductive DenialScope where
  | request | capability | route | service | artifact | operation
  deriving DecidableEq

inductive DenialBasis where
  | contract | policy | contractAndPolicy | runtimeSafety
  deriving DecidableEq

/-- `config::SERVICE_ID`. -/
def serviceId : String := "fa-local"

structure DenialGuard where
  reasonClass : DenialReasonClass
  scope : DenialScope
  basis : DenialBasis
  remediable : Bool
  reviewAvailable : Bool
  summary : String
  timestampUtc : TimestampUtc
  deriving DecidableEq

/-- `guards::deny`; `utcNow` is what the clock answers. -/
def deny (utcNow : TimestampUtc) (reasonClass : DenialReasonClass) (scope : DenialScope)
    (basis : DenialBasis) (summary : String) : DenialGuard where
  reasonClass := reasonClass
  scope := scope
  basis := basis
  remediable := false
  reviewAvailable := false
  summary := summary
  timestampUtc := utcNow

inductive FaLocalError where
  | denied : DenialGuard → FaLocalError
  | io : String → FaLocalError
  | contractInvalid : String → FaLocalError
  | serialization : String → FaLocalError
  | sqlite : String → FaLocalError
  | schemaCompile (schema message : String) : FaLocalError
  | schemaValidation (schema : String) (errors : List String) : FaLocalError
  | internalInvariant : String → FaLocalError
  | writebackNotWired : String → FaLocalError
  | writebackFailed : String → FaLocalError
  deriving DecidableEq

/-- A call that does not return `Ok` either returns an error or panics. -/
inductive Abort where
  | returned : FaLocalError → Abort
  | panicked : String → Abort
  deriving DecidableEq

abbrev FaLocalResult (β : Type) := Except Abort β

def contractInvalid (message : String) : Abort := .returned (.contractInvalid message)

/-- `if !condition { return Err(contract_invalid(message)) }` -/
def require (condition : Bool) (message : String) : FaLocalResult Unit :=
  if condition then .ok () else .error (contractInvalid message)

@[simp] theorem require_eq_ok {condition : Bool} {message : String} :
    require condition message = .ok () ↔ condition = true := by
  cases condition <;> simp [require]

@[simp] theorem require_true (message : String) : require true message = .ok () := rfl

/-- A check in front of a computation. -/
theorem seq_eq_ok {β : Type} {x : FaLocalResult Unit} {y : FaLocalResult β} {b : β} :
    (x >>= fun _ => y) = .ok b ↔ x = .ok () ∧ y = .ok b := by
  cases x with
  | error e => simp [bind, Except.bind]
  | ok u => simp [bind, Except.bind]

/-- A check that passes, and one that does not. -/
theorem seq_of_ok {β : Type} {x : FaLocalResult Unit} {y : FaLocalResult β} (h : x = .ok ()) :
    (x >>= fun _ => y) = y := by
  rw [h]
  rfl

theorem seq_of_error {β : Type} {x : FaLocalResult Unit} {y : FaLocalResult β} {e : Abort}
    (h : x = .error e) : (x >>= fun _ => y) = .error e := by
  rw [h]
  rfl

/-- What comes behind `?` runs on the value. -/
theorem bind_eq_ok {ε β γ : Type} {x : Except ε β} {f : β → Except ε γ} {c : γ} :
    (x >>= f) = .ok c ↔ ∃ b, x = .ok b ∧ f b = .ok c := by
  cases x <;> simp [bind, Except.bind]

/-- A refusal in front of a computation. -/
theorem ite_error_eq_ok {ε β : Type} {c : Prop} [Decidable c] {e : ε} {x : Except ε β} {b : β} :
    (if c then .error e else x) = .ok b ↔ ¬ c ∧ x = .ok b := by
  by_cases hc : c <;> simp [hc]

theorem mapError_eq_ok {ε ε' β : Type} {x : Except ε β} {f : ε → ε'} {b : β} :
    x.mapError f = .ok b ↔ x = .ok b := by
  cases x <;> simp [Except.mapError]

theorem exists_of_isOk {ε β : Type} {x : Except ε β} (h : x.isOk = true) : ∃ b, x = .ok b := by
  cases x with
  | error e => cases h
  | ok b => exact ⟨b, rfl⟩

/-- A call that returns, with a value or with an error. -/
def Returns {β : Type} (x : FaLocalResult β) : Prop :=
  ∀ message, x ≠ .error (.panicked message)

theorem returns_ok {β : Type} (b : β) : Returns (.ok b) := by
  rintro message ⟨⟩

theorem returns_require (condition : Bool) (message : String) :
    Returns (require condition message) := by
  cases condition <;> rintro text ⟨⟩

/-- What comes behind a call need only return when the call does. -/
theorem Returns.bind {β γ : Type} {x : FaLocalResult β} {f : β → FaLocalResult γ}
    (hx : Returns x) (hf : ∀ b, x = .ok b → Returns (f b)) : Returns (x >>= f) := by
  cases h : x with
  | error e =>
    intro message he
    cases he
    exact hx message h
  | ok b => exact hf b h

theorem Returns.seq {β : Type} {x : FaLocalResult Unit} {y : FaLocalResult β} (hx : Returns x)
    (hy : x = .ok () → Returns y) : Returns (x >>= fun _ => y) :=
  hx.bind fun _ h => hy h

/-- The same of a computation that returns with its log. -/
theorem exists_of_fst_isOk {ε β γ : Type} {p : Except ε β × γ} (h : p.1.isOk = true) :
    ∃ b, p = (.ok b, p.2) := by
  obtain ⟨b, hb⟩ := exists_of_isOk h
  exact ⟨b, Prod.ext hb rfl⟩

/-- `{c:?}` inside a string; `plain` holds of the characters that Unicode
counts as printable and not grapheme-extending. -/
def escapeDebug (plain : Char → Bool) (c : Char) : List Char :=
  match c with
  | '\x00' => ['\\', '0']
  | '\t' => ['\\', 't']
  | '\r' => ['\\', 'r']
  | '\n' => ['\\', 'n']
  | '\\' => ['\\', '\\']
  | '"' => ['\\', '"']
  | c => if plain c then [c] else
      ['\\', 'u', Char.ofNat 123] ++ Nat.toDigits 16 c.toNat ++ [Char.ofNat 125]

def debugString (plain : Char → Bool) (s : String) : String :=
  String.ofList ('"' :: s.toList.flatMap (escapeDebug plain) ++ ['"'])

/-- `{errors:?}` of a list of strings. -/
def debugList (plain : Char → Bool) (errors : List String) : String :=
  "[" ++ String.intercalate ", " (errors.map (debugString plain)) ++ "]"

/-- The `Display` form of an error. -/
def FaLocalError.display (plain : Char → Bool) : FaLocalError → String
  | .denied guard => guard.summary
  | .io text => text
  | .contractInvalid message => "contract invalid: " ++ message
  | .serialization text => "serialization error: " ++ text
  | .sqlite text => "sqlite error: " ++ text
  | .schemaCompile schema message =>
    "schema compilation failed for " ++ schema ++ ": " ++ message
  | .schemaValidation schema errors =>
    "schema validation failed for " ++ schema ++ ": " ++ debugList plain errors
  | .internalInvariant message => "internal invariant violated: " ++ message
  | .writebackNotWired message => "writeback not yet wired: " ++ message
  | .writebackFailed message => "writeback failed: " ++ message

/-- `is_valid_hash`, the same in every domain module. -/
def isValidHash (value : String) : Bool :=
  value.utf8ByteSize == 64 &&
    value.toList.all fun c => c.isDigit || ('a' ≤ c && c ≤ 'f')

def isValidStepId (value : String) : Bool :=
  let len := value.utf8ByteSize
  if !(1 ≤ len && len ≤ 48) then false
  else
    match value.toList with
    | [] => false
    | first :: rest =>
      (first.isLower || first.isDigit) &&
        rest.all fun c => c.isLower || c.isDigit || c == '_' || c == '-'

/-! Identifiers print as 36 characters, and different identifiers print differently. -/

theorem utf8ByteSize_ofList (l : List Char) :
    (String.ofList l).utf8ByteSize = (l.map Char.utf8Size).sum := by
  induction l with
  | nil => rfl
  | cons c l ih =>
    have h : String.ofList (c :: l) = String.singleton c ++ String.ofList l := by
      apply String.toList_inj.mp
      simp
    rw [h, String.utf8ByteSize_append, String.utf8ByteSize_singleton, ih]
    simp

theorem utf8ByteSize_of_chars {l : List Char} {n : Nat} (h : (l.map Char.utf8Size).sum = n) :
    (String.ofList l).utf8ByteSize = n := by
  rw [utf8ByteSize_ofList]
  exact h

theorem isValidStepId_size {stepId : String} (h : isValidStepId stepId = true) :
    1 ≤ stepId.utf8ByteSize ∧ stepId.utf8ByteSize ≤ 48 := by
  by_contra hc
  have hlen : (decide (1 ≤ stepId.utf8ByteSize) && decide (stepId.utf8ByteSize ≤ 48)) = false := by
    rw [← Bool.not_eq_true]
    simpa using hc
  rw [isValidStepId, hlen] at h
  cases h

def hexDigits : List Char :=
  ['0', '1', '2', '3', '4', '5', '6', '7', '8', '9', 'a', 'b', 'c', 'd', 'e', 'f']

theorem digitChar_mem : ∀ n < 16, Nat.digitChar n ∈ hexDigits := by decide

/-- A check of the members of a list, one by one. -/
theorem forall_mem_of_all {β : Type} {l : List β} {p : β → Prop} [DecidablePred p]
    (h : (l.all fun b => decide (p b)) = true) : ∀ b ∈ l, p b := by
  intro b hb
  exact of_decide_eq_true (List.all_eq_true.mp h b hb)

theorem exists_mem_of_forall₂ {β γ : Type} {P : β → γ → Prop} {l : List β} {m : List γ}
    (h : List.Forall₂ P l m) {c : γ} (hc : c ∈ m) : ∃ b ∈ l, P b c := by
  induction h with
  | nil => cases hc
  | cons hp _ ih =>
    rcases List.mem_cons.mp hc with rfl | hc
    · exact ⟨_, List.mem_cons_self, hp⟩
    · obtain ⟨b, hb, hp'⟩ := ih hc
      exact ⟨b, List.mem_cons_of_mem _ hb, hp'⟩

theorem mem_hexByte {c : Char} {b : UInt8} (h : c ∈ hexByte b) : c ∈ hexDigits := by
  have hb := b.toNat_lt
  simp only [hexByte, List.mem_cons, List.not_mem_nil, or_false] at h
  rcases h with rfl | rfl <;> exact digitChar_mem _ (by omega)

theorem digitChar_inj : ∀ m < 16, ∀ n < 16, Nat.digitChar m = Nat.digitChar n → m = n := by
  decide

theorem hexByte_inj {b c : UInt8} (h : hexByte b = hexByte c) : b = c := by
  have hb := b.toNat_lt
  have hc := c.toNat_lt
  simp only [hexByte, List.cons.injEq, and_true] at h
  have h₁ := digitChar_inj _ (by omega) _ (by omega) h.1
  have h₂ := digitChar_inj _ (by omega) _ (by omega) h.2
  exact UInt8.toNat_inj.mp (by omega)

theorem flatMap_hexByte_length (l : List UInt8) : (l.flatMap hexByte).length = 2 * l.length := by
  induction l with
  | nil => rfl
  | cons b l ih => simp only [List.flatMap_cons, List.length_append, ih]; simp [hexByte]; omega

theorem flatMap_hexByte_inj {l m : List UInt8} (h : l.flatMap hexByte = m.flatMap hexByte) :
    l = m := by
  induction l generalizing m with
  | nil =>
    cases m with
    | nil => rfl
    | cons b m => simp [hexByte] at h
  | cons b l ih =>
    cases m with
    | nil => simp [hexByte] at h
    | cons c m =>
      obtain ⟨hb, hl⟩ := List.append_inj h (by simp [hexByte])
      rw [hexByte_inj hb, ih hl]

theorem mem_hyphenated {u : Uuid} {c : Char} (h : c ∈ u.hyphenated) : c = '-' ∨ c ∈ hexDigits := by
  have hex : ∀ i n, c ∈ ((u.bytes.toList.drop i).take n).flatMap hexByte → c ∈ hexDigits := by
    intro i n hc
    obtain ⟨b, -, hb⟩ := List.mem_flatMap.mp hc
    exact mem_hexByte hb
  simp only [Uuid.hyphenated, List.mem_append, List.mem_cons] at h
  rcases h with h | h | h | h | h | h | h | h | h
  all_goals first
    | exact .inl h
    | exact .inr (hex _ _ h)

theorem hyphenated_length (u : Uuid) : u.hyphenated.length = 36 := by
  simp only [Uuid.hyphenated, List.length_append, List.length_cons, flatMap_hexByte_length,
    List.length_take, List.length_drop, Vector.length_toList]
  omega

/-- The bytes in the parts that the hyphens divide. -/
theorem Uuid.bytes_parts (u : Uuid) :
    u.bytes.toList = u.bytes.toList.take 4 ++ ((u.bytes.toList.drop 4).take 2 ++
      ((u.bytes.toList.drop 6).take 2 ++ ((u.bytes.toList.drop 8).take 2 ++
        (u.bytes.toList.drop 10).take 6))) := by
  have h₄ := List.take_append_drop 4 u.bytes.toList
  have h₆ := List.take_append_drop 2 (u.bytes.toList.drop 4)
  have h₈ := List.take_append_drop 2 (u.bytes.toList.drop 6)
  have h₁₀ := List.take_append_drop 2 (u.bytes.toList.drop 8)
  have hlast : (u.bytes.toList.drop 10).take 6 = u.bytes.toList.drop 10 :=
    List.take_of_length_le (by simp)
  simp only [List.drop_drop, Nat.reduceAdd] at h₆ h₈ h₁₀
  rw [hlast, h₁₀, h₈, h₆, h₄]

theorem hyphenated_inj {u v : Uuid} (h : u.hyphenated = v.hyphenated) : u = v := by
  have hex : ∀ i n, (((u.bytes.toList.drop i).take n).flatMap hexByte).length =
      (((v.bytes.toList.drop i).take n).flatMap hexByte).length := by
    intro i n
    simp only [flatMap_hexByte_length, List.length_take, List.length_drop, Vector.length_toList]
  simp only [Uuid.hyphenated] at h
  obtain ⟨h₀, h⟩ := List.append_inj h (hex 0 4)
  obtain ⟨h₁, h⟩ := List.append_inj (List.cons.inj h).2 (hex 4 2)
  obtain ⟨h₂, h⟩ := List.append_inj (List.cons.inj h).2 (hex 6 2)
  obtain ⟨h₃, h⟩ := List.append_inj (List.cons.inj h).2 (hex 8 2)
  have h₄ := flatMap_hexByte_inj (List.cons.inj h).2
  have hl : u.bytes.toList = v.bytes.toList := by
    rw [u.bytes_parts, v.bytes_parts, flatMap_hexByte_inj h₁, flatMap_hexByte_inj h₂,
      flatMap_hexByte_inj h₃, h₄]
    rw [show u.bytes.toList.take 4 = v.bytes.toList.take 4 from
      by simpa using flatMap_hexByte_inj h₀]
  cases u
  cases v
  simp only [Uuid.mk.injEq]
  exact Vector.toList_inj.mp hl

theorem UuidId.display_inj {k : IdKind} {i j : UuidId k} (h : i.display = j.display) : i = j := by
  cases i
  cases j
  simp only [UuidId.mk.injEq]
  exact hyphenated_inj (String.ofList_injective h)

end FaLocal
