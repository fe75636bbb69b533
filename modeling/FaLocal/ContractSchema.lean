import FaLocal.Serde
import FaLocal.SqliteForensicStore

/-!
# Shared parts of the contract schemas

The definitions that the contracts repeat (hashes, step ids, postures, states), their
conditionals, and what these ask of a serialised value.
-/
namespace FaLocal

namespace Schema

/-- `"pattern": "^[0-9a-f]{64}$"` -/
def hash : Schema := checked fun s => matchesShape (List.replicate 64 isLowerHex) s.toList

def isStepStart (c : Char) : Bool := c.isLower || c.isDigit

def isStepChar (c : Char) : Bool := c.isLower || c.isDigit || c == '_' || c == '-'

/-- `"pattern": "^[a-z0-9][a-z0-9_-]{0,47}$"` -/
def stepIdPattern : List Char → Bool
  | [] => false
  | first :: rest => isStepStart first && rest.all isStepChar && decide (rest.length ≤ 47)

def stepId : Schema := allOf [text 1 48, checked fun s => stepIdPattern s.toList]

def executionState : Schema := enum ["denied", "review_required", "waiting_explicit_approval",
  "admitted_not_started", "in_progress", "degraded", "partial_success",
  "completed_with_constraints", "completed", "failed", "canceled"]

def redactionLevel : Schema := enum ["none", "sensitive_fields_redacted", "linkage_only"]

/-- `"format": "date-time"` -/
def dateTime (times : DateTimes) : Schema := checked times.accepts

/-- `properties` without `required`. -/
def constrains (constrained : List (String × Schema)) : Schema := fun value =>
  constrained.all fun property => (value.get property.1).all property.2

/-- `"type": "string"` -/
def anyText : Schema := checked fun _ => true

/-- `if` a property is a string, `then` others are constrained. -/
def ifText (key : String) (constrained : List (String × Schema)) : Schema := fun value =>
  if (value.get key).all anyText then constrains constrained value else true

/-- A plan is named by its identifier and its hash, or by neither. -/
def planLinked : List Schema := [
  ifText "execution_plan_id" [("stable_plan_hash", hash)],
  ifText "stable_plan_hash" [("execution_plan_id", RouteDecisionSchema.uuidText)]]

/-! ## Texts -/

theorem length_le_utf8ByteSize (s : String) : s.toList.length ≤ s.utf8ByteSize := by
  have h : s.toList.length ≤ (String.ofList s.toList).utf8ByteSize := by
    rw [utf8ByteSize_ofList]
    induction s.toList with
    | nil => exact Nat.le_refl 0
    | cons c l ih =>
      rw [List.map_cons, List.sum_cons, List.length_cons]
      have hc := c.utf8Size_pos
      omega
  rwa [String.ofList_toList] at h

theorem one_le_length_iff {s : String} : 1 ≤ s.toList.length ↔ 1 ≤ s.utf8ByteSize := by
  have hle := length_le_utf8ByteSize s
  constructor
  · omega
  · intro h
    by_contra hnone
    have hempty : s = "" := String.toList_eq_nil_iff.mp (List.length_eq_zero_iff.mp (by omega))
    rw [hempty] at h
    exact absurd h (by decide)

theorem isEmpty_eq_false_iff {s : String} : s.isEmpty = false ↔ 1 ≤ s.utf8ByteSize := by
  rw [Bool.eq_false_iff, ne_eq, String.isEmpty_iff, ← String.utf8ByteSize_eq_zero_iff]
  omega

theorem utf8ByteSize_of_ascii {s : String} (h : ∀ c ∈ s.toList, c.toNat < 128) :
    s.utf8ByteSize = s.toList.length := by
  rw [← String.ofList_toList (s := s), utf8ByteSize_ofList, String.toList_ofList]
  generalize s.toList = l at h
  induction l with
  | nil => rfl
  | cons c l ih =>
    have hc : c.utf8Size = 1 := by
      rw [Char.utf8Size_eq_one_iff]
      exact Nat.le_of_lt_succ (h c List.mem_cons_self)
    rw [List.map_cons, List.sum_cons, hc, ih fun d hd => h d (List.mem_cons_of_mem c hd),
      List.length_cons]
    omega

/-- A text that both sides count: bytes bound it from above, and it is empty for both. -/
theorem text_iff {maxLength : Nat} {s : String} :
    1 ≤ s.utf8ByteSize ∧ s.utf8ByteSize ≤ maxLength ↔
      text 1 maxLength (.string s) = true ∧ s.utf8ByteSize ≤ maxLength := by
  have hle := length_le_utf8ByteSize s
  rw [text, Bool.and_eq_true, decide_eq_true_eq, decide_eq_true_eq, one_le_length_iff]
  constructor
  · rintro ⟨hone, hmax⟩
    exact ⟨⟨hone, hle.trans hmax⟩, hmax⟩
  · rintro ⟨⟨hone, -⟩, hmax⟩
    exact ⟨hone, hmax⟩

theorem isBoundedText_iff_text {s : String} :
    isBoundedText s = true ↔ text 1 160 (.string s) = true ∧ s.utf8ByteSize ≤ 160 :=
  isBoundedText_iff.trans text_iff

theorem isLowerHex_lt {c : Char} (h : isLowerHex c = true) : c.toNat < 128 := by
  refine isHex_lt ?_
  rw [isLowerHex] at h
  rw [isHex, h, Bool.true_or]

/-- The pattern of a hash is the check of the validators. -/
theorem hash_string (s : String) : hash (.string s) = isValidHash s := by
  rw [Bool.eq_iff_iff, hash, checked, matchesShape_replicate, isValidHash, Bool.and_eq_true,
    beq_iff_eq, List.all_eq_true]
  refine and_congr_left fun hchars => ?_
  rw [utf8ByteSize_of_ascii fun c hc => isLowerHex_lt (hchars c hc)]

theorem isStepChar_lt {c : Char} (h : isStepChar c = true) : c.toNat < 128 := by
  have hz : (122 : UInt32).toNat = 122 := rfl
  have h9 : (57 : UInt32).toNat = 57 := rfl
  simp only [isStepChar, Char.isLower, Char.isDigit, Bool.or_eq_true, Bool.and_eq_true,
    decide_eq_true_eq, beq_iff_eq, UInt32.le_iff_toNat_le, Char.toNat_val] at h
  rcases h with ((⟨-, h⟩ | ⟨-, h⟩) | rfl) | rfl
  · exact lt_of_le_of_lt h (by decide)
  · exact lt_of_le_of_lt h (by decide)
  · decide
  · decide

/-- A first character and others of the pattern. -/
def StepText (s : String) : Prop :=
  ∃ first rest, s.toList = first :: rest ∧ isStepStart first = true ∧ rest.all isStepChar = true

theorem StepText.size {s : String} (h : StepText s) : s.utf8ByteSize = s.toList.length := by
  obtain ⟨first, rest, hs, hfirst, hrest⟩ := h
  refine utf8ByteSize_of_ascii fun c hc => ?_
  rw [hs] at hc
  rcases List.mem_cons.mp hc with rfl | hc
  · refine isStepChar_lt ?_
    rw [isStepStart] at hfirst
    rw [isStepChar, hfirst]
    rfl
  · exact isStepChar_lt (List.all_eq_true.mp hrest c hc)

theorem isValidStepId_iff {s : String} : isValidStepId s = true ↔
    (1 ≤ s.utf8ByteSize ∧ s.utf8ByteSize ≤ 48) ∧ StepText s := by
  constructor
  · intro h
    refine ⟨isValidStepId_size h, ?_⟩
    rw [isValidStepId] at h
    split at h
    · cases h
    · split at h
      · cases h
      · rename_i first rest hs
        exact ⟨first, rest, hs, Bool.and_eq_true_iff.mp h⟩
  · rintro ⟨⟨hone, hmax⟩, first, rest, hs, hfirst, hrest⟩
    simp only [isValidStepId, hone, hmax, decide_true, Bool.and_self, Bool.not_true, hs]
    exact Bool.and_eq_true_iff.mpr ⟨hfirst, hrest⟩

theorem stepId_iff {s : String} : stepId (.string s) = true ↔
    (1 ≤ s.toList.length ∧ s.toList.length ≤ 48) ∧ StepText s := by
  simp only [stepId, allOf, List.all_cons, List.all_nil, Bool.and_true, Bool.and_eq_true, text,
    checked, decide_eq_true_eq]
  refine and_congr_right fun hbounds => ?_
  cases hs : s.toList with
  | nil =>
    rw [hs] at hbounds
    exact absurd hbounds.1 (by decide)
  | cons first rest =>
    have hrest : rest.length ≤ 47 := by
      have hmax := hbounds.2
      rw [hs, List.length_cons] at hmax
      omega
    simp only [stepIdPattern, hrest, decide_true, Bool.and_true, Bool.and_eq_true]
    constructor
    · rintro ⟨hfirst, hall⟩
      exact ⟨first, rest, hs, hfirst, hall⟩
    · rintro ⟨first', rest', hs', hfirst, hall⟩
      obtain ⟨rfl, rfl⟩ := List.cons.inj (hs.symm.trans hs')
      exact ⟨hfirst, hall⟩

/-- The pattern of a step id is the check of the validators. -/
theorem stepId_string (s : String) : stepId (.string s) = isValidStepId s := by
  rw [Bool.eq_iff_iff, stepId_iff, isValidStepId_iff]
  refine and_congr_left fun hstep => ?_
  rw [hstep.size]

/-! ## Optional fields -/

section
variable {β : Type} {f : β → Value} {o : Option β} {schema : Schema}

theorem null_optionValue (hf : ∀ b, null (f b) = false) : null (optionValue f o) = o.isNone := by
  cases o with
  | none => rfl
  | some b => exact hf b

/-- An optional field is `null` or of its schema. -/
theorem nullable_optionValue (hf : ∀ b, null (f b) = false) (hs : schema .null = false) :
    nullable schema (optionValue f o) = o.all fun b => schema (f b) := by
  cases o with
  | none => simp [nullable, oneOf, optionValue, null, hs]
  | some b => simp [nullable, oneOf, optionValue, hf b]

/-- A field that a conditional asks for is there. -/
theorem required_optionValue (hs : schema .null = false) (hall : ∀ b ∈ o, schema (f b) = true) :
    schema (optionValue f o) = o.isSome := by
  cases o with
  | none => exact hs
  | some b => exact hall b rfl

end

/-! ## Conditionals -/

theorem constrains_nil (value : Value) : constrains [] value = true := rfl

theorem constrains_cons {key : String} {schema : Schema} {rest : List (String × Schema)}
    {value part : Value} (hget : value.get key = some part) :
    constrains ((key, schema) :: rest) value = (schema part && constrains rest value) := by
  rw [constrains, List.all_cons, hget]
  rfl

theorem ifConst_of_get {key expected actual : String} {constrained : List (String × Schema)}
    {value : Value} (hget : value.get key = some (.string actual)) :
    ifConst key expected constrained value = true ↔
      (actual = expected → constrains constrained value = true) := by
  by_cases h : actual = expected <;> simp [ifConst, constrains, hget, enum, checked, h]

/-- Of the conditionals on the variants of a field, one applies. -/
theorem allOf_ifConst {σ : Type} {variants : List σ} {name : σ → String}
    (hname : Function.Injective name) {key : String} {rules : σ → List (String × Schema)}
    {value : Value} {s : σ} (hs : s ∈ variants) (hget : value.get key = some (.string (name s))) :
    allOf (variants.map fun s => ifConst key (name s) (rules s)) value = true ↔
      constrains (rules s) value = true := by
  simp only [allOf, List.all_map, List.all_eq_true, Function.comp_apply, ifConst_of_get hget]
  constructor
  · intro h
    exact h s hs rfl
  · intro h s' _ he
    rwa [← hname he]

theorem ifText_of_get {β : Type} {f : β → Value} {o : Option β} {key : String}
    {constrained : List (String × Schema)} {value : Value}
    (hf : ∀ b, anyText (f b) = true) (hget : value.get key = some (optionValue f o)) :
    ifText key constrained value = true ↔
      (o.isSome = true → constrains constrained value = true) := by
  cases o with
  | none => simp [ifText, hget, optionValue, anyText, checked]
  | some b => simp [ifText, hget, optionValue, hf b]

end Schema

/-! ## Shared variants -/

def ExecutionState.variants : List ExecutionState :=
  [.denied, .reviewRequired, .waitingExplicitApproval, .admittedNotStarted, .inProgress, .degraded,
    .partialSuccess, .completedWithConstraints, .completed, .failed, .canceled]

def ApprovalPosture.variants : List ApprovalPosture :=
  [.denied, .reviewRequired, .explicitOperatorApproval, .policyPreapproved, .executeAllowed]

def DegradedSubtype.variants : List DegradedSubtype :=
  [.degradedPreStart, .degradedInFlight, .degradedFallbackEquivalent, .degradedFallbackLimited,
    .degradedPartial, .unavailableDependencyBlock]

def RedactionLevel.variants : List RedactionLevel := [.none, .sensitiveFieldsRedacted, .linkageOnly]

def ExecutionState.toValue (state : ExecutionState) : Value := .string state.serdeName

def DegradedSubtype.toValue (subtype : DegradedSubtype) : Value := .string subtype.serdeName

theorem ExecutionState.serdeName_inj : Function.Injective ExecutionState.serdeName := by
  intro s s' h
  cases s <;> cases s' <;> first | rfl | exact absurd h (by decide)

theorem ExecutionState.mem_variants (s : ExecutionState) : s ∈ ExecutionState.variants := by
  cases s <;> decide

namespace Schema

theorem executionState_accepted (s : ExecutionState) : executionState s.toValue = true := by
  cases s <;> decide

theorem degradedSubtype_accepted (s : DegradedSubtype) :
    RouteDecisionSchema.degradedSubtype s.toValue = true := by
  cases s <;> decide

theorem redactionLevel_accepted (l : RedactionLevel) :
    redactionLevel (.string l.serdeName) = true := by
  cases l <;> decide

end Schema

/-! ## Fields -/

theorem ApprovalPosture.serdeName_inj : Function.Injective ApprovalPosture.serdeName := by
  intro p p' h
  cases p <;> cases p' <;> first | rfl | exact absurd h (by decide)

theorem DegradedSubtype.serdeName_inj : Function.Injective DegradedSubtype.serdeName := by
  intro s s' h
  cases s <;> cases s' <;> first | rfl | exact absurd h (by decide)

namespace Schema

section
variable {β : Type} [DecidableEq β] {name : β → String}

/-- Names that are listed are those of listed variants. -/
theorem enum_names (hname : Function.Injective name) (allowed : List β) (b : β) :
    enum (allowed.map name) (.string (name b)) = allowed.contains b := by
  rw [Bool.eq_iff_iff, enum, checked, List.contains_iff_mem, List.contains_iff_mem,
    List.mem_map_of_injective hname]

theorem enum_optionValue (hname : Function.Injective name) (allowed : List β) (o : Option β) :
    enum (allowed.map name) (optionValue (fun b => .string (name b)) o) =
      o.any allowed.contains := by
  cases o with
  | none => rfl
  | some b => exact enum_names hname allowed b

end

open RouteDecisionSchema (uuidText degradedSubtype approvalPosture)

/-! The postures that conditionals name. -/

theorem posture_denied (p : ApprovalPosture) :
    enum ["denied"] p.toValue = [.denied].contains p :=
  enum_names ApprovalPosture.serdeName_inj [.denied] p

theorem posture_reviewRequired (p : ApprovalPosture) :
    enum ["review_required"] p.toValue = [.reviewRequired].contains p :=
  enum_names ApprovalPosture.serdeName_inj [.reviewRequired] p

theorem posture_explicitApproval (p : ApprovalPosture) :
    enum ["explicit_operator_approval"] p.toValue = [.explicitOperatorApproval].contains p :=
  enum_names ApprovalPosture.serdeName_inj [.explicitOperatorApproval] p

/-- The postures of admitted routes. -/
def admittedPosture : Schema := enum ["policy_preapproved", "execute_allowed"]

theorem admittedPosture_toValue (p : ApprovalPosture) :
    admittedPosture p.toValue = [.policyPreapproved, .executeAllowed].contains p :=
  enum_names ApprovalPosture.serdeName_inj [.policyPreapproved, .executeAllowed] p

section
variable {k : IdKind}

@[simp] theorem null_ids (o : Option (UuidId k)) : null (optionValue UuidId.toValue o) = o.isNone :=
  null_optionValue fun _ => rfl

@[simp] theorem null_strings (o : Option String) : null (optionValue .string o) = o.isNone :=
  null_optionValue fun _ => rfl

@[simp] theorem null_times (times : DateTimes) (o : Option TimestampUtc) :
    null (optionValue (fun t => .string (times.text t)) o) = o.isNone :=
  null_optionValue fun _ => rfl

@[simp] theorem null_subtypes (o : Option DegradedSubtype) :
    null (optionValue DegradedSubtype.toValue o) = o.isNone :=
  null_optionValue fun _ => rfl

/-! A property that is `null` or of its kind. -/

theorem nullable_ids {o : Option (UuidId k)} (h : ∀ i ∈ o, i.Versioned) :
    nullable uuidText (optionValue UuidId.toValue o) = true := by
  rw [nullable_optionValue (fun _ => rfl) rfl, Option.all_eq_true]
  exact h

theorem nullable_hash (o : Option String) :
    nullable hash (optionValue .string o) = o.all isValidHash := by
  rw [nullable_optionValue (fun _ => rfl) rfl, funext hash_string]

theorem nullable_stepId (o : Option String) :
    nullable stepId (optionValue .string o) = o.all isValidStepId := by
  rw [nullable_optionValue (fun _ => rfl) rfl, funext stepId_string]

theorem nullable_text (minLength maxLength : Nat) (o : Option String) :
    nullable (text minLength maxLength) (optionValue .string o) =
      o.all fun s => text minLength maxLength (.string s) :=
  nullable_optionValue (fun _ => rfl) rfl

theorem nullable_subtypes (o : Option DegradedSubtype) :
    nullable degradedSubtype (optionValue DegradedSubtype.toValue o) = true := by
  rw [nullable_optionValue (fun _ => rfl) rfl, Option.all_eq_true]
  exact fun s _ => degradedSubtype_accepted s

theorem dateTime_text {times : TimeTexts} (htimes : times.Rfc3339) {t : TimestampUtc}
    (ht : FourDigitYear t) : dateTime times.toDateTimes (.string (times.text t)) = true :=
  (htimes.printable t).mpr ht

theorem nullable_times {times : TimeTexts} (htimes : times.Rfc3339) {o : Option TimestampUtc}
    (h : ∀ t ∈ o, FourDigitYear t) : nullable (dateTime times.toDateTimes)
      (optionValue (fun t => .string (times.text t)) o) = true := by
  rw [nullable_optionValue (fun _ => rfl) rfl, Option.all_eq_true]
  exact fun t ht => dateTime_text htimes (h t ht)

theorem ids_of_nullable {o : Option (UuidId k)}
    (h : nullable uuidText (optionValue UuidId.toValue o) = true) : ∀ i ∈ o, i.Versioned := by
  rw [nullable_optionValue (fun _ => rfl) rfl, Option.all_eq_true] at h
  exact h

theorem times_of_nullable {times : TimeTexts} (htimes : times.Rfc3339) {o : Option TimestampUtc}
    (h : nullable (dateTime times.toDateTimes)
      (optionValue (fun t => .string (times.text t)) o) = true) : ∀ t ∈ o, FourDigitYear t := by
  rw [nullable_optionValue (fun _ => rfl) rfl, Option.all_eq_true] at h
  exact fun t ht => (htimes.printable t).mp (h t ht)

/-! A field that a conditional asks for, when the property fits. -/

theorem required_ids {o : Option (UuidId k)} (h : ∀ i ∈ o, i.Versioned) :
    uuidText (optionValue UuidId.toValue o) = o.isSome :=
  required_optionValue rfl h

theorem required_hash {o : Option String} (h : o.all isValidHash = true) :
    hash (optionValue .string o) = o.isSome :=
  required_optionValue rfl fun s hs => (hash_string s).trans ((Option.all_eq_true _ _).mp h s hs)

theorem required_stepId {o : Option String} (h : o.all isValidStepId = true) :
    stepId (optionValue .string o) = o.isSome :=
  required_optionValue rfl fun s hs => (stepId_string s).trans ((Option.all_eq_true _ _).mp h s hs)

theorem required_text {minLength maxLength : Nat} {o : Option String}
    (h : o.all (fun s => text minLength maxLength (.string s)) = true) :
    text minLength maxLength (optionValue .string o) = o.isSome :=
  required_optionValue rfl ((Option.all_eq_true _ _).mp h)

theorem required_subtypes (o : Option DegradedSubtype) :
    degradedSubtype (optionValue DegradedSubtype.toValue o) = o.isSome :=
  required_optionValue rfl fun s _ => degradedSubtype_accepted s

theorem required_times {times : TimeTexts} (htimes : times.Rfc3339) {o : Option TimestampUtc}
    (h : ∀ t ∈ o, FourDigitYear t) : dateTime times.toDateTimes
      (optionValue (fun t => .string (times.text t)) o) = o.isSome :=
  required_optionValue rfl fun t ht => dateTime_text htimes (h t ht)

theorem planLinked_iff {value : Value} {planId : Option ExecutionPlanId} {planHash : Option String}
    (hid : value.get "execution_plan_id" = some (optionValue UuidId.toValue planId))
    (hhash : value.get "stable_plan_hash" = some (optionValue .string planHash))
    (h : ∀ i ∈ planId, i.Versioned) (hall : planHash.all isValidHash = true) :
    allOf planLinked value = true ↔ planId.isSome = planHash.isSome := by
  simp only [planLinked, allOf, List.all_cons, List.all_nil, Bool.and_true, Bool.and_eq_true,
    ifText_of_get (fun _ => rfl) hid, ifText_of_get (fun _ => rfl) hhash, constrains_cons hid,
    constrains_cons hhash, constrains_nil, required_ids h, required_hash hall]
  cases planId <;> cases planHash <;> simp

end

end Schema

namespace Decoder

def executionState : Decoder ExecutionState :=
  variant ExecutionState.serdeName ExecutionState.variants

def approvalPosture : Decoder ApprovalPosture :=
  variant ApprovalPosture.serdeName ApprovalPosture.variants

def degradedSubtype : Decoder DegradedSubtype :=
  variant DegradedSubtype.serdeName DegradedSubtype.variants

def redactionLevel : Decoder RedactionLevel :=
  variant RedactionLevel.serdeName RedactionLevel.variants

@[simp] theorem executionState_toValue (s : ExecutionState) :
    executionState s.toValue = some s :=
  variant_name (by decide) s.mem_variants

@[simp] theorem approvalPosture_toValue (p : ApprovalPosture) :
    approvalPosture p.toValue = some p :=
  variant_name (by decide) (by cases p <;> decide)

@[simp] theorem degradedSubtype_toValue (s : DegradedSubtype) :
    degradedSubtype s.toValue = some s :=
  variant_name (by decide) (by cases s <;> decide)

@[simp] theorem redactionLevel_serdeName (l : RedactionLevel) :
    redactionLevel (.string l.serdeName) = some l :=
  variant_name (by decide) (by cases l <;> decide)

theorem option_ids {k : IdKind} (o : Option (UuidId k)) :
    option .uuid (optionValue UuidId.toValue o) = some o :=
  option_optionValue (fun _ => rfl) fun i _ => uuid_toValue i

theorem option_strings (o : Option String) : option .string (optionValue .string o) = some o :=
  option_optionValue (fun _ => rfl) fun s _ => string_string s

theorem option_subtypes (o : Option DegradedSubtype) :
    option .degradedSubtype (optionValue DegradedSubtype.toValue o) = some o :=
  option_optionValue (fun _ => rfl) fun s _ => degradedSubtype_toValue s

theorem option_times {times : TimeTexts} (htimes : times.Rfc3339) {o : Option TimestampUtc}
    (h : ∀ t ∈ o, FourDigitYear t) :
    option (.timestamp times) (optionValue (fun t => .string (times.text t)) o) = some o :=
  option_optionValue (fun _ => rfl) fun t ht => timestamp_text htimes (h t ht)

end Decoder

end FaLocal
