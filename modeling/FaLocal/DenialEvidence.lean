import FaLocal.DeliveryLaws
import FaLocal.Recording

/-!
# Evidence of a denial

When a denied run leaves its record. The fixed texts of the gates always pass
the recorder; the error text of a refused envelope or policy may not, and that
of a schema violation never does.
-/
namespace FaLocal

open Words (mentionsAny mentionsAny_of_chars mentionsAny_append mentions_of_part)
open ApprovalPostureResolver (firstDenialSummary FlagsFit Denies)

/-! ## Fixed texts -/

namespace ForensicService

/-- The words that may not stand in a denial, by their characters. -/
def deniedWordChars : List (List Char) := [
  ['s', 'u', 'c', 'c', 'e', 's', 's'], ['s', 'u', 'c', 'c', 'e', 'e', 'd', 'e', 'd'],
  ['c', 'o', 'm', 'p', 'l', 'e', 't', 'e', 'd'], ['f', 'a', 'i', 'l', 'e', 'd'],
  ['f', 'a', 'i', 'l', 'u', 'r', 'e'], ['c', 'a', 'n', 'c', 'e', 'l', 'e', 'd'],
  ['c', 'a', 'n', 'c', 'e', 'l', 'l', 'e', 'd'], ['d', 'e', 'g', 'r', 'a', 'd', 'e', 'd'],
  ['c', 'o', 'n', 's', 't', 'r', 'a', 'i', 'n', 't'],
  ['c', 'o', 'n', 's', 't', 'r', 'a', 'i', 'n', 't', 's'], ['l', 'i', 'm', 'i', 't', 'e', 'd'],
  ['p', 'l', 'a', 'n', 'n', 'e', 'r'], ['w', 'o', 'r', 'k', 'f', 'l', 'o', 'w'],
  ['s', 'e', 'm', 'a', 'n', 't', 'i', 'c'], ['n', 'e', 'x', 't', ' ', 's', 't', 'e', 'p']]

theorem deniedWords_eq :
    disallowedWords .denied none = deniedWordChars.map String.ofList := rfl

theorem fixedRefusals_plain :
    ∀ text ∈ fixedRefusals, mentionsAny text (disallowedWords .denied none) = false := by
  simp only [fixedRefusals, List.forall_mem_cons, List.not_mem_nil, IsEmpty.forall_iff,
    implies_true, and_true]
  repeat' apply And.intro
  all_goals exact mentionsAny_of_chars rfl deniedWords_eq (by decide)

theorem ofList_size_le {l : List Char} {n : Nat} (h : (l.map Char.utf8Size).sum ≤ n) :
    (String.ofList l).utf8ByteSize ≤ n := by
  rwa [utf8ByteSize_of_chars rfl]

theorem fixedRefusals_size : ∀ text ∈ fixedRefusals, text.utf8ByteSize ≤ 100 := by
  simp only [fixedRefusals, List.forall_mem_cons, List.not_mem_nil, IsEmpty.forall_iff,
    implies_true, and_true]
  repeat' apply And.intro
  all_goals exact ofList_size_le (by decide)

theorem deniedPrefix_plain : mentionsAny "request denied: " (disallowedWords .denied none) = false :=
  mentionsAny_of_chars rfl deniedWords_eq (by decide)

/-- No word that may not stand in a denial begins inside the common beginning. -/
theorem deniedPrefix_detached : ∀ w ∈ disallowedWords .denied none,
    Words.detached (Words.lower "request denied: ".toList) w.toList = true := by
  decide

/-- A denial for one of the fixed reasons can always be recorded. -/
theorem fixedRefusals_recordable {text : String} (h : text ∈ fixedRefusals) :
    Recordable ("request denied: " ++ text) .denied none := by
  have hsize : "request denied: ".utf8ByteSize = 16 := utf8ByteSize_of_chars (by decide)
  have htext := fixedRefusals_size text h
  refine ⟨(isBoundedText_append hsize (by omega)).mpr (by omega), ?_⟩
  rw [mentionsAny_append deniedPrefix_detached deniedPrefix_plain]
  exact fixedRefusals_plain text h

end ForensicService

/-! ## Cut texts -/

/-- Cutting keeps a beginning of one-byte characters that is short enough. -/
theorem truncate_prefix {l r kept : List Char} {n : Nat} (h : truncate n (l ++ r) = some kept)
    (hl : ∀ c ∈ l, c.utf8Size = 1) (hn : l.length ≤ n) : l <+: kept := by
  induction l generalizing n kept with
  | nil => exact List.nil_prefix
  | cons c l ih =>
    obtain ⟨hc, hl⟩ := List.forall_mem_cons.mp hl
    have hpos : n ≠ 0 := by
      simp only [List.length_cons] at hn
      omega
    simp only [List.cons_append, truncate, if_neg hpos, hc] at h
    rw [if_pos (by omega), Option.map_eq_some_iff] at h
    obtain ⟨rest, hrest, rfl⟩ := h
    have hle : l.length ≤ n - 1 := by
      simp only [List.length_cons] at hn
      omega
    exact List.cons_prefix_cons.mpr ⟨rfl, ih hrest hl hle⟩

theorem boundedSummary_prefix {text rest summary : String}
    (h : boundedSummary (text ++ rest) = .ok summary) (ht : ∀ c ∈ text.toList, c.utf8Size = 1)
    (hlen : text.toList.length ≤ 157) : text.toList <+: summary.toList := by
  have htake : ((text ++ rest).toList.take 160) =
      text.toList ++ rest.toList.take (160 - text.toList.length) := by
    rw [String.toList_append, List.take_append, List.take_of_length_le (by omega)]
  simp only [boundedSummary] at h
  split at h
  · split at h
    · rename_i kept hk
      cases h
      rw [htake] at hk
      have hp := truncate_prefix hk ht hlen
      simpa using hp.trans (List.prefix_append kept _)
    · cases h
  · cases h
    rw [htake]
    simp

namespace ExecutionPipelineService

open ForensicService (Recordable disallowedWords)
open DecisionService (loaderRefusal resolveRouteDecision)

/-- Where a loader error decides the refusal, the recorder takes its text: cut
to the summary of the denial it is short enough and free of the recorder's words. -/
def RefusalRecordable (env : RunEnvironment) (inputs : ExecutionPipelineInputs)
    (context : RouteResolutionContext) : Prop :=
  ∀ request text summary, env.loaders.executionRequest inputs.request = .ok request →
    loaderRefusal env.loaders env.clock request inputs.requesterTrust inputs.policy context =
      some text →
    boundedSummary ("request denied: " ++ text) = .ok summary → Recordable summary .denied none

/-- The outcome of a denied run: its decision and one record of the denial. -/
structure DenialRecorded (d : RouteDecision) (outcome : ExecutionPipelineOutcome) : Prop where
  decision : outcome.routeDecision = d
  planDenial : outcome.planDenial = none
  trace : outcome.executionTrace = none
  record : ∃ record, outcome.forensicRecords = [record] ∧
    record.event.event.eventType = .denialIssued ∧
    record.event.event.requestId = d.requestId ∧
    record.event.event.correlationId = d.correlationId ∧ record.exportReference = none

section
variable {env : RunEnvironment} {inputs : ExecutionPipelineInputs}
  {context : RouteResolutionContext} {d : RouteDecision}

/-- What the resolver says of a denial, and the text behind it. -/
theorem denied_decision
    (hd : resolveRouteDecision env.loaders env.clock inputs.request inputs.requesterTrust
      inputs.policy inputs.capabilityRegistry context = .ok d)
    (hp : d.resolvedApprovalPosture = .denied) :
    FlagsFit d ∧ Denies d ∧ ∃ request, env.loaders.executionRequest inputs.request = .ok request ∧
      ((loaderRefusal env.loaders env.clock request inputs.requesterTrust inputs.policy context =
          none ∧ firstDenialSummary d.denialGuards ∈ fixedRefusals) ∨
        loaderRefusal env.loaders env.clock request inputs.requesterTrust inputs.policy context =
          some (firstDenialSummary d.denialGuards)) := by
  obtain ⟨request, registry, -, hr, hres⟩ := DecisionService.resolveRouteDecision_eq_ok hd
  obtain ⟨-, hflags, hdenies, -⟩ := ApprovalPostureResolver.resolve_spec hres
  exact ⟨hflags, hdenies hp, request, hr, DecisionService.denied_first hres hp⟩

/-- The summary of a denial is recordable exactly when the deciding loader's text is. -/
theorem denial_recordable_iff
    (hd : resolveRouteDecision env.loaders env.clock inputs.request inputs.requesterTrust
      inputs.policy inputs.capabilityRegistry context = .ok d)
    (hp : d.resolvedApprovalPosture = .denied) :
    Recordable d.operatorVisibleSummary .denied none ↔ RefusalRecordable env inputs context := by
  obtain ⟨-, hdenies, request, hr, hsource⟩ := denied_decision hd hp
  have hsummary := hdenies.summary
  rcases hsource with ⟨hnone, hfixed⟩ | hsome
  · have hrec : Recordable d.operatorVisibleSummary .denied none := by
      have he := (DecisionService.boundedSummary_fixed hfixed).symm.trans hsummary
      exact Except.ok.inj he ▸ ForensicService.fixedRefusals_recordable hfixed
    refine iff_of_true hrec fun request' text summary hr' ht => ?_
    rw [hr] at hr'
    cases hr'
    rw [hnone] at ht
    cases ht
  · constructor
    · intro hrec request' text summary hr' ht hs
      rw [hr] at hr'
      cases hr'
      rw [hsome] at ht
      cases ht
      rw [hsummary] at hs
      cases hs
      exact hrec
    · intro h
      exact h request _ _ hr hsome hsummary

/-- A denied run is one attempt to record the denial. -/
theorem denied_run (adapterSelection : Option AdapterSelection)
    (additionalAdapters : List CapabilityScopedAdapterSelection) (dispatchMode : DispatchMode)
    (log : List (WorldEvent BuiltAdapter))
    (hd : resolveRouteDecision env.loaders env.clock inputs.request inputs.requesterTrust
      inputs.policy inputs.capabilityRegistry context = .ok d)
    (hp : d.resolvedApprovalPosture = .denied) (hf : FlagsFit d) :
    run env inputs adapterSelection additionalAdapters dispatchMode none context log =
      ((ForensicService.recordEvent (env.freshEventId 0) ⟨.denialIssued d,
        .sensitiveFieldsRedacted, { recordedAtUtc := context.decidedAtUtc }⟩).map fun event =>
          { routeDecision := d, planDenial := none, executionTrace := none,
            forensicRecords := [{ event := event, exportReference := none }] }, log) := by
  have hrec := record_apply env 0 .sensitiveFieldsRedacted
    { recordedAtUtc := context.decidedAtUtc } log (ForensicService.validateRecordKind_denied hf hp)
  rw [run, hd, Traced.lift_ok_bind]
  simp only [hp, Traced.bind_apply, hrec]
  cases ForensicService.recordEvent (env.freshEventId 0) ⟨.denialIssued d,
    .sensitiveFieldsRedacted, { recordedAtUtc := context.decidedAtUtc }⟩ <;> rfl

theorem denied_run_iff (adapterSelection : Option AdapterSelection)
    (additionalAdapters : List CapabilityScopedAdapterSelection) (dispatchMode : DispatchMode)
    (log : List (WorldEvent BuiltAdapter))
    (hd : resolveRouteDecision env.loaders env.clock inputs.request inputs.requesterTrust
      inputs.policy inputs.capabilityRegistry context = .ok d)
    (hp : d.resolvedApprovalPosture = .denied) :
    (∃ outcome, run env inputs adapterSelection additionalAdapters dispatchMode none context log =
        (.ok outcome, log) ∧ DenialRecorded d outcome) ↔
      Recordable d.operatorVisibleSummary .denied none := by
  obtain ⟨hflags, -⟩ := denied_decision hd hp
  rw [denied_run _ _ _ _ hd hp hflags, ← ForensicService.denial_recorded_iff]
  constructor
  · rintro ⟨outcome, he, -⟩
    cases hev : ForensicService.recordEvent (env.freshEventId 0) ⟨.denialIssued d,
        .sensitiveFieldsRedacted, { recordedAtUtc := context.decidedAtUtc }⟩ with
    | error e => simp [hev, Except.map] at he
    | ok event => exact ⟨event, rfl⟩
  · rintro ⟨event, hev⟩
    have he := (ForensicService.recordEvent_eq_ok.mp hev).2
    rw [hev]
    refine ⟨_, rfl, rfl, rfl, rfl, _, rfl, ?_⟩
    simp [he, ForensicService.recordedEvent, ForensicService.buildForensicRecord]

/-- A text with "failed" in its beginning is never recorded as a denial. -/
theorem failed_unrecordable {text rest summary : String}
    (h : boundedSummary (text ++ rest) = .ok summary) (ht : ∀ c ∈ text.toList, c.utf8Size = 1)
    (hlen : text.toList.length ≤ 157) (hm : Words.mentions text "failed" = true) :
    ¬ Recordable summary .denied none := by
  intro hrec
  have hp := boundedSummary_prefix h ht hlen
  have hword : "failed" ∈ disallowedWords .denied none := by
    simp only [disallowedWords, ForensicService.failureWords, reduceCtorEq, or_self, if_false,
      List.mem_append, List.mem_cons, true_or, or_true]
  have hfree := (Words.mentionsAny_eq_false _ _).mp hrec.plain "failed" hword
  rw [mentions_of_part hp.isInfix hm] at hfree
  cases hfree

/-- How the refusal of a value that violates its schema begins. -/
def violationText (gate : String) : String :=
  "request denied: " ++ gate ++ "schema validation failed for "

theorem violationText_display (gate schema : String) (errors : List String)
    (plain : Char → Bool) :
    "request denied: " ++ (gate ++ (FaLocalError.schemaValidation schema errors).display plain) =
      violationText gate ++ (schema ++ ": " ++ debugList plain errors) := by
  have hdisplay : (FaLocalError.schemaValidation schema errors).display plain =
      "schema validation failed for " ++ schema ++ ": " ++ debugList plain errors := rfl
  have htext : violationText gate = "request denied: " ++ gate ++ "schema validation failed for " := rfl
  rw [hdisplay, htext]
  simp only [String.append_assoc]

/-- An envelope or a policy that violates its schema is refused without a record. -/
theorem schemaViolation_unrecordable {request : ExecutionRequest} {gate schema : String}
    {errors : List String}
    (hg : gate = "malformed requester envelope: " ∨ gate = "invalid policy artifact: ")
    (hd : resolveRouteDecision env.loaders env.clock inputs.request inputs.requesterTrust
      inputs.policy inputs.capabilityRegistry context = .ok d)
    (hp : d.resolvedApprovalPosture = .denied)
    (hr : env.loaders.executionRequest inputs.request = .ok request)
    (hl : loaderRefusal env.loaders env.clock request inputs.requesterTrust inputs.policy context =
      some (gate ++ (FaLocalError.schemaValidation schema errors).display
        env.loaders.plainChar)) : ¬ RefusalRecordable env inputs context := by
  obtain ⟨-, hdenies, request', hr', hsource⟩ := denied_decision hd hp
  rw [hr] at hr'
  cases hr'
  have hfirst : gate ++ (FaLocalError.schemaValidation schema errors).display
      env.loaders.plainChar = firstDenialSummary d.denialGuards := by
    rcases hsource with ⟨hnone, -⟩ | hsome
    · exact absurd (hl.symm.trans hnone) (Option.some_ne_none _)
    · exact Option.some.inj (hl.symm.trans hsome)
  have htext := hdenies.summary
  rw [← hfirst, violationText_display] at htext
  rw [← denial_recordable_iff hd hp]
  rcases hg with rfl | rfl
  · exact failed_unrecordable htext (forall_mem_of_all (by decide)) (by decide)
      (by decide)
  · exact failed_unrecordable htext (forall_mem_of_all (by decide)) (by decide)
      (by decide)

end

end ExecutionPipelineService

/-! Two refused envelopes: one that is no object, and one without an expiry. -/

namespace Fixture

/-- The fixture clock over given files; the adapters answer by the request. -/
def environment (loaders : ContractLoaders) (digest : PlanDigest)
    (answer : AdapterDeliveryRequest → AdapterDeliveryResult) : RunEnvironment where
  loaders := loaders
  digest := digest
  clock := clock
  planClock := at2030 600
  freshEventId := fun index => ⟨uuid (UInt8.ofNat index)⟩
  deliverRoute := fun _ _ request => answer request

def inputs (requesterTrust : Value) (executionPlan : Option Value) : ExecutionPipelineInputs where
  request := .null
  requesterTrust := requesterTrust
  policy := .null
  capabilityRegistry := .null
  executionPlan := executionPlan

def unexpiringEnvelope : Value := .object [
  ("requester_id", .string "11111111-1111-4111-8111-111111111111"),
  ("requester_class", .string "trusted_app_surface"),
  ("app_context", .object [("app_id", .string "forge-author"), ("app_version", .string "1.0.0"),
    ("installation_id", .string "22222222-2222-4222-8222-222222222222")]),
  ("environment_mode", .string "prod"),
  ("trust_basis", .string "signed_local_surface"),
  ("trust_basis_provenance", .string "signed_manifest"),
  ("user_intent_basis", .string "explicit_user_action"),
  ("request_nonce_or_token", .string "signed-token-2030-0001"),
  ("issued_at", .string "2029-12-31T23:00:00Z")]

/-- The fixture files with an envelope that violates its schema. -/
def violatingLoaders : ContractLoaders :=
  { loaders with
    requesterTrust := fun _ => .error (.schemaValidation "requester-trust.schema.json"
      ["\"expires_at\" is a required property"]) }

def refusing : RunEnvironment :=
  environment violatingLoaders fallbackDigest fun _ => .deliveredAllSteps

end Fixture

namespace ExecutionPipelineService

open ForensicService (Recordable disallowedWords)
open DecisionService (loaderRefusal resolveRouteDecision)

/-- A denied run returns its decision with one record of the denial, exactly
when the recorder takes the text of the loader that decided the refusal. -/
theorem denied_run_recorded_iff (env : RunEnvironment) (inputs : ExecutionPipelineInputs)
    (adapterSelection : Option AdapterSelection)
    (additionalAdapters : List CapabilityScopedAdapterSelection) (dispatchMode : DispatchMode)
    (context : RouteResolutionContext) (log : List (WorldEvent BuiltAdapter)) {d : RouteDecision}
    (hd : resolveRouteDecision env.loaders env.clock inputs.request inputs.requesterTrust
      inputs.policy inputs.capabilityRegistry context = .ok d)
    (hp : d.resolvedApprovalPosture = .denied) :
    (∃ outcome, run env inputs adapterSelection additionalAdapters dispatchMode none context log =
        (.ok outcome, log) ∧ DenialRecorded d outcome) ↔
      RefusalRecordable env inputs context :=
  (denied_run_iff _ _ _ _ hd hp).trans (denial_recordable_iff hd hp)

theorem denied_run_recorded_no_object : ∃ d,
    resolveRouteDecision Fixture.refusing.loaders Fixture.refusing.clock .null .null .null .null
      Fixture.context = .ok d ∧ d.resolvedApprovalPosture = .denied ∧
    ((∃ outcome, run Fixture.refusing (Fixture.inputs .null none) none [] .wholeRoute none
        Fixture.context [] = (.ok outcome, []) ∧ DenialRecorded d outcome) ↔
      RefusalRecordable Fixture.refusing (Fixture.inputs .null none) Fixture.context) := by
  have hden : (resolveRouteDecision Fixture.refusing.loaders Fixture.refusing.clock .null .null
      .null .null Fixture.context).map (·.resolvedApprovalPosture) = .ok .denied := by
    decide
  cases hd : resolveRouteDecision Fixture.refusing.loaders Fixture.refusing.clock .null .null
      .null .null Fixture.context with
  | error e =>
    rw [hd] at hden
    cases hden
  | ok d =>
    rw [hd] at hden
    have hp : d.resolvedApprovalPosture = .denied := Except.ok.inj hden
    exact ⟨d, rfl, hp, denied_run_recorded_iff Fixture.refusing (Fixture.inputs .null none) none []
      .wholeRoute Fixture.context [] hd hp⟩

/-- The envelope without an expiry is denied, and the run is an error. -/
theorem denied_run_unrecorded : ∃ d,
    resolveRouteDecision Fixture.refusing.loaders Fixture.refusing.clock .null
      Fixture.unexpiringEnvelope .null .null Fixture.context = .ok d ∧
    d.resolvedApprovalPosture = .denied ∧
    ¬ ∃ outcome, run Fixture.refusing (Fixture.inputs Fixture.unexpiringEnvelope none) none []
      .wholeRoute none Fixture.context [] = (.ok outcome, []) ∧ DenialRecorded d outcome := by
  have hden : (resolveRouteDecision Fixture.refusing.loaders Fixture.refusing.clock .null
      Fixture.unexpiringEnvelope .null .null Fixture.context).map (·.resolvedApprovalPosture) =
        .ok .denied := by
    decide +kernel
  cases hd : resolveRouteDecision Fixture.refusing.loaders Fixture.refusing.clock .null
      Fixture.unexpiringEnvelope .null .null Fixture.context with
  | error e =>
    rw [hd] at hden
    cases hden
  | ok d =>
    rw [hd] at hden
    have hp : d.resolvedApprovalPosture = .denied := Except.ok.inj hden
    have hd' : resolveRouteDecision Fixture.refusing.loaders Fixture.refusing.clock
        (Fixture.inputs Fixture.unexpiringEnvelope none).request
        (Fixture.inputs Fixture.unexpiringEnvelope none).requesterTrust
        (Fixture.inputs Fixture.unexpiringEnvelope none).policy
        (Fixture.inputs Fixture.unexpiringEnvelope none).capabilityRegistry Fixture.context =
          .ok d := hd
    refine ⟨d, rfl, hp, ?_⟩
    rw [denied_run_iff none [] .wholeRoute [] hd' hp, denial_recordable_iff hd' hp]
    exact schemaViolation_unrecordable (.inl rfl) hd' hp rfl rfl

end ExecutionPipelineService

end FaLocal
