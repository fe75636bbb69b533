import FaLocal.GnatSchema
import FaLocal.ReconnaissanceText
import FaLocal.SealedCorpusReceipt
import FaLocal.StatusSchema

/-!
# Writeback to DataForge Local

The artifact that `DfLocalAdapter` posts for a status, with its idempotency key and its
signature. The digest, the clock, fresh identifiers and the service behind the post are
parameters; nothing is assumed of the digest, so that two results can agree by a collision.
-/
namespace FaLocal

/-- `Sha256::digest` -/
abbrev Digest : Type := ByteArray → Vector UInt8 32

/-- Two texts that differ and have one digest. -/
def Digest.Collides (digest : Digest) (x y : String) : Prop :=
  x ≠ y ∧ digest x.toUTF8 = digest y.toUTF8

/-- `hex_digest` -/
def hexDigest (digest : Digest) (text : String) : String :=
  String.ofList ((digest text.toUTF8).toList.flatMap hexByte)

theorem hexDigest_eq_iff {digest : Digest} {x y : String} :
    hexDigest digest x = hexDigest digest y ↔ x = y ∨ digest.Collides x y := by
  constructor
  · intro h
    have hbytes : digest x.toUTF8 = digest y.toUTF8 :=
      Vector.toList_inj.mp (flatMap_hexByte_inj (String.ofList_injective h))
    by_cases hxy : x = y
    · exact .inl hxy
    · exact .inr ⟨hxy, hbytes⟩
  · rintro (rfl | ⟨-, hbytes⟩)
    · rfl
    · rw [hexDigest, hexDigest, hbytes]

namespace DfLocal

def artifactProducerSystem : String := "fa-local-operator"

def producedByComponent : String := "execution_service.status_emitter"

def executionStatusEventFamily : String := "execution_status_event"

def executionStatusEventVersion : UInt32 := 1

def dataforgeLocalDefaultUrl : String := "http://127.0.0.1:8005"

def dataforgeLocalStatusEventsPath : String := "/api/v1/execution-bridge/status-events"

structure ExecutionStatusWritebackRequest where
  requestId : RequestId
  correlationId : CorrelationId
  status : ValidatedExecutionStatus

/-- `ExecutionStatusWritebackRequest::new` -/
def ExecutionStatusWritebackRequest.new (status : ValidatedExecutionStatus) :
    ExecutionStatusWritebackRequest where
  requestId := status.status.requestId
  correlationId := status.status.correlationId
  status := status

structure ExecutionStatusWritebackResult where
  requestId : RequestId
  correlationId : CorrelationId
  acknowledged : Bool
  deriving DecidableEq

/-! ## The artifact -/

/-- What the idempotency key is the digest of. -/
def idempotencyText (artifactFamily : String) (artifactId : Uuid) (artifactVersion : UInt32)
    (lineageRootId : Uuid) : String :=
  artifactFamily ++ "|" ++ String.ofList artifactId.hyphenated ++ "|" ++
    toString artifactVersion.toNat ++ "|" ++ String.ofList lineageRootId.hyphenated

def computeIdempotencyKey (digest : Digest) (artifactFamily : String) (artifactId : Uuid)
    (artifactVersion : UInt32) (lineageRootId : Uuid) : String :=
  hexDigest digest (idempotencyText artifactFamily artifactId artifactVersion lineageRootId)

/-- The payload; an object of `json!` keeps its members in the order of their names. -/
def payload (times : DateTimes) (status : ExecutionStatus) : Value := .object [
  ("completed_at_utc", optionValue (fun t => .string (times.text t)) status.completedAtUtc),
  ("completion_summary", optionValue .string status.completionSummary),
  ("correlation_id", status.correlationId.toValue),
  ("current_posture", status.currentPosture.toValue),
  ("current_step", optionValue .string status.currentStep),
  ("degraded_subtype", optionValue DegradedSubtype.toValue status.degradedSubtype),
  ("execution_plan_id", optionValue UuidId.toValue status.executionPlanId),
  ("failure_summary", optionValue .string status.failureSummary),
  ("request_id", status.requestId.toValue),
  ("stable_plan_hash", optionValue .string status.stablePlanHash),
  ("started_at_utc", optionValue (fun t => .string (times.text t)) status.startedAtUtc),
  ("state", status.state.toValue),
  ("truthful_operator_summary", .string status.truthfulUserVisibleSummary),
  ("updated_at_utc", .string (times.text status.updatedAtUtc))]

/-- `payload.to_string()` -/
def payloadText (times : DateTimes) (status : ExecutionStatus) : String :=
  String.ofList (payload times status).compact

def signature (digest : Digest) (times : DateTimes) (status : ExecutionStatus) : String :=
  "sha256:" ++ hexDigest digest (payloadText times status)

/-- The artifact is the root of its lineage. -/
def buildStatusEventArtifact (digest : Digest) (times : DateTimes) (artifactId : Uuid)
    (now : TimestampUtc) (request : ExecutionStatusWritebackRequest) : Value := .object [
  ("artifact_family", .string executionStatusEventFamily),
  ("artifact_id", .string (String.ofList artifactId.hyphenated)),
  ("artifact_version", natValue executionStatusEventVersion.toNat),
  ("created_at", .string (times.text now)),
  ("idempotency_key", .string (computeIdempotencyKey digest executionStatusEventFamily artifactId
    executionStatusEventVersion artifactId)),
  ("lineage_root_id", .string (String.ofList artifactId.hyphenated)),
  ("parent_artifact_id", .null),
  ("payload", payload times request.status.status),
  ("produced_by_component", .string producedByComponent),
  ("produced_by_system", .string artifactProducerSystem),
  ("promotion_class", .string "local_only"),
  ("recorded_at", .string (times.text now)),
  ("sensitivity_class", .string "internal"),
  ("signature", .string (signature digest times request.status.status)),
  ("signer_identity", .string (artifactProducerSystem ++ "/" ++ producedByComponent ++
    "@execution-bridge-v1")),
  ("source_scope", .string "local"),
  ("trace_id", .string request.correlationId.display),
  ("validation_status", .string "valid"),
  ("visibility_class", .string "operator")]

/-! ## The post -/

/-- What `ureq` makes of an answer: a status below 400, a refusing status with its body where
that can be read, or why nothing came. -/
inductive WritebackAnswer where
  | response (status : UInt16)
  | status (status : UInt16) (body : Option String)
  | transport (text : String)

/-- What a writeback takes from outside; `dataforgeLocalUrl` is the variable of that name. -/
structure DfLocalHost where
  dataforgeLocalUrl : Option String
  newV4 : Uuid
  now : TimestampUtc
  post : String → Value → WritebackAnswer

def dataforgeLocalBaseUrl (host : DfLocalHost) : String :=
  host.dataforgeLocalUrl.getD dataforgeLocalDefaultUrl

/-- `DfLocalAdapter::post_execution_status_event` -/
def postExecutionStatusEvent (digest : Digest) (times : DateTimes) (host : DfLocalHost)
    (request : ExecutionStatusWritebackRequest) : FaLocalResult ExecutionStatusWritebackResult :=
  let artifact := buildStatusEventArtifact digest times host.newV4 host.now request
  let url := dataforgeLocalBaseUrl host ++ dataforgeLocalStatusEventsPath
  match host.post url artifact with
  | .response status => .ok {
      requestId := request.requestId
      correlationId := request.correlationId
      acknowledged := status == 200 || status == 201 }
  | .status status body => .error (.returned (.writebackFailed
      ("DataForge Local rejected the writeback (status " ++ toString status.toNat ++ "): " ++
        body.getD "<unreadable response body>")))
  | .transport text => .error (.returned (.writebackFailed
      ("could not reach DataForge Local at " ++ url ++ ": " ++ text)))

/-! ## What the texts tell -/

/-- Times of the years that contracts can write. -/
structure TimesFit (status : ExecutionStatus) : Prop where
  startedAtUtc : ∀ t ∈ status.startedAtUtc, FourDigitYear t
  updatedAtUtc : FourDigitYear status.updatedAtUtc
  completedAtUtc : ∀ t ∈ status.completedAtUtc, FourDigitYear t

section
variable {digest : Digest} {times : TimeTexts} {status status' : ExecutionStatus}

theorem optionValue_inj {β : Type} {write : β → Value} {o o' : Option β}
    (hnull : ∀ b, write b ≠ .null) (hwrite : ∀ b ∈ o, ∀ b' ∈ o', write b = write b' → b = b')
    (h : optionValue write o = optionValue write o') : o = o' := by
  cases o with
  | none =>
    cases o' with
    | none => rfl
    | some b' => exact absurd h.symm (hnull b')
  | some b =>
    cases o' with
    | none => exact absurd h (hnull b)
    | some b' => rw [hwrite b rfl b' rfl h]

theorem text_inj (htimes : times.Rfc3339) {t t' : TimestampUtc} (ht : FourDigitYear t)
    (ht' : FourDigitYear t') (h : times.text t = times.text t') : t = t' := by
  have hparse := htimes.parse_text t ht
  rw [h, htimes.parse_text t' ht'] at hparse
  exact (Option.some.inj hparse).symm

theorem times_inj (htimes : times.Rfc3339) {o o' : Option TimestampUtc}
    (ho : ∀ t ∈ o, FourDigitYear t) (ho' : ∀ t ∈ o', FourDigitYear t)
    (h : optionValue (fun t => .string (times.text t)) o =
      optionValue (fun t => .string (times.text t)) o') : o = o' := by
  refine optionValue_inj (fun t ht => by cases ht) ?_ h
  intro t ht t' ht' heq
  exact text_inj htimes (ho t ht) (ho' t' ht') (Value.string.inj heq)

theorem strings_inj {o o' : Option String}
    (h : optionValue Value.string o = optionValue Value.string o') : o = o' := by
  refine optionValue_inj (fun s hs => by cases hs) ?_ h
  intro s _ s' _ heq
  exact Value.string.inj heq

theorem toValue_inj {k : IdKind} {i i' : UuidId k} (h : i.toValue = i'.toValue) : i = i' :=
  UuidId.display_inj (Value.string.inj h)

/-- No two statuses have one payload. -/
theorem payload_inj (htimes : times.Rfc3339) (h : TimesFit status) (h' : TimesFit status')
    (heq : payload times.toDateTimes status = payload times.toDateTimes status') :
    status = status' := by
  simp only [payload, Value.object.injEq, List.cons.injEq, Prod.mk.injEq, true_and,
    and_true] at heq
  obtain ⟨hcompleted, hcompletion, hcorrelation, hposture, hstep, hsubtype, hplan, hfailure,
    hrequest, hhash, hstarted, hstate, hsummary, hupdated⟩ := heq
  have hsubtypes : status.degradedSubtype = status'.degradedSubtype := by
    refine optionValue_inj (fun s hs => by cases hs) ?_ hsubtype
    intro s _ s' _ hnames
    exact DegradedSubtype.serdeName_inj (Value.string.inj hnames)
  have hplans : status.executionPlanId = status'.executionPlanId := by
    refine optionValue_inj (fun i hi => by cases hi) ?_ hplan
    intro i _ i' _ hids
    exact toValue_inj hids
  cases status
  cases status'
  simp only [ExecutionStatus.mk.injEq]
  exact ⟨toValue_inj hrequest, toValue_inj hcorrelation, hplans, strings_inj hhash,
    ApprovalPosture.serdeName_inj (Value.string.inj hposture),
    ExecutionState.serdeName_inj (Value.string.inj hstate), hsubtypes,
    times_inj htimes h.startedAtUtc h'.startedAtUtc hstarted,
    text_inj htimes h.updatedAtUtc h'.updatedAtUtc (Value.string.inj hupdated),
    times_inj htimes h.completedAtUtc h'.completedAtUtc hcompleted, strings_inj hstep,
    strings_inj hcompletion, strings_inj hfailure, Value.string.inj hsummary⟩

theorem payload_plain (times : DateTimes) (status : ExecutionStatus) :
    (payload times status).Plain := by
  have hsubtype : (optionValue DegradedSubtype.toValue status.degradedSubtype).Plain :=
    optionValue_plain (fun subtype => .string (DegradedSubtype.serdeName subtype)) _
  simp [payload, optionValue_plain, UuidId.toValue, ApprovalPosture.toValue,
    ExecutionState.toValue, hsubtype]

theorem payloadText_inj (htimes : times.Rfc3339) (h : TimesFit status) (h' : TimesFit status')
    (heq : payloadText times.toDateTimes status = payloadText times.toDateTimes status') :
    status = status' :=
  payload_inj htimes h h' (compact_injective (payload_plain _ _) (payload_plain _ _)
    (String.ofList_injective heq))

/-- The signature tells the status, but for a collision. -/
theorem signature_eq_iff (htimes : times.Rfc3339) (h : TimesFit status) (h' : TimesFit status') :
    signature digest times.toDateTimes status = signature digest times.toDateTimes status' ↔
      status = status' ∨ digest.Collides (payloadText times.toDateTimes status)
        (payloadText times.toDateTimes status') := by
  rw [signature, signature, String.append_right_inj, hexDigest_eq_iff]
  constructor
  · rintro (htext | hcollides)
    · exact .inl (payloadText_inj htimes h h' htext)
    · exact .inr hcollides
  · rintro (rfl | hcollides)
    · exact .inl rfl
    · exact .inr hcollides

theorem bar_hyphenated (u : Uuid) : '|' ∉ u.hyphenated := by
  intro h
  rcases mem_hyphenated h with hbar | hhex
  · cases hbar
  · exact absurd hhex (by decide)

theorem bar_digits (n : Nat) : '|' ∉ Nat.toDigits 10 n := by
  intro h
  have hdigit := Nat.isDigit_of_mem_toDigits (by decide) (by decide) h
  cases hdigit

theorem idempotencyText_toList (artifactFamily : String) (artifactId : Uuid)
    (artifactVersion : UInt32) (lineageRootId : Uuid) :
    (idempotencyText artifactFamily artifactId artifactVersion lineageRootId).toList =
      ((artifactFamily.toList ++ '|' :: artifactId.hyphenated) ++
        '|' :: Nat.toDigits 10 artifactVersion.toNat) ++ '|' :: lineageRootId.hyphenated := by
  simp [idempotencyText, Nat.toList_repr]

/-- The text is taken apart from its end, where no part holds a bar; the family may hold any. -/
theorem idempotencyText_inj {f f' : String} {a a' : Uuid} {v v' : UInt32} {l l' : Uuid}
    (h : idempotencyText f a v l = idempotencyText f' a' v' l') :
    f = f' ∧ a = a' ∧ v = v' ∧ l = l' := by
  have hchars := congrArg String.toList h
  rw [idempotencyText_toList, idempotencyText_toList] at hchars
  obtain ⟨hchars, hlineage⟩ :=
    Delimited.cut_last (bar_hyphenated l) (bar_hyphenated l') hchars
  obtain ⟨hchars, hversion⟩ := Delimited.cut_last (bar_digits _) (bar_digits _) hchars
  obtain ⟨hfamily, hartifact⟩ :=
    Delimited.cut_last (bar_hyphenated a) (bar_hyphenated a') hchars
  have hnat : v.toNat = v'.toNat := by
    rw [← Nat.ofDigitChars_ten_toDigits (n := v.toNat), hversion, Nat.ofDigitChars_ten_toDigits]
  exact ⟨String.toList_inj.mp hfamily, hyphenated_inj hartifact, UInt32.toNat_inj.mp hnat,
    hyphenated_inj hlineage⟩

theorem buildStatusEventArtifact_plain (digest : Digest) (times : DateTimes) (artifactId : Uuid)
    (now : TimestampUtc) (request : ExecutionStatusWritebackRequest) :
    (buildStatusEventArtifact digest times artifactId now request).Plain := by
  have hversion : (natValue executionStatusEventVersion.toNat).Plain := numberValue_plain _
  have hpayload := payload_plain times request.status.status
  simp [buildStatusEventArtifact, hversion, hpayload, Value.Plain.null]

end

/-! ## What a post obtains -/

/-- A writeback is acknowledged by a status of 200 or 201 alone. -/
theorem acknowledged_iff {digest : Digest} {times : DateTimes} {host : DfLocalHost}
    {request : ExecutionStatusWritebackRequest} :
    (∃ result, postExecutionStatusEvent digest times host request = .ok result ∧
        result.acknowledged = true) ↔
      ∃ status, host.post (dataforgeLocalBaseUrl host ++ dataforgeLocalStatusEventsPath)
          (buildStatusEventArtifact digest times host.newV4 host.now request) =
            .response status ∧ (status = 200 ∨ status = 201) := by
  rw [postExecutionStatusEvent]
  cases host.post (dataforgeLocalBaseUrl host ++ dataforgeLocalStatusEventsPath)
    (buildStatusEventArtifact digest times host.newV4 host.now request) with
  | response status => simp
  | status status body => simp
  | transport text => simp

end DfLocal

open DfLocal

/-- The text of an artifact tells everything about a writeback but the request it answers, which
its payload names by the status. -/
theorem DfLocal.artifact_text_eq_iff {digest : Digest} {times : TimeTexts}
    (htimes : times.Rfc3339) {artifactId artifactId' : Uuid} {now now' : TimestampUtc}
    (hnow : FourDigitYear now) (hnow' : FourDigitYear now')
    {request request' : ExecutionStatusWritebackRequest}
    (h : TimesFit request.status.status) (h' : TimesFit request'.status.status) :
    (buildStatusEventArtifact digest times.toDateTimes artifactId now request).compact =
        (buildStatusEventArtifact digest times.toDateTimes artifactId' now' request').compact ↔
      artifactId = artifactId' ∧ now = now' ∧ request.correlationId = request'.correlationId ∧
        request.status.status = request'.status.status := by
  constructor
  · intro heq
    have hvalue := compact_injective (buildStatusEventArtifact_plain _ _ _ _ _)
      (buildStatusEventArtifact_plain _ _ _ _ _) heq
    simp only [buildStatusEventArtifact, Value.object.injEq, List.cons.injEq, Prod.mk.injEq,
      Value.string.injEq, true_and, and_true] at hvalue
    obtain ⟨hid, hcreated, -, -, hpayload, -, -, htrace⟩ := hvalue
    exact ⟨hyphenated_inj (String.ofList_injective hid), text_inj htimes hnow hnow' hcreated,
      UuidId.display_inj htrace, payload_inj htimes h h' hpayload⟩
  · rintro ⟨rfl, rfl, hcorrelation, hstatus⟩
    rw [buildStatusEventArtifact, buildStatusEventArtifact, hcorrelation, hstatus]

namespace Fixture

/-- The first bytes of a text for its digest. -/
def leadingBytes : Digest := fun bytes => Vector.ofFn fun i => bytes[i.val]?.getD 0

def writebackRequest : ExecutionStatusWritebackRequest :=
  .new ⟨inProgressStatus, inProgressStatus_valid⟩

theorem inProgressStatus_timesFit : TimesFit inProgressStatus :=
  ⟨inProgressStatus_writable.startedAtUtc, inProgressStatus_writable.updatedAtUtc,
    inProgressStatus_writable.completedAtUtc⟩

/-- A host whose next identifier is of one byte. -/
def writebackHost (byte : UInt8) : DfLocalHost where
  dataforgeLocalUrl := none
  newV4 := (idOf .forensicEvent byte 1).uuid
  now := at2030 607
  post _ _ := .response 201

end Fixture

/-- A request renamed by hand leaves no trace. -/
theorem DfLocal.artifact_text_eq_renamed :
    (buildStatusEventArtifact Fixture.leadingBytes Fixture.timeTexts.toDateTimes
        (Fixture.writebackHost 1).newV4 (Fixture.at2030 607) Fixture.writebackRequest).compact =
      (buildStatusEventArtifact Fixture.leadingBytes Fixture.timeTexts.toDateTimes
        (Fixture.writebackHost 1).newV4 (Fixture.at2030 607)
        { Fixture.writebackRequest with requestId := Fixture.idOf .request 9 9 }).compact := by
  have hnow : FourDigitYear (Fixture.at2030 607) := by decide
  exact (DfLocal.artifact_text_eq_iff Fixture.timeTexts_rfc3339 hnow hnow
    Fixture.inProgressStatus_timesFit Fixture.inProgressStatus_timesFit).mpr
      ⟨rfl, rfl, rfl, rfl⟩

/-- No two writebacks are told to be one, not even of one status, but for a collision. -/
theorem DfLocal.writebacks_keys (digest : Digest) (times : DateTimes)
    {calls : List (DfLocalHost × ExecutionStatusWritebackRequest)}
    (hfresh : (calls.map fun call => call.1.newV4).Nodup) :
    (calls.map fun call => (buildStatusEventArtifact digest times call.1.newV4 call.1.now
        call.2).get "idempotency_key").Nodup ∨
      ∃ call ∈ calls, ∃ call' ∈ calls, digest.Collides
        (idempotencyText executionStatusEventFamily call.1.newV4 executionStatusEventVersion
          call.1.newV4)
        (idempotencyText executionStatusEventFamily call'.1.newV4 executionStatusEventVersion
          call'.1.newV4) := by
  by_cases hcollides : ∃ call ∈ calls, ∃ call' ∈ calls, digest.Collides
      (idempotencyText executionStatusEventFamily call.1.newV4 executionStatusEventVersion
        call.1.newV4)
      (idempotencyText executionStatusEventFamily call'.1.newV4 executionStatusEventVersion
        call'.1.newV4)
  · exact .inr hcollides
  · refine .inl ((List.Nodup.of_map _ hfresh).map_on ?_)
    intro call hcall call' hcall' hkey
    have hdigest : hexDigest digest (idempotencyText executionStatusEventFamily call.1.newV4
          executionStatusEventVersion call.1.newV4) =
        hexDigest digest (idempotencyText executionStatusEventFamily call'.1.newV4
          executionStatusEventVersion call'.1.newV4) :=
      Value.string.inj (Option.some.inj hkey)
    rcases hexDigest_eq_iff.mp hdigest with htext | hcollision
    · obtain ⟨-, hid, -, -⟩ := idempotencyText_inj htext
      exact List.inj_on_of_nodup_map hfresh hcall hcall' hid
    · exact absurd ⟨call, hcall, call', hcall', hcollision⟩ hcollides

/-- One status written back twice is no replay. -/
theorem DfLocal.writebacks_keys_twice :
    ([(Fixture.writebackHost 1, Fixture.writebackRequest),
        (Fixture.writebackHost 2, Fixture.writebackRequest)].map fun call =>
      (buildStatusEventArtifact Fixture.leadingBytes Fixture.timeTexts.toDateTimes call.1.newV4
        call.1.now call.2).get "idempotency_key").Nodup := by
  have hfresh : ([(Fixture.writebackHost 1, Fixture.writebackRequest),
      (Fixture.writebackHost 2, Fixture.writebackRequest)].map fun call =>
        call.1.newV4).Nodup := by
    decide
  rcases DfLocal.writebacks_keys Fixture.leadingBytes Fixture.timeTexts.toDateTimes hfresh with
    hkeys | ⟨call, hcall, call', hcall', hne, hdigest⟩
  · exact hkeys
  · simp only [List.mem_cons, List.not_mem_nil, or_false] at hcall hcall'
    rcases hcall with rfl | rfl <;> rcases hcall' with rfl | rfl
    · exact absurd rfl hne
    · exact absurd hdigest (by decide +kernel)
    · exact absurd hdigest (by decide +kernel)
    · exact absurd rfl hne

end FaLocal
