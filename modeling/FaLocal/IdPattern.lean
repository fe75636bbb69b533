import FaLocal.CapabilitySchema
import FaLocal.UuidText

/-!
# Identifiers of paths and of registries

The pattern of the schema asks for a version and a variant, which the segment of a path is
not checked for. A segment of the form without them is no malformed identifier for the
route, and no registry that is accepted lists it.
-/
namespace FaLocal

/-! ## Version and variant -/

/-- `[1-5]` -/
def isVersionDigit (c : Char) : Bool := '1' ≤ c && c ≤ '5'

/-- `[89abAB]` -/
def isVariantDigit (c : Char) : Bool := ['8', '9', 'a', 'b', 'A', 'B'].contains c

/-- The digits of a version and of the variant, where a text is that long. -/
structure VersionDigits (text : List Char) : Prop where
  version : ∀ c ∈ text[14]?, isVersionDigit c = true
  variant : ∀ c ∈ text[19]?, isVariantDigit c = true

instance : DecidablePred VersionDigits := fun text =>
  decidable_of_iff ((∀ c ∈ text[14]?, isVersionDigit c = true) ∧
    ∀ c ∈ text[19]?, isVariantDigit c = true)
    ⟨fun h => ⟨h.1, h.2⟩, fun h => ⟨h.version, h.variant⟩⟩

/-- The pattern's check of the character at a place. -/
def uuidChar (index : Nat) (c : Char) : Bool :=
  if index = 14 then isVersionDigit c
  else if index = 19 then isVariantDigit c
  else segmentChar index c

theorem uuidShape_eq : uuidShape = (List.range' 0 36).map uuidChar := rfl

theorem isHex_of_isVersionDigit {c : Char} (h : isVersionDigit c = true) : isHex c = true := by
  have hdigit : c.isDigit = true := by
    simp only [isVersionDigit, Bool.and_eq_true, decide_eq_true_eq, Char.le_def,
      UInt32.le_iff_toNat_le] at h
    simp only [Char.isDigit, Bool.and_eq_true, decide_eq_true_eq, ge_iff_le,
      UInt32.le_iff_toNat_le]
    have h₁ : '1'.val.toNat = 49 := rfl
    have h₅ : '5'.val.toNat = 53 := rfl
    have hzero : '0'.val.toNat = 48 := rfl
    have hnine : '9'.val.toNat = 57 := rfl
    omega
  rw [isHex, hdigit]
  rfl

theorem isHex_of_isVariantDigit {c : Char} (h : isVariantDigit c = true) : isHex c = true := by
  simp only [isVariantDigit, List.contains_iff_mem, List.mem_cons, List.not_mem_nil,
    or_false] at h
  rcases h with rfl | rfl | rfl | rfl | rfl | rfl <;> decide

/-- The pattern asks for the form and, at two places, for less than every digit. -/
theorem uuidChar_iff (index : Nat) (c : Char) : uuidChar index c = true ↔
    segmentChar index c = true ∧ (index = 14 → isVersionDigit c = true) ∧
      (index = 19 → isVariantDigit c = true) := by
  by_cases h14 : index = 14
  · subst h14
    have hform : isVersionDigit c = true → segmentChar 14 c = true := isHex_of_isVersionDigit
    rw [uuidChar, if_pos rfl]
    simpa using hform
  · by_cases h19 : index = 19
    · subst h19
      have hform : isVariantDigit c = true → segmentChar 19 c = true := isHex_of_isVariantDigit
      rw [uuidChar, if_neg (by decide), if_pos rfl]
      simpa using hform
    · rw [uuidChar, if_neg h14, if_neg h19]
      simp [h14, h19]

/-- The texts of the pattern are the segments of the form with these digits. -/
theorem isUuidText_iff (text : String) :
    isUuidText text = true ↔ IsIdSegment text ∧ VersionDigits text.toList := by
  have hplace : ∀ (n : Nat) (check : Char → Bool),
      (∀ entry ∈ text.toList.zipIdx, entry.2 = n → check entry.1 = true) ↔
        ∀ c ∈ text.toList[n]?, check c = true := by
    intro n check
    constructor
    · intro h c hc
      exact h (c, n) (List.mk_mem_zipIdx_iff_getElem?.mpr hc) rfl
    · rintro h ⟨c, index⟩ hentry rfl
      exact h c (List.mk_mem_zipIdx_iff_getElem?.mp hentry)
  rw [isUuidText, uuidShape_eq, matchesShape_range, isIdSegment_iff]
  simp only [uuidChar_iff]
  constructor
  · rintro ⟨hlength, hchars⟩
    refine ⟨⟨hlength, fun entry hentry => (hchars entry hentry).1⟩, ?_, ?_⟩
    · exact (hplace 14 _).mp fun entry hentry => (hchars entry hentry).2.1
    · exact (hplace 19 _).mp fun entry hentry => (hchars entry hentry).2.2
  · rintro ⟨⟨hlength, hform⟩, hversion, hvariant⟩
    refine ⟨hlength, fun entry hentry => ⟨hform entry hentry, ?_, ?_⟩⟩
    · exact (hplace 14 _).mpr hversion entry hentry
    · exact (hplace 19 _).mpr hvariant entry hentry

/-! ## What is printed -/

/-- The identifier of a segment prints as the segment in lower case. -/
theorem display_of_segment {segment : String} {id : CapabilityId}
    (h : parseCapabilityIdSegment segment = some id) :
    id.display = String.ofList (segment.toList.map Char.toLower) := by
  have hsegment : IsIdSegment segment := by
    rw [← parseCapabilityIdSegment_isSome, h]
    rfl
  have hascii : ∀ c ∈ segment.toList, c.toNat < 128 := by
    intro c hc
    obtain ⟨index, hindex⟩ := exists_mem_zipIdx hc
    exact segmentChar_lt (((isIdSegment_iff segment).mp hsegment).2 _ hindex)
  simp only [parseCapabilityIdSegment] at h
  split at h
  · cases h
  · rename_i hlength
    split at h
    · obtain ⟨u, hu, rfl⟩ := Option.map_eq_some_iff.mp h
      rw [UuidId.display, hyphenated_of_parse_ascii hascii (not_not.mp hlength) hu]
    · cases h

/-! ## What a registry lists -/

namespace CapabilityRegistrySchema

open Schema
open RouteDecisionSchema (uuidText)

/-- A record of a registry file has the identifier. -/
def Lists (value : Value) (id : String) : Prop :=
  ∃ items, value.get "capabilities" = some (.array items) ∧
    ∃ item ∈ items, item.get "capability_id" = some (.string id)

/-- A record of the identifier, without the fields that may be missing. -/
def recordOf (issuedAt id : String) : Value := .object [
  ("capability_id", .string id),
  ("owner_service", .string "fa-local"),
  ("capability_type", .string "local_file_write"),
  ("side_effect_class", .string "local_file_write"),
  ("approval_posture", .string "policy_preapproved"),
  ("allowed_requester_classes", .array [.string "trusted_app_surface"]),
  ("timeout_budget_ms", .number "1000"),
  ("retry_budget", .number "0"),
  ("max_duration_budget_ms", .number "5000"),
  ("enabled_state", .string "enabled"),
  ("review_class", .string "none"),
  ("provenance", .object [
    ("source_kind", .string "registry_file"),
    ("issued_at", .string issuedAt)]),
  ("revocation_state", .string "active")]

/-- The registry file of that record. -/
def registryOf (issuedAt id : String) : Value := .object [
  ("registry_version", .string "1.0.0"),
  ("capabilities", .array [recordOf issuedAt id])]

variable {times : DateTimes}

theorem registryOf_lists (issuedAt id : String) : Lists (registryOf issuedAt id) id :=
  ⟨_, rfl, _, List.mem_singleton_self _, rfl⟩

theorem isUuidText_of_lists {value : Value} {id : String}
    (h : capabilityRegistry times value = true) (hlists : Lists value id) :
    isUuidText id = true := by
  obtain ⟨items, hitems, item, hitem, hid⟩ := hlists
  have hrecords : arrayOf (capability times) (.array items) = true := by
    have hpart := part_of_object h (List.mem_cons_of_mem _ List.mem_cons_self) hitems
    exact List.all_eq_true.mp hpart _ List.mem_cons_self
  have hrecord : capability times item = true := List.all_eq_true.mp hrecords item hitem
  exact part_of_required hrecord List.mem_cons_self hid

/-- The record is accepted when its identifier is. -/
theorem recordOf_accepted {issuedAt id : String} (hissued : times.accepts issuedAt = true)
    (hid : isUuidText id = true) : capability times (recordOf issuedAt id) = true := by
  have howner : checked (fun s => ownerPattern s.toList) (.string "fa-local") = true := by
    decide
  have htype : capabilityType (.string "local_file_write") = true := by decide
  have heffect : RouteDecisionSchema.sideEffectClass (.string "local_file_write") = true := by
    decide
  have hposture : RouteDecisionSchema.approvalPosture (.string "policy_preapproved") = true := by
    decide
  have hclasses : allOf [arrayOf requesterClass,
      itemCount fun n => decide (1 ≤ n) && decide (n ≤ 5), uniqueTexts]
      (.array [.string "trusted_app_surface"]) = true := by
    decide
  have htimeout : integer 1 300000 (.number "1000") = true := by decide
  have hretry : integer 0 10 (.number "0") = true := by decide
  have hduration : integer 1 86400000 (.number "5000") = true := by decide
  have henabled : enum ["enabled", "disabled"] (.string "enabled") = true := by decide
  have hreview : enum ["none", "operator"] (.string "none") = true := by decide
  have hprovenance : provenance times (.object [("source_kind", .string "registry_file"),
      ("issued_at", .string issuedAt)]) = true := by
    simp only [provenance, object, List.all_cons, List.all_nil, List.lookup_cons,
      String.reduceBEq, Option.any_some, Option.isSome_some, Bool.and_true, dateTime, checked,
      hissued]
    decide
  have hrevocation : revocationState (.string "active") = true := by decide
  rw [capability, recordOf]
  refine (objectWith_iff (by exact of_decide_eq_true rfl)).mpr ?_
  simp only [required, optional, List.forall_mem_cons, List.not_mem_nil, false_implies,
    implies_true, and_true]
  exact ⟨⟨hid, howner, htype, heffect, hposture, hclasses, htimeout, hretry, hduration, henabled,
    hreview, hprovenance, hrevocation⟩, rfl, rfl, rfl⟩

theorem registryOf_accepted {issuedAt id : String} (hissued : times.accepts issuedAt = true)
    (hid : isUuidText id = true) : capabilityRegistry times (registryOf issuedAt id) = true := by
  have hversion : checked (fun s => versionPattern s.toList) (.string "1.0.0") = true := by
    decide
  have hitems : allOf [arrayOf (capability times),
      itemCount fun n => decide (1 ≤ n) && decide (n ≤ 128)]
      (.array [recordOf issuedAt id]) = true := by
    simp only [allOf, List.all_cons, List.all_nil, arrayOf, itemCount,
      recordOf_accepted hissued hid]
    rfl
  simp only [capabilityRegistry, registryOf, object, List.all_cons, List.all_nil,
    List.lookup_cons, String.reduceBEq, Option.any_some, hversion, hitems]
  rfl

/-- The identifiers that accepted registries list are those of the pattern. -/
theorem listed_iff (hissued : ∃ issuedAt, times.accepts issuedAt = true) (id : String) :
    (∃ value, capabilityRegistry times value = true ∧ Lists value id) ↔
      isUuidText id = true := by
  constructor
  · rintro ⟨value, haccepted, hlists⟩
    exact isUuidText_of_lists haccepted hlists
  · intro hid
    obtain ⟨issuedAt, hissued⟩ := hissued
    exact ⟨_, registryOf_accepted hissued hid, registryOf_lists issuedAt id⟩

end CapabilityRegistrySchema

/-! ## What the route answers -/

namespace HttpServer

section
variable {κ : Type} {jwt : Jwt κ} {times : DateTimes} {request : Request} {publicKeys : PublicKeys}
  {service : ServeService}

/-- A lookup is not answered with 400. -/
theorem respond_status (result : ServeLookupResult) : (respond times result).status ≠ 400 := by
  cases result with
  | found record =>
    intro h
    cases h
  | notFound =>
    intro h
    cases h
  | registryUnavailable =>
    intro h
    cases h

/-- The request asks for one segment's record. -/
structure AsksFor (request : Request) (segment : String) : Prop where
  method : request.method = .get
  path : urlPath request.url = capabilitiesPathPrefix ++ segment
  single : ¬ (segment = "" ∨ '/' ∈ segment.toList)

/-- The request is malformed when its segment is no identifier, and not otherwise. -/
theorem malformed_iff {segment : String} (h : AsksFor request segment) :
    (buildResponse jwt times request publicKeys service).status = 400 ↔
      parseCapabilityIdSegment segment = none := by
  cases hparse : parseCapabilityIdSegment segment with
  | none =>
    refine iff_of_true ?_ rfl
    simp [buildResponse, h.method, stripPrefix_eq_some.mpr h.path, h.single, hparse, jsonResponse]
  | some id =>
    refine iff_of_false ?_ (by simp)
    rw [buildResponse_screen]
    cases hverify : verifyBearerToken jwt request.authorizationHeader publicKeys with
    | error reason =>
      simp [screen, h.method, stripPrefix_eq_some.mpr h.path, h.single, hparse, hverify,
        jsonResponse]
    | ok _ =>
      rw [screen_eq_ok.mpr ⟨h.method, ⟨segment, h.path, hparse⟩, hverify⟩]
      exact respond_status _

end

section
variable {κ : Type} (jwt : Jwt κ) (times : DateTimes)

/-- A segment is read as the schema reads it: it is an identifier when it has the pattern, it
is printed in lower case, and it is malformed when no accepted registry can list it. -/
structure ReadAsListed (segment : String) : Prop where
  parsed : (parseCapabilityIdSegment segment).isSome = true ↔ isUuidText segment = true
  printed : ∀ id, parseCapabilityIdSegment segment = some id →
    id.display = String.ofList (segment.toList.map Char.toLower)
  malformed : ∀ request publicKeys service, AsksFor request segment →
    ((buildResponse jwt times request publicKeys service).status = 400 ↔
      ¬ ∃ value, CapabilityRegistrySchema.capabilityRegistry times value = true ∧
        CapabilityRegistrySchema.Lists value segment)

/-- The segments that are read so are those without the form and those whose digits name a
version and the variant. -/
theorem readAsListed_iff (hissued : ∃ issuedAt, times.accepts issuedAt = true) (segment : String) :
    ReadAsListed jwt times segment ↔ (IsIdSegment segment → VersionDigits segment.toList) := by
  constructor
  · intro h hsegment
    have htext := h.parsed.mp ((parseCapabilityIdSegment_isSome segment).mpr hsegment)
    exact ((isUuidText_iff segment).mp htext).2
  · intro hdigits
    have hparsed : (parseCapabilityIdSegment segment).isSome = true ↔
        isUuidText segment = true := by
      rw [parseCapabilityIdSegment_isSome, isUuidText_iff]
      exact ⟨fun h => ⟨h, hdigits h⟩, And.left⟩
    refine ⟨hparsed, fun id hid => display_of_segment hid, ?_⟩
    intro request publicKeys service hasks
    rw [malformed_iff hasks, CapabilityRegistrySchema.listed_iff hissued, ← hparsed,
      Option.not_isSome_iff_eq_none]

end

end HttpServer

namespace Fixture

/-- The segment of the nil identifier. -/
def nilSegment : String := "00000000-0000-0000-0000-000000000000"

/-- The record of the nil identifier is asked for. -/
def nilRequest : HttpServer.Request :=
  { recordRequest with url := "/api/v1/capabilities/00000000-0000-0000-0000-000000000000" }

end Fixture

namespace HttpServer

/-- The text of the basic registry's identifier is read as it is listed. -/
theorem readAsListed_record : ReadAsListed Fixture.jwt Fixture.timeTexts.toDateTimes
    "44444444-4444-4444-8444-444444444444" :=
  (readAsListed_iff Fixture.jwt Fixture.timeTexts.toDateTimes
    ⟨"2030-01-01T00:00:00Z", by decide⟩ _).mpr fun _ =>
      ((isUuidText_iff _).mp (by decide)).2

/-- The nil identifier is read and looked up, although no accepted registry lists it. -/
theorem nilSegment_not_malformed :
    (parseCapabilityIdSegment Fixture.nilSegment).isSome = true ∧
      isUuidText Fixture.nilSegment = false ∧
      AsksFor Fixture.nilRequest Fixture.nilSegment ∧
      (¬ ∃ value, CapabilityRegistrySchema.capabilityRegistry Fixture.timeTexts.toDateTimes value =
          true ∧ CapabilityRegistrySchema.Lists value Fixture.nilSegment) ∧
      (buildResponse Fixture.jwt Fixture.timeTexts.toDateTimes Fixture.nilRequest
        [("forge", Fixture.forgeKey)] ⟨some Fixture.registry⟩).status = 404 ∧
      ¬ ReadAsListed Fixture.jwt Fixture.timeTexts.toDateTimes Fixture.nilSegment := by
  have hread : (parseCapabilityIdSegment Fixture.nilSegment).isSome = true := by decide
  have htext : isUuidText Fixture.nilSegment = false := by decide
  have hasks : AsksFor Fixture.nilRequest Fixture.nilSegment :=
    ⟨rfl, by decide, by decide⟩
  refine ⟨hread, htext, hasks, ?_, ?_, ?_⟩
  · rintro ⟨value, haccepted, hlists⟩
    have hlisted := CapabilityRegistrySchema.isUuidText_of_lists haccepted hlists
    rw [htext] at hlisted
    cases hlisted
  · have hverify : verifyBearerToken Fixture.jwt Fixture.nilRequest.authorizationHeader
        [("forge", Fixture.forgeKey)] = .ok () :=
      verifyBearerToken_ok_iff.mpr ⟨_, _, _, _, recordRequest_verified⟩
    have hid : parseCapabilityIdSegment Fixture.nilSegment = some ⟨⟨Vector.replicate 16 0⟩⟩ := by
      decide
    rw [buildResponse_admitted ⟨hasks.method, ⟨_, hasks.path, hid⟩, hverify⟩]
    decide
  · intro h
    have hlisted := h.parsed.mp hread
    rw [htext] at hlisted
    cases hlisted

end HttpServer

end FaLocal
