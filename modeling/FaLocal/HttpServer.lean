import FaLocal.IdSegment
import FaLocal.ServeService
import FaLocal.TokenVerify

/-!
# The serving route

`build_response` answers one request, and `run_server` reloads the registry between
requests. What a request is told before its token has been verified does not depend on
the registry.
-/
namespace FaLocal

namespace HttpServer

/-! ## Requests and responses -/

structure HttpHeader where
  field : String
  value : String
  deriving DecidableEq

inductive Method where
  | get | head | post | put | delete | connect | options | trace | patch
  | nonStandard (name : String)
  deriving DecidableEq

structure Request where
  method : Method
  url : String
  headers : List HttpHeader

structure Response where
  status : Nat
  headers : List HttpHeader
  body : String
  deriving DecidableEq

def capabilitiesPathPrefix : String := "/api/v1/capabilities/"

def jsonResponse (status : Nat) (body : Value) : Response where
  status := status
  headers := [{ field := "Content-Type", value := "application/json" }]
  body := String.ofList body.compact

/-- `json!` with the one member `error` -/
def errorBody (error : String) : Value := .object [("error", .string error)]

/-- `HeaderField::equiv`: the ASCII case is ignored. -/
def HttpHeader.equiv (header : HttpHeader) (field : String) : Bool :=
  header.field.toList.map Char.toLower == field.toList.map Char.toLower

/-- The part of a URL in front of its first question mark. -/
def urlPath (url : String) : String := String.ofList (url.toList.takeWhile (· ≠ '?'))

def Request.authorizationHeader (request : Request) : Option String :=
  (request.headers.find? (·.equiv "Authorization")).map (·.value)

section
variable {κ : Type} (jwt : Jwt κ) (times : DateTimes) (request : Request) (publicKeys : PublicKeys)
  (service : ServeService)

def buildResponse : Response :=
  if request.method ≠ .get then jsonResponse 404 (errorBody "not_found")
  else match stripPrefix capabilitiesPathPrefix (urlPath request.url) with
    | none => jsonResponse 404 (errorBody "not_found")
    | some idSegment =>
      if idSegment = "" ∨ '/' ∈ idSegment.toList then jsonResponse 404 (errorBody "not_found")
      else match parseCapabilityIdSegment idSegment with
        | none => jsonResponse 400 (errorBody "malformed_capability_id")
        | some capabilityId =>
          match verifyBearerToken jwt request.authorizationHeader publicKeys with
          | .error _ => jsonResponse 401 (errorBody "unauthorized")
          | .ok () =>
            match service.lookup capabilityId with
            | .found record => jsonResponse 200 (record.toValue times)
            | .notFound => jsonResponse 404 (errorBody "capability_not_found")
            | .registryUnavailable => jsonResponse 503 (errorBody "registry_unavailable")

/-! ## Screening -/

/-- What is checked before the registry is looked at. -/
def screen : Except Response CapabilityId :=
  if request.method ≠ .get then .error (jsonResponse 404 (errorBody "not_found"))
  else match stripPrefix capabilitiesPathPrefix (urlPath request.url) with
    | none => .error (jsonResponse 404 (errorBody "not_found"))
    | some idSegment =>
      if idSegment = "" ∨ '/' ∈ idSegment.toList then
        .error (jsonResponse 404 (errorBody "not_found"))
      else match parseCapabilityIdSegment idSegment with
        | none => .error (jsonResponse 400 (errorBody "malformed_capability_id"))
        | some capabilityId =>
          match verifyBearerToken jwt request.authorizationHeader publicKeys with
          | .error _ => .error (jsonResponse 401 (errorBody "unauthorized"))
          | .ok () => .ok capabilityId

/-- What a lookup is answered with. -/
def respond : ServeLookupResult → Response
  | .found record => jsonResponse 200 (record.toValue times)
  | .notFound => jsonResponse 404 (errorBody "capability_not_found")
  | .registryUnavailable => jsonResponse 503 (errorBody "registry_unavailable")

/-- A request for the record of an identifier that passes all checks. -/
structure Admitted (capabilityId : CapabilityId) : Prop where
  method : request.method = .get
  path : ∃ segment, urlPath request.url = capabilitiesPathPrefix ++ segment ∧
    parseCapabilityIdSegment segment = some capabilityId
  authorized : verifyBearerToken jwt request.authorizationHeader publicKeys = .ok ()

end

section
variable {κ : Type} {jwt : Jwt κ} {times : DateTimes} {request : Request} {publicKeys : PublicKeys}
  {service : ServeService} {capabilityId : CapabilityId}

/-- The registry is looked at behind the checks. -/
theorem buildResponse_screen :
    buildResponse jwt times request publicKeys service =
      match screen jwt request publicKeys with
      | .error response => response
      | .ok capabilityId => respond times (service.lookup capabilityId) := by
  rw [buildResponse, screen]
  split
  · rfl
  · split
    · rfl
    · split
      · rfl
      · split
        · rfl
        · split <;> rfl

theorem screen_eq_ok :
    screen jwt request publicKeys = .ok capabilityId ↔
      Admitted jwt request publicKeys capabilityId := by
  constructor
  · intro h
    rw [screen] at h
    split at h
    · cases h
    · rename_i hmethod
      split at h
      · cases h
      · rename_i segment hstrip
        split at h
        · cases h
        · split at h
          · cases h
          · rename_i hparse
            split at h
            · cases h
            · rename_i hverify
              cases h
              exact ⟨not_not.mp hmethod, ⟨segment, stripPrefix_eq_some.mp hstrip, hparse⟩, hverify⟩
  · rintro ⟨hmethod, ⟨segment, hpath, hparse⟩, hverify⟩
    have hsegment : IsIdSegment segment := by
      rw [← parseCapabilityIdSegment_isSome, hparse]
      rfl
    simp [screen, hmethod, stripPrefix_eq_some.mpr hpath, hsegment.single, hparse,
      hverify]

theorem buildResponse_admitted (h : Admitted jwt request publicKeys capabilityId) :
    buildResponse jwt times request publicKeys service =
      respond times (service.lookup capabilityId) := by
  rw [buildResponse_screen, screen_eq_ok.mpr h]

theorem screen_error_status {response : Response}
    (h : screen jwt request publicKeys = .error response) : response.status ≠ 200 := by
  rw [screen] at h
  have hflat : ∀ status, status ≠ 200 → ∀ body, (jsonResponse status body).status ≠ 200 := by
    intro status hstatus body
    exact hstatus
  split at h
  · cases h
    exact hflat 404 (by decide) _
  · split at h
    · cases h
      exact hflat 404 (by decide) _
    · split at h
      · cases h
        exact hflat 404 (by decide) _
      · split at h
        · cases h
          exact hflat 400 (by decide) _
        · split at h
          · cases h
            exact hflat 401 (by decide) _
          · cases h

theorem respond_ok {result : ServeLookupResult} (h : (respond times result).status = 200) :
    ∃ record, result = .found record := by
  cases result with
  | found record => exact ⟨record, rfl⟩
  | notFound => cases h
  | registryUnavailable => cases h

/-- A request that does not pass is answered alike over all registries. -/
theorem buildResponse_refused (h : ∀ capabilityId, ¬ Admitted jwt request publicKeys capabilityId)
    (service' : ServeService) :
    buildResponse jwt times request publicKeys service =
      buildResponse jwt times request publicKeys service' := by
  rw [buildResponse_screen, buildResponse_screen]
  cases hscreen : screen jwt request publicKeys with
  | error response => rfl
  | ok capabilityId => exact absurd (screen_eq_ok.mp hscreen) (h capabilityId)

/-- A record is sent exactly to the requests that pass and whose identifier the registry
has; it is the first one of the identifier. -/
theorem buildResponse_ok_iff :
    (buildResponse jwt times request publicKeys service).status = 200 ↔
      ∃ capabilityId registry record, Admitted jwt request publicKeys capabilityId ∧
        service.registry = some registry ∧ registry.FirstRecord capabilityId record ∧
        buildResponse jwt times request publicKeys service =
          jsonResponse 200 (record.toValue times) := by
  constructor
  · intro h
    rw [buildResponse_screen] at h ⊢
    cases hscreen : screen jwt request publicKeys with
    | error response =>
      rw [hscreen] at h
      exact absurd h (screen_error_status hscreen)
    | ok capabilityId =>
      rw [hscreen] at h
      obtain ⟨record, hfound⟩ := respond_ok h
      obtain ⟨registry, hregistry, hfirst⟩ := ServeService.lookup_eq_found.mp hfound
      exact ⟨capabilityId, registry, record, screen_eq_ok.mp hscreen, hregistry, hfirst,
        congrArg (respond times) hfound⟩
  · rintro ⟨capabilityId, registry, record, -, -, -, hresponse⟩
    rw [hresponse]
    rfl

/-- Without a verified token, or for anything but one identifier's path, the response is the
same over any two registries; and a record is sent only for a token that verifies under a
configured key with the scope, the first one of the identifier. -/
theorem buildResponse_guarded (jwt : Jwt κ) (times : DateTimes) (request : Request)
    (publicKeys : PublicKeys) :
    ((∃ reason, verifyBearerToken jwt request.authorizationHeader publicKeys = .error reason) ∨
        request.method ≠ .get ∨
        (¬ ∃ segment, urlPath request.url = capabilitiesPathPrefix ++ segment ∧
          IsIdSegment segment) →
      ∀ service service', buildResponse jwt times request publicKeys service =
        buildResponse jwt times request publicKeys service') ∧
    ∀ service, (buildResponse jwt times request publicKeys service).status = 200 →
      (∃ token kid rawKey key,
        Verified jwt request.authorizationHeader publicKeys token kid rawKey key) ∧
      ∃ segment capabilityId registry record,
        urlPath request.url = capabilitiesPathPrefix ++ segment ∧
        parseCapabilityIdSegment segment = some capabilityId ∧
        service.registry = some registry ∧ registry.FirstRecord capabilityId record ∧
        (buildResponse jwt times request publicKeys service).body =
          String.ofList (record.toValue times).compact := by
  constructor
  · intro hrefused service service'
    refine buildResponse_refused ?_ service'
    rintro capabilityId ⟨hmethod, ⟨segment, hpath, hparse⟩, hverify⟩
    rcases hrefused with ⟨reason, hreason⟩ | hother | hform
    · rw [hverify] at hreason
      cases hreason
    · exact hother hmethod
    · refine hform ⟨segment, hpath, ?_⟩
      rw [← parseCapabilityIdSegment_isSome, hparse]
      rfl
  · intro service hok
    obtain ⟨capabilityId, registry, record, hadmitted, hregistry, hfirst, hresponse⟩ :=
      buildResponse_ok_iff.mp hok
    obtain ⟨segment, hpath, hparse⟩ := hadmitted.path
    refine ⟨verifyBearerToken_ok_iff.mp hadmitted.authorized, segment, capabilityId, registry,
      record, hpath, hparse, hregistry, hfirst, ?_⟩
    rw [hresponse]
    rfl

end

end HttpServer

namespace Fixture

/-- Signed with EdDSA for `forgeKey`, with the scope `capability:read`; it expires in 2100. -/
def forgeToken : String :=
  "eyJhbGciOiJFZERTQSIsImtpZCI6ImZvcmdlIn0" ++
  ".eyJzY29wZSI6ImNhcGFiaWxpdHk6cmVhZCIsImV4cCI6NDEwMjQ0NDgwMH0" ++
  ".dzyJRP6SovHVU7qebqhx7aHhsOibkSWyo9L-O3cMTORWOeUg0j4Hqq3aAIoGwORBtyM2DZ4wtCiL9Ke7PnF2BQ"

def forgeKey : String := "wpagdATA06GNV-izuuvRbRLKi-6vFZL0SVqhyKnZQSg"

/-- `jsonwebtoken` on this one token; a key is its text. -/
def jwt : Jwt String where
  decodeHeader token := if token = forgeToken then some { kid := some "forge" } else none
  fromEdPem := fun _ => none
  fromEdComponents := some
  decode token key _ :=
    if token = forgeToken ∧ key = forgeKey then .ok { scope := some "capability:read" }
    else .error .invalidSignature

/-- The record of the basic registry, asked for with a query behind the path. -/
def recordRequest : HttpServer.Request where
  method := .get
  url := "/api/v1/capabilities/44444444-4444-4444-8444-444444444444?full=1"
  headers := [{ field := "authorization", value := "Bearer " ++ forgeToken }]

end Fixture

namespace HttpServer

theorem recordRequest_verified : Verified Fixture.jwt Fixture.recordRequest.authorizationHeader
    [("forge", Fixture.forgeKey)] Fixture.forgeToken "forge" Fixture.forgeKey Fixture.forgeKey where
  carried := ⟨Fixture.forgeToken, by decide +kernel, by decide +kernel⟩
  nonempty := by decide
  named := by simp [Fixture.jwt]
  configured := List.lookup_cons_self
  decoded := by decide
  inScope := by simp [Fixture.jwt, requiredScope]

theorem recordRequest_admitted : Admitted Fixture.jwt Fixture.recordRequest
    [("forge", Fixture.forgeKey)] (Fixture.id .capability 4) where
  method := rfl
  path := ⟨"44444444-4444-4444-8444-444444444444", by decide, by decide⟩
  authorized := verifyBearerToken_ok_iff.mpr ⟨_, _, _, _, recordRequest_verified⟩

theorem buildResponse_guarded_fixture :
    (∀ service service',
      buildResponse Fixture.jwt Fixture.provenanceTimes Fixture.recordRequest [] service =
        buildResponse Fixture.jwt Fixture.provenanceTimes Fixture.recordRequest [] service') ∧
    ∃ token kid rawKey key, Verified Fixture.jwt Fixture.recordRequest.authorizationHeader
      [("forge", Fixture.forgeKey)] token kid rawKey key :=
  ⟨(buildResponse_guarded Fixture.jwt Fixture.provenanceTimes Fixture.recordRequest []).1
      (.inl ⟨.noKeysConfigured, rfl⟩),
    ((buildResponse_guarded Fixture.jwt Fixture.provenanceTimes Fixture.recordRequest
      [("forge", Fixture.forgeKey)]).2 ⟨some Fixture.registry⟩ (by
        rw [buildResponse_admitted recordRequest_admitted]
        rfl)).1⟩

end HttpServer

end FaLocal
