import FaLocal.Library.Words
import FaLocal.Vocabulary

/-!
# Verification of bearer tokens

`verify_bearer_token` over the answers of `jsonwebtoken`, which is a parameter: a
header is accepted when its token verifies under a configured key and carries the one
scope.
-/
namespace FaLocal

/-! ## Texts -/

/-- `str::strip_prefix` -/
def stripPrefix (start text : String) : Option String :=
  (start.toList.isPrefixOf? text.toList).map String.ofList

theorem stripPrefix_eq_some {start text rest : String} :
    stripPrefix start text = some rest ↔ text = start ++ rest := by
  simp only [stripPrefix, Option.map_eq_some_iff, List.isPrefixOf?_eq_some_iff_append_eq]
  constructor
  · rintro ⟨chars, hchars, rfl⟩
    apply String.toList_injective
    simp [← hchars]
  · rintro rfl
    exact ⟨rest.toList, by simp, by simp⟩

/-- The characters of the Unicode property `White_Space`. -/
def isWhiteSpace (c : Char) : Bool :=
  (9 ≤ c.toNat && c.toNat ≤ 13) || (8192 ≤ c.toNat && c.toNat ≤ 8202) ||
    [32, 133, 160, 5760, 8232, 8233, 8239, 8287, 12288].contains c.toNat

/-- `str::trim` -/
def trim (text : String) : String :=
  String.ofList
    ((text.toList.dropWhile isWhiteSpace).reverse.dropWhile isWhiteSpace).reverse

/-- `Option::ok_or` -/
def okOr {ε β : Type} (e : ε) : Option β → Except ε β
  | none => .error e
  | some b => .ok b

@[simp] theorem okOr_eq_ok {ε β : Type} {e : ε} {x : Option β} {b : β} :
    okOr e x = .ok b ↔ x = some b := by
  cases x <;> simp [okOr]

/-! ## `jsonwebtoken` -/

inductive Algorithm where
  | hs256 | hs384 | hs512 | es256 | es384 | rs256 | rs384 | rs512 | ps256 | ps384 | ps512 | edDSA
  deriving DecidableEq

structure Validation where
  algorithm : Algorithm
  validateAud : Bool
  deriving DecidableEq

/-- The kinds of errors that the verifier tells apart. -/
inductive JwtErrorKind where
  | expiredSignature | invalidSignature | other
  deriving DecidableEq

structure JwtHeader where
  kid : Option String

structure ServeTokenClaims where
  scope : Option String

/-- What `jsonwebtoken` answers; `κ` are its decoding keys. -/
structure Jwt (κ : Type) where
  decodeHeader : String → Option JwtHeader
  fromEdPem : String → Option κ
  fromEdComponents : String → Option κ
  decode : String → κ → Validation → Except JwtErrorKind ServeTokenClaims

/-! ## The verifier -/

def requiredScope : String := "capability:read"

inductive AuthDenyReason where
  | noKeysConfigured | missingHeader | malformed | unknownKid | badSignature | expired | wrongScope
  deriving DecidableEq

/-- `kid -> public key` -/
abbrev PublicKeys := List (String × String)

def validation : Validation := { algorithm := .edDSA, validateAud := false }

def JwtErrorKind.denyReason : JwtErrorKind → AuthDenyReason
  | .expiredSignature => .expired
  | .invalidSignature => .badSignature
  | .other => .malformed

variable {κ : Type}

def decodingKeyFromConfiguredValue (jwt : Jwt κ) (value : String) : Option κ :=
  let trimmed := trim value
  if Words.occurs "-----BEGIN".toList trimmed.toList then jwt.fromEdPem trimmed
  else jwt.fromEdComponents trimmed

def verifyBearerToken (jwt : Jwt κ) (authorizationHeader : Option String)
    (publicKeys : PublicKeys) : Except AuthDenyReason Unit :=
  if publicKeys.isEmpty then .error .noKeysConfigured
  else do
    let token ← okOr .missingHeader
      (((authorizationHeader.bind (stripPrefix "Bearer ")).map trim).filter (· ≠ ""))
    let header ← okOr .malformed (jwt.decodeHeader token)
    let kid ← okOr .unknownKid header.kid
    let rawKey ← okOr .unknownKid (publicKeys.lookup kid)
    let decodingKey ← okOr .unknownKid (decodingKeyFromConfiguredValue jwt rawKey)
    let claims ← (jwt.decode token decodingKey validation).mapError (·.denyReason)
    if claims.scope ≠ some requiredScope then .error .wrongScope else .ok ()

/-- The header carries a token that verifies under a configured key with the scope. -/
structure Verified (jwt : Jwt κ) (authorizationHeader : Option String) (publicKeys : PublicKeys)
    (token kid rawKey : String) (key : κ) : Prop where
  carried : ∃ rest, authorizationHeader = some ("Bearer " ++ rest) ∧ token = trim rest
  nonempty : token ≠ ""
  named : jwt.decodeHeader token = some { kid := some kid }
  configured : publicKeys.lookup kid = some rawKey
  decoded : decodingKeyFromConfiguredValue jwt rawKey = some key
  inScope : jwt.decode token key validation = .ok { scope := some requiredScope }

section
variable {jwt : Jwt κ} {authorizationHeader : Option String} {publicKeys : PublicKeys}

/-- The token that a header carries. -/
theorem carriedToken_eq_some {token : String} :
    ((authorizationHeader.bind (stripPrefix "Bearer ")).map trim).filter (· ≠ "") = some token ↔
      (∃ rest, authorizationHeader = some ("Bearer " ++ rest) ∧ token = trim rest) ∧ token ≠ "" := by
  simp only [Option.filter_eq_some_iff, Option.map_eq_some_iff, Option.bind_eq_some_iff,
    stripPrefix_eq_some, decide_eq_true_eq]
  constructor
  · rintro ⟨⟨rest, ⟨value, hvalue, rfl⟩, rfl⟩, hne⟩
    exact ⟨⟨rest, hvalue, rfl⟩, hne⟩
  · rintro ⟨⟨rest, hvalue, rfl⟩, hne⟩
    exact ⟨⟨rest, ⟨_, hvalue, rfl⟩, rfl⟩, hne⟩

theorem verifyBearerToken_ok_iff :
    verifyBearerToken jwt authorizationHeader publicKeys = .ok () ↔
      ∃ token kid rawKey key, Verified jwt authorizationHeader publicKeys token kid rawKey key := by
  by_cases hempty : publicKeys = []
  · subst hempty
    simp only [verifyBearerToken, List.isEmpty_nil, if_true]
    constructor
    · rintro ⟨⟩
    · rintro ⟨token, kid, rawKey, key, h⟩
      cases h.configured
  · have hkeys : publicKeys.isEmpty = false := by simpa using hempty
    simp only [verifyBearerToken, hkeys, Bool.false_eq_true, if_false, bind_eq_ok, okOr_eq_ok,
      carriedToken_eq_some, mapError_eq_ok]
    constructor
    · rintro ⟨token, ⟨hcarried, hne⟩, ⟨kid'⟩, hheader, kid, rfl, rawKey, hraw, key, hkey, ⟨scope⟩,
        hdecode, hscope⟩
      have hrequired : scope = some requiredScope := by
        by_contra hother
        simp [hother] at hscope
      subst hrequired
      exact ⟨token, kid, rawKey, key, hcarried, hne, hheader, hraw, hkey, hdecode⟩
    · rintro ⟨token, kid, rawKey, key, h⟩
      exact ⟨token, ⟨h.carried, h.nonempty⟩, _, h.named, kid, rfl, rawKey, h.configured, key,
        h.decoded, _, h.inScope, by simp⟩

end

end FaLocal
