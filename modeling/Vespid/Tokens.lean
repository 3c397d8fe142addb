import Mathlib.Data.Rat.Encodable
import Mathlib.Data.Rat.Floor
import Mathlib.Data.Countable.Basic
import Mathlib.Logic.Equiv.List
import Vespid.Js

/-!
# Signed tokens

Access tokens, refresh tokens and the cookies of an OAuth start are JSON records under one
encoding and one MAC, possibly with one secret. The verifiers tell them apart by the fields they
ask for.
-/

namespace Vespid.Tokens

/-! ### Encoding and MAC -/

/-- A field of a signed record. -/
inductive Scalar where
  | str (s : String)
  | num (n : Rat)
  deriving DecidableEq

def Scalar.json : Scalar → Json
  | .str s => .str s
  | .num n => .num n

def record (fields : List (String × Scalar)) : Json :=
  .obj (fields.map fun field => (field.1, field.2.json))

/-- A part of a token: not empty, and without a dot. -/
def IsPart (part : String) : Prop := part ≠ "" ∧ '.' ∉ part.toList

/-- The codecs and the MAC of the platform, and how it compares what is not a number. -/
structure Platform where
  /-- `b64UrlEncode(JSON.stringify(value))` -/
  encode : Json → String
  /-- `JSON.parse(b64UrlDecode(text))`, where it does not throw. -/
  decode : String → Option Json
  hmac : (content secret : String) → String
  /-- `value <= limit` for a value that is missing or not a number. -/
  coercedLe : Option Json → Rat → Bool
  decode_encode : ∀ fields : List (String × Scalar), (fields.map Prod.fst).Nodup →
    decode (encode (record fields)) = some (record fields)
  encode_part : ∀ value, IsPart (encode value)
  hmac_part : ∀ content secret, IsPart (hmac content secret)

structure RefreshTokenPayload where
  sessionId : String
  userId : String
  tokenNonce : String
  expiresAt : Rat
  deriving DecidableEq

structure AccessTokenClaims where
  userId : String
  email : String
  sessionId : String
  issuedAt : Rat
  expiresAt : Rat
  deriving DecidableEq

/-- The input of `signAuthToken`, less the secret; `nowMs` is the current time by default. -/
structure AuthInput where
  userId : String
  email : String
  sessionId : String
  ttlSec : Option Rat
  nowMs : Rat

def RefreshTokenPayload.fields (payload : RefreshTokenPayload) : List (String × Scalar) :=
  [("sessionId", .str payload.sessionId), ("userId", .str payload.userId),
    ("tokenNonce", .str payload.tokenNonce), ("expiresAt", .num payload.expiresAt)]

def AccessTokenClaims.fields (claims : AccessTokenClaims) : List (String × Scalar) :=
  [("userId", .str claims.userId), ("email", .str claims.email),
    ("sessionId", .str claims.sessionId), ("tokenType", .str "access"),
    ("issuedAt", .num claims.issuedAt), ("expiresAt", .num claims.expiresAt)]

def RefreshTokenPayload.json (payload : RefreshTokenPayload) : Json := record payload.fields

def AccessTokenClaims.json (claims : AccessTokenClaims) : Json := record claims.fields

/-- `Math.floor(ms / 1000)` -/
def seconds (ms : Rat) : Rat := ⌊ms / 1000⌋

def AuthInput.claims (input : AuthInput) : AccessTokenClaims :=
  { userId := input.userId, email := input.email, sessionId := input.sessionId
    issuedAt := seconds input.nowMs
    expiresAt := seconds input.nowMs + input.ttlSec.getD (60 * 60 * 8) }

def OAUTH_CONTEXT_TTL_SEC : Rat := 10 * 60

/-- The payloads of the state cookie and of the nonce cookie. -/
def oauthPayloads (userId state nonce : String) (dateNow : Rat) : List RefreshTokenPayload :=
  [{ sessionId := state, userId, tokenNonce := "state"
     expiresAt := seconds dateNow + OAUTH_CONTEXT_TTL_SEC },
    { sessionId := nonce, userId, tokenNonce := "nonce"
      expiresAt := seconds dateNow + OAUTH_CONTEXT_TTL_SEC }]

/-- `const [encoded, signature] = token.split(".")`, neither of them empty. -/
def parts (token : String) : Option (String × String) :=
  match splitChars (· = '.') token.toList with
  | encoded :: signature :: _ =>
    if encoded = [] ∨ signature = [] then none
    else some (String.ofList encoded, String.ofList signature)
  | _ => none

section platform
variable (platform : Platform)

def sign (payload : Json) (secret : String) : String :=
  platform.encode payload ++ "." ++ platform.hmac (platform.encode payload) secret

def signAuthToken (input : AuthInput) (secret : String) : String :=
  sign platform input.claims.json secret

def signRefreshToken (payload : RefreshTokenPayload) (secret : String) : String :=
  sign platform payload.json secret

def setOAuthCookies (state nonce oauthStateSecret : String) (dateNow : Rat) : List String :=
  (oauthPayloads "oauth" state nonce dateNow).map fun payload =>
    signRefreshToken platform payload oauthStateSecret

def setVertexOAuthCookies (state nonce oauthStateSecret : String) (dateNow : Rat) : List String :=
  (oauthPayloads "vertex" state nonce dateNow).map fun payload =>
    signRefreshToken platform payload oauthStateSecret

/-- What all three verifiers start with: the payload, if its signature is right. -/
def signedPayload (token secret : String) : Option Json :=
  match parts token with
  | none => none
  | some (encoded, signature) =>
    if signature = platform.hmac encoded secret then platform.decode encoded else none

/-- `!payload[key]` is false. -/
def has (payload : Json) (key : String) : Bool := (payload.field? key).any Json.truthy

/-- `payload.expiresAt <= nowSec` -/
def expired (payload : Json) (nowSec : Rat) : Bool :=
  match payload.field? "expiresAt" with
  | some (.num expiresAt) => expiresAt ≤ nowSec
  | other => platform.coercedLe other nowSec

/-- `payload.tokenType === "access"` -/
def isAccess (payload : Json) : Bool :=
  match payload.field? "tokenType" with
  | some (.str tokenType) => tokenType = "access"
  | _ => false

def verifyAuthToken (token secret : String) (nowSec : Rat) : Option Json :=
  match signedPayload platform token secret with
  | none => none
  | some payload =>
    if !has payload "userId" || !has payload "email" || !has payload "sessionId" then none
    else if !isAccess payload then none
    else if expired platform payload nowSec then none
    else some payload

/-- The four fields that the API's `verifyRefreshToken` returns. -/
def pick (payload : Json) : Json :=
  .obj (["sessionId", "userId", "tokenNonce", "expiresAt"].filterMap fun key =>
    (payload.field? key).map fun value => (key, value))

/-- What both `verifyRefreshToken`s ask of a payload. -/
def refreshes (payload : Json) (nowSec : Rat) : Bool :=
  has payload "sessionId" && has payload "userId" && has payload "tokenNonce" &&
    match payload.field? "expiresAt" with
    | some (.num expiresAt) => nowSec < expiresAt
    | _ => false

namespace Api

def verifyRefreshToken (token secret : String) (dateNow : Rat) : Option Json :=
  match signedPayload platform token secret with
  | none => none
  | some payload => if refreshes payload (seconds dateNow) then some (pick payload) else none

end Api

namespace Gateway

def verifyRefreshToken (token secret : String) (nowSec : Rat) : Option Json :=
  match signedPayload platform token secret with
  | none => none
  | some payload => if refreshes payload nowSec then some payload else none

end Gateway

/-! ### Who signed a payload -/

/-- A call of `signAuthToken` or of `signRefreshToken`; the OAuth cookies are signed by the
latter. -/
inductive Signing where
  | access (input : AuthInput) (secret : String)
  | refresh (payload : RefreshTokenPayload) (secret : String)

def Signing.fields : Signing → List (String × Scalar)
  | .access input _ => input.claims.fields
  | .refresh payload _ => payload.fields

def Signing.secret : Signing → String
  | .access _ secret | .refresh _ secret => secret

/-- Every MAC in the string is one that was made for one of the signings. -/
def Unforged (log : List Signing) (token : String) : Prop :=
  ∀ part ∈ splitChars (· = '.') token.toList, ∀ content secret,
    String.ofList part = platform.hmac content secret →
      ∃ signing ∈ log, platform.encode (record signing.fields) = content ∧
        signing.secret = secret

theorem fields_nodup (signing : Signing) : (signing.fields.map Prod.fst).Nodup := by
  cases signing with
  | access input secret =>
    simp [Signing.fields, AccessTokenClaims.fields]
  | refresh payload secret =>
    simp [Signing.fields, RefreshTokenPayload.fields]

variable {platform}

theorem decode_signing (signing : Signing) :
    platform.decode (platform.encode (record signing.fields)) = some (record signing.fields) :=
  platform.decode_encode signing.fields (fields_nodup signing)

theorem IsPart.clean {part : String} (isPart : IsPart part) :
    ∀ c ∈ part.toList, (decide (c = '.')) = false := by
  intro c member
  have different : c ≠ '.' := by
    rintro rfl
    exact isPart.2 member
  simpa using different

theorem parts_join {encoded signature : String} (first : IsPart encoded)
    (second : IsPart signature) :
    parts (encoded ++ "." ++ signature) = some (encoded, signature) := by
  have chars : (encoded ++ "." ++ signature).toList =
      encoded.toList ++ '.' :: signature.toList := by
    simp
  have split := splitChars_append _ first.clean (decide_eq_true rfl) signature.toList
  rw [splitChars_clean _ second.clean] at split
  simp [parts, chars, split, first.1, second.1]

theorem signedPayload_sign (signing : Signing) (secret : String) :
    signedPayload platform (sign platform (record signing.fields) signing.secret) secret =
        some (record signing.fields) ∨
      signedPayload platform (sign platform (record signing.fields) signing.secret) secret =
        none ∧ secret ≠ signing.secret := by
  unfold signedPayload sign
  rw [parts_join (platform.encode_part _) (platform.hmac_part _ _)]
  dsimp only
  by_cases same : platform.hmac (platform.encode (record signing.fields)) signing.secret =
      platform.hmac (platform.encode (record signing.fields)) secret
  · rw [if_pos same]
    exact .inl (decode_signing signing)
  · rw [if_neg same]
    exact .inr ⟨rfl, fun equal => same (by rw [equal])⟩

theorem signedPayload_own (signing : Signing) :
    signedPayload platform (sign platform (record signing.fields) signing.secret)
      signing.secret = some (record signing.fields) := by
  obtain read | ⟨-, different⟩ := @signedPayload_sign platform signing signing.secret
  · exact read
  · exact absurd rfl different

theorem signature_mem {token encoded signature : String}
    (found : parts token = some (encoded, signature)) :
    signature.toList ∈ splitChars (· = '.') token.toList := by
  unfold parts at found
  split at found
  · rename_i first second more split
    split_ifs at found
    simp only [Option.some.injEq, Prod.mk.injEq] at found
    rw [← found.2, String.toList_ofList, split]
    exact List.mem_cons_of_mem _ List.mem_cons_self
  · cases found

theorem signedPayload_unforged {log : List Signing} {token secret : String} {payload : Json}
    (unforged : Unforged platform log token)
    (read : signedPayload platform token secret = some payload) :
    ∃ signing ∈ log, signing.secret = secret ∧ payload = record signing.fields := by
  unfold signedPayload at read
  cases found : parts token with
  | none => simp [found] at read
  | some pair =>
    obtain ⟨encoded, signature⟩ := pair
    simp only [found] at read
    split_ifs at read with same
    obtain ⟨signing, member, content, owner⟩ := unforged _ (signature_mem found) encoded secret
      (by rw [String.ofList_toList, same])
    rw [← content, decode_signing] at read
    exact ⟨signing, member, owner, (Option.some.inj read).symm⟩

/-! ### What the verifiers ask of a signed payload -/

/-- The texts of the input are not empty. -/
def AuthInput.Filled (input : AuthInput) : Prop :=
  input.userId ≠ "" ∧ input.email ≠ "" ∧ input.sessionId ≠ ""

def RefreshTokenPayload.Filled (payload : RefreshTokenPayload) : Prop :=
  payload.sessionId ≠ "" ∧ payload.userId ≠ "" ∧ payload.tokenNonce ≠ ""

theorem refreshes_access (input : AuthInput) (nowSec : Rat) :
    refreshes input.claims.json nowSec = false := by
  simp [refreshes, has, AccessTokenClaims.json, AccessTokenClaims.fields, record, List.lookup_cons]

theorem has_refresh_email (payload : RefreshTokenPayload) : has payload.json "email" = false := by
  simp [has, RefreshTokenPayload.json, RefreshTokenPayload.fields, record, List.lookup_cons]

theorem refreshes_json (payload : RefreshTokenPayload) (nowSec : Rat) :
    refreshes payload.json nowSec = true ↔ payload.Filled ∧ nowSec < payload.expiresAt := by
  simp [refreshes, has, RefreshTokenPayload.json, RefreshTokenPayload.fields, record, List.lookup_cons,
    Scalar.json, Json.truthy, RefreshTokenPayload.Filled, and_assoc]

theorem pick_json (payload : RefreshTokenPayload) : pick payload.json = payload.json := by
  simp [pick, RefreshTokenPayload.json, RefreshTokenPayload.fields, record, List.lookup_cons]

theorem has_access (claims : AccessTokenClaims) :
    has claims.json "userId" = (claims.userId != "") ∧
      has claims.json "email" = (claims.email != "") ∧
      has claims.json "sessionId" = (claims.sessionId != "") := by
  simp [has, AccessTokenClaims.json, AccessTokenClaims.fields, record, List.lookup_cons, Scalar.json,
    Json.truthy]

theorem isAccess_json (claims : AccessTokenClaims) : isAccess claims.json = true := by
  simp [isAccess, AccessTokenClaims.json, AccessTokenClaims.fields, record, List.lookup_cons,
    Scalar.json]

theorem expired_json (claims : AccessTokenClaims) (nowSec : Rat) :
    expired platform claims.json nowSec = decide (claims.expiresAt ≤ nowSec) := by
  simp [expired, AccessTokenClaims.json, AccessTokenClaims.fields, record, List.lookup_cons,
    Scalar.json]

theorem verifyAuthToken_eq_some {token secret : String} {nowSec : Rat} {payload : Json} :
    verifyAuthToken platform token secret nowSec = some payload ↔
      signedPayload platform token secret = some payload ∧ has payload "userId" ∧
        has payload "email" ∧ has payload "sessionId" ∧ isAccess payload ∧
        expired platform payload nowSec = false := by
  unfold verifyAuthToken
  cases signedPayload platform token secret with
  | none => simp
  | some found =>
    dsimp only
    by_cases equal : found = payload
    · subst equal
      cases has found "userId" <;> cases has found "email" <;> cases has found "sessionId" <;>
        cases isAccess found <;> cases expired platform found nowSec <;> simp
    · simp only [Option.some.injEq, equal, false_and, iff_false]
      split_ifs <;> simp [equal]

theorem api_eq_some {token secret : String} {dateNow : Rat} {answer : Json} :
    Api.verifyRefreshToken platform token secret dateNow = some answer ↔
      ∃ payload, signedPayload platform token secret = some payload ∧
        refreshes payload (seconds dateNow) ∧ pick payload = answer := by
  unfold Api.verifyRefreshToken
  cases signedPayload platform token secret with
  | none => simp
  | some found => by_cases asked : refreshes found (seconds dateNow) <;> simp [asked]

theorem gateway_eq_some {token secret : String} {nowSec : Rat} {payload : Json} :
    Gateway.verifyRefreshToken platform token secret nowSec = some payload ↔
      signedPayload platform token secret = some payload ∧ refreshes payload nowSec := by
  unfold Gateway.verifyRefreshToken
  cases signedPayload platform token secret with
  | none => simp
  | some found =>
    by_cases asked : refreshes found nowSec
    · simp only [asked, ↓reduceIte, Option.some.injEq]
      constructor
      · rintro rfl
        exact ⟨rfl, asked⟩
      · exact And.left
    · simp only [asked, ↓reduceIte, Option.some.injEq, reduceCtorEq, false_iff, not_and]
      rintro rfl
      exact asked

/-! ### Round trips -/

theorem verifyAuthToken_sign (input : AuthInput) (secret : String) (nowSec : Rat)
    (filled : input.Filled) :
    verifyAuthToken platform (signAuthToken platform input secret) secret nowSec =
      if nowSec < input.claims.expiresAt then some input.claims.json else none := by
  have read : signedPayload platform (signAuthToken platform input secret) secret =
      some input.claims.json := signedPayload_own (.access input secret)
  obtain ⟨userId, email, sessionId⟩ := has_access input.claims
  have present : (input.claims.userId != "") = true ∧ (input.claims.email != "") = true ∧
      (input.claims.sessionId != "") = true := by
    simpa [AuthInput.claims, AuthInput.Filled] using filled
  simp only [verifyAuthToken, read, userId, email, sessionId, present, isAccess_json,
    expired_json, decide_eq_true_eq, Bool.not_true, Bool.or_self, Bool.false_eq_true, ↓reduceIte]
  by_cases late : input.claims.expiresAt ≤ nowSec
  · rw [if_pos late, if_neg (not_lt.mpr late)]
  · rw [if_neg late, if_pos (not_le.mp late)]

theorem refreshes_eq (payload : RefreshTokenPayload) (nowSec : Rat) (filled : payload.Filled) :
    refreshes payload.json nowSec = decide (nowSec < payload.expiresAt) := by
  rw [Bool.eq_iff_iff, refreshes_json, decide_eq_true_iff]
  exact and_iff_right filled

theorem api_sign (payload : RefreshTokenPayload) (secret : String) (dateNow : Rat)
    (filled : payload.Filled) :
    Api.verifyRefreshToken platform (signRefreshToken platform payload secret) secret dateNow =
      if seconds dateNow < payload.expiresAt then some payload.json else none := by
  have read : signedPayload platform (signRefreshToken platform payload secret) secret =
      some payload.json := signedPayload_own (.refresh payload secret)
  simp only [Api.verifyRefreshToken, read, refreshes_eq payload _ filled, pick_json,
    decide_eq_true_eq]

theorem gateway_sign (payload : RefreshTokenPayload) (secret : String) (nowSec : Rat)
    (filled : payload.Filled) :
    Gateway.verifyRefreshToken platform (signRefreshToken platform payload secret) secret nowSec =
      if nowSec < payload.expiresAt then some payload.json else none := by
  have read : signedPayload platform (signRefreshToken platform payload secret) secret =
      some payload.json := signedPayload_own (.refresh payload secret)
  simp only [Gateway.verifyRefreshToken, read, refreshes_eq payload _ filled, decide_eq_true_eq]

/-! ### Kinds -/

theorem signedPayload_of_sign {signing : Signing} {secret : String} {payload : Json}
    (read : signedPayload platform (sign platform (record signing.fields) signing.secret) secret =
      some payload) : payload = record signing.fields := by
  obtain own | ⟨missing, -⟩ := @signedPayload_sign platform signing secret
  · rw [own] at read
    exact (Option.some.inj read).symm
  · rw [missing] at read
    cases read

theorem api_access (input : AuthInput) (secret other : String) (dateNow : Rat) :
    Api.verifyRefreshToken platform (signAuthToken platform input secret) other dateNow = none := by
  rw [Option.eq_none_iff_forall_ne_some]
  intro answer accepted
  obtain ⟨payload, read, asked, -⟩ := api_eq_some.mp accepted
  rw [@signedPayload_of_sign platform (.access input secret) other payload read] at asked
  exact absurd asked (Bool.eq_false_iff.mp (refreshes_access input _))

theorem gateway_access (input : AuthInput) (secret other : String) (nowSec : Rat) :
    Gateway.verifyRefreshToken platform (signAuthToken platform input secret) other nowSec =
      none := by
  rw [Option.eq_none_iff_forall_ne_some]
  intro payload accepted
  obtain ⟨read, asked⟩ := gateway_eq_some.mp accepted
  rw [@signedPayload_of_sign platform (.access input secret) other payload read] at asked
  exact absurd asked (Bool.eq_false_iff.mp (refreshes_access input _))

theorem verifyAuthToken_refresh (payload : RefreshTokenPayload) (secret other : String)
    (nowSec : Rat) :
    verifyAuthToken platform (signRefreshToken platform payload secret) other nowSec = none := by
  rw [Option.eq_none_iff_forall_ne_some]
  intro found accepted
  obtain ⟨read, -, email, -⟩ := verifyAuthToken_eq_some.mp accepted
  rw [@signedPayload_of_sign platform (.refresh payload secret) other found read] at email
  exact absurd email (Bool.eq_false_iff.mp (has_refresh_email payload))

/-! ### Authenticity -/

theorem verifyAuthToken_signed {log : List Signing} {token secret : String} {nowSec : Rat}
    {answer : Json} (unforged : Unforged platform log token)
    (accepted : verifyAuthToken platform token secret nowSec = some answer) :
    ∃ input, .access input secret ∈ log ∧ answer = input.claims.json := by
  obtain ⟨read, -, email, -⟩ := verifyAuthToken_eq_some.mp accepted
  obtain ⟨signing, member, rfl, rfl⟩ := signedPayload_unforged unforged read
  cases signing with
  | access input secret => exact ⟨input, member, rfl⟩
  | refresh payload secret => exact absurd email (Bool.eq_false_iff.mp (has_refresh_email payload))

theorem refresh_signed {log : List Signing} {token secret : String} {nowSec : Rat}
    {payload : Json} (unforged : Unforged platform log token)
    (read : signedPayload platform token secret = some payload)
    (asked : refreshes payload nowSec = true) :
    ∃ signed, .refresh signed secret ∈ log ∧ payload = signed.json := by
  obtain ⟨signing, member, rfl, rfl⟩ := signedPayload_unforged unforged read
  cases signing with
  | access input secret => exact absurd asked (Bool.eq_false_iff.mp (refreshes_access input nowSec))
  | refresh signed secret => exact ⟨signed, member, rfl⟩

theorem gateway_signed {log : List Signing} {token secret : String} {nowSec : Rat}
    {answer : Json} (unforged : Unforged platform log token)
    (accepted : Gateway.verifyRefreshToken platform token secret nowSec = some answer) :
    ∃ payload, .refresh payload secret ∈ log ∧ answer = payload.json := by
  obtain ⟨read, asked⟩ := gateway_eq_some.mp accepted
  exact refresh_signed unforged read asked

/-- The API returns the fields of what the gateway returns. -/
theorem api_eq_gateway (token secret : String) (dateNow : Rat) :
    Api.verifyRefreshToken platform token secret dateNow =
      (Gateway.verifyRefreshToken platform token secret (seconds dateNow)).map pick := by
  unfold Api.verifyRefreshToken Gateway.verifyRefreshToken
  cases signedPayload platform token secret with
  | none => rfl
  | some payload => by_cases asked : refreshes payload (seconds dateNow) <;> simp [asked]

theorem api_agrees {log : List Signing} {token : String} (secret : String) (dateNow : Rat)
    (unforged : Unforged platform log token) :
    Api.verifyRefreshToken platform token secret dateNow =
      Gateway.verifyRefreshToken platform token secret (seconds dateNow) := by
  rw [api_eq_gateway]
  cases accepted : Gateway.verifyRefreshToken platform token secret (seconds dateNow) with
  | none => rfl
  | some answer =>
    obtain ⟨payload, -, rfl⟩ := gateway_signed unforged accepted
    rw [Option.map_some, pick_json]

/-- What a record whose texts are not empty signs is returned until it expires; what a verifier
returns was signed as its kind, with its secret; a token of one kind is none of the other, whatever
the secrets; and the API and the gateway agree. -/
theorem tokens_round_trip (platform : Platform) (log : List Signing) :
    (∀ (input : AuthInput) secret nowSec, input.Filled →
      verifyAuthToken platform (signAuthToken platform input secret) secret nowSec =
        if nowSec < input.claims.expiresAt then some input.claims.json else none) ∧
    (∀ (payload : RefreshTokenPayload) secret, payload.Filled →
      (∀ dateNow,
        Api.verifyRefreshToken platform (signRefreshToken platform payload secret) secret dateNow =
          if seconds dateNow < payload.expiresAt then some payload.json else none) ∧
      ∀ nowSec,
        Gateway.verifyRefreshToken platform (signRefreshToken platform payload secret) secret
            nowSec =
          if nowSec < payload.expiresAt then some payload.json else none) ∧
    (∀ token secret, Unforged platform log token →
      (∀ nowSec answer, verifyAuthToken platform token secret nowSec = some answer →
        ∃ input, .access input secret ∈ log ∧ answer = input.claims.json) ∧
      (∀ nowSec answer, Gateway.verifyRefreshToken platform token secret nowSec = some answer →
        ∃ payload, .refresh payload secret ∈ log ∧ answer = payload.json) ∧
      ∀ dateNow, Api.verifyRefreshToken platform token secret dateNow =
        Gateway.verifyRefreshToken platform token secret (seconds dateNow)) ∧
    (∀ input secret other time,
      Api.verifyRefreshToken platform (signAuthToken platform input secret) other time = none ∧
      Gateway.verifyRefreshToken platform (signAuthToken platform input secret) other time =
        none) ∧
    (∀ payload secret other nowSec,
      verifyAuthToken platform (signRefreshToken platform payload secret) other nowSec = none) ∧
    (∀ state nonce secret dateNow other nowSec,
      ∀ cookie ∈ setOAuthCookies platform state nonce secret dateNow ++
          setVertexOAuthCookies platform state nonce secret dateNow,
        verifyAuthToken platform cookie other nowSec = none) ∧
    ∀ token secret dateNow,
      Api.verifyRefreshToken platform token secret dateNow =
        (Gateway.verifyRefreshToken platform token secret (seconds dateNow)).map pick := by
  refine ⟨fun input secret nowSec => verifyAuthToken_sign input secret nowSec, ?_, ?_, ?_, ?_,
    ?_, api_eq_gateway⟩
  · intro payload secret filled
    exact ⟨fun dateNow => api_sign payload secret dateNow filled,
      fun nowSec => gateway_sign payload secret nowSec filled⟩
  · intro token secret unforged
    exact ⟨fun _ _ => verifyAuthToken_signed unforged, fun _ _ => gateway_signed unforged,
      fun dateNow => api_agrees secret dateNow unforged⟩
  · intro input secret other time
    exact ⟨api_access input secret other time, gateway_access input secret other time⟩
  · exact fun payload secret other nowSec => verifyAuthToken_refresh payload secret other nowSec
  · intro state nonce secret dateNow other nowSec cookie set
    obtain first | second := List.mem_append.mp set
    · obtain ⟨payload, -, rfl⟩ := List.mem_map.mp first
      exact verifyAuthToken_refresh payload secret other nowSec
    · obtain ⟨payload, -, rfl⟩ := List.mem_map.mp second
      exact verifyAuthToken_refresh payload secret other nowSec

end platform

/-! ### Records with an empty text -/

theorem countable_string : Countable String := by
  have : Countable Char :=
    Function.Injective.countable (f := Char.toNat) fun _ _ => Char.toNat_inj.mp
  exact Function.Injective.countable (f := String.toList) fun _ _ => String.toList_inj.mp

/-- As many letters as `f` says, and one more. -/
def unary {α : Type} (f : α → Nat) (value : α) : String :=
  String.ofList (List.replicate (f value + 1) 'a')

theorem unary_isPart {α : Type} (f : α → Nat) (value : α) : IsPart (unary f value) := by
  constructor
  · intro empty
    have length := congrArg String.length empty
    simp [unary] at length
  · simp [unary]

theorem unary_injective {α : Type} {f : α → Nat} (injective : Function.Injective f) :
    Function.Injective (unary f) := by
  intro a b same
  have length := congrArg String.length same
  simp only [unary, String.length_ofList, List.length_replicate] at length
  exact injective (by omega)

def Scalar.sum : Scalar → String ⊕ Rat
  | .str s => .inl s
  | .num n => .inr n

theorem countable_fields : Countable (List (String × Scalar)) := by
  have := countable_string
  have : Countable Scalar := by
    apply Function.Injective.countable (f := Scalar.sum)
    intro a b same
    cases a <;> cases b <;> simp_all [Scalar.sum]
  infer_instance

/-- The fields of a record. -/
def scalars : Json → List (String × Scalar)
  | .obj fields => fields.filterMap fun field =>
      match field.2 with
      | .str s => some (field.1, .str s)
      | .num n => some (field.1, .num n)
      | _ => none
  | _ => []

theorem scalars_record (fields : List (String × Scalar)) : scalars (record fields) = fields := by
  induction fields with
  | nil => rfl
  | cons field rest ih =>
    obtain ⟨name, value⟩ := field
    simp only [scalars, record, List.map_cons] at ih ⊢
    cases value with
    | str s => simpa only [Scalar.json, List.filterMap_cons] using congrArg _ ih
    | num n => simpa only [Scalar.json, List.filterMap_cons] using congrArg _ ih

/-- Records and MACs in unary. -/
noncomputable def unaryPlatform : Platform :=
  let code := countable_fields.exists_injective_nat
  let pairs : Countable (String × String) := have := countable_string; inferInstance
  { encode value := unary code.choose (scalars value)
    decode text := (Function.partialInv (unary code.choose) text).map record
    hmac content secret := unary pairs.exists_injective_nat.choose (content, secret)
    coercedLe _ _ := false
    decode_encode fields _ := by
      rw [scalars_record, Function.partialInv_left (unary_injective code.choose_spec)]
      rfl
    encode_part _ := unary_isPart _ _
    hmac_part _ _ := unary_isPart _ _ }

/-- The texts of a payload are signed as they are, and an empty one is refused at once. -/
theorem empty_text_refused :
    let payload : RefreshTokenPayload :=
      { sessionId := "session-1", userId := "", tokenNonce := "nonce-1", expiresAt := 60 }
    let input : AuthInput :=
      { userId := "user-1", email := "", sessionId := "session-1", ttlSec := none, nowMs := 0 }
    Api.verifyRefreshToken unaryPlatform (signRefreshToken unaryPlatform payload "secret")
        "secret" 0 = none ∧
      Gateway.verifyRefreshToken unaryPlatform (signRefreshToken unaryPlatform payload "secret")
        "secret" 0 = none ∧
      verifyAuthToken unaryPlatform (signAuthToken unaryPlatform input "secret") "secret" 0 =
        none ∧
      0 < payload.expiresAt ∧ seconds 0 < input.claims.expiresAt := by
  intro payload input
  have payloadRead : signedPayload unaryPlatform (signRefreshToken unaryPlatform payload "secret")
      "secret" = some payload.json := signedPayload_own (.refresh payload "secret")
  have inputRead : signedPayload unaryPlatform (signAuthToken unaryPlatform input "secret")
      "secret" = some input.claims.json := signedPayload_own (.access input "secret")
  have refused : ∀ nowSec, refreshes payload.json nowSec = false := by
    intro nowSec
    by_contra asked
    exact ((refreshes_json payload nowSec).mp (by simpa using asked)).1.2.1 rfl
  have missing : has input.claims.json "email" = false := (has_access input.claims).2.1
  refine ⟨?_, ?_, ?_, by decide, ?_⟩
  · simp [Api.verifyRefreshToken, payloadRead, refused]
  · simp [Gateway.verifyRefreshToken, payloadRead, refused]
  · simp [verifyAuthToken, inputRead, missing]
  · simp [input, AuthInput.claims]

end Vespid.Tokens
