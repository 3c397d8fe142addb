import Mathlib.Algebra.Order.Group.Unbundled.Abs
import Mathlib.Algebra.Order.Ring.Rat
import Vespid.Js
import Vespid.Scheduler.Cron

/-!
# Provider signatures

How a webhook is authenticated: by the adapter of its channel, and then by the manager where the
account has a `webhookSecret`. Both hash the body as it is written out again after parsing.
-/

namespace Vespid.Channels.Signatures

/-! ### Writing a body out -/

def hexDigit (n : Nat) : Char := if n < 10 then Char.ofNat (48 + n) else Char.ofNat (87 + n)

/-- A character of a string as `JSON.stringify` writes it. -/
def quoteChar (c : Char) : List Char :=
  if c = '"' then ['\\', '"']
  else if c = '\\' then ['\\', '\\']
  else if c.toNat = 8 then ['\\', 'b']
  else if c.toNat = 9 then ['\\', 't']
  else if c.toNat = 10 then ['\\', 'n']
  else if c.toNat = 12 then ['\\', 'f']
  else if c.toNat = 13 then ['\\', 'r']
  else if c.toNat < 32 then ['\\', 'u', '0', '0', hexDigit (c.toNat / 16), hexDigit (c.toNat % 16)]
  else [c]

def quote (s : String) : List Char := '"' :: s.toList.flatMap quoteChar ++ ['"']

mutual

/-- `JSON.stringify`; `number` is the text of a number. -/
def stringify (number : Rat → List Char) : Json → List Char
  | .null => "null".toList
  | .bool b => (if b then "true" else "false").toList
  | .num n => number n
  | .str s => quote s
  | .arr items => '[' :: stringifyItems number items ++ [']']
  | .obj fields => '{' :: stringifyFields number fields ++ ['}']

def stringifyItems (number : Rat → List Char) : List Json → List Char
  | [] => []
  | [item] => stringify number item
  | item :: rest => stringify number item ++ ',' :: stringifyItems number rest

def stringifyFields (number : Rat → List Char) : List (String × Json) → List Char
  | [] => []
  | [(key, value)] => quote key ++ ':' :: stringify number value
  | (key, value) :: rest =>
    quote key ++ ':' :: stringify number value ++ ',' :: stringifyFields number rest

end

/-- `JSON.stringify(body ?? {})` -/
def bodyText (number : Rat → List Char) (body : Json) : String :=
  String.ofList (stringify number (match body with
    | .null => .obj []
    | body => body))

/-! ### Digests -/

inductive DigestEncoding where
  | hex | base64
  deriving DecidableEq

def DigestEncoding.chars : DigestEncoding → Char → Bool
  | hex, c => c.isDigit || ('a' ≤ c && c ≤ 'f')
  | base64, c => c.isAlphanum || c = '+' || c = '/' || c = '='

/-- `createHmac("sha256", secret).update(message).digest(encoding)` -/
structure Hmac where
  digest : DigestEncoding → (secret message : String) → String
  chars : ∀ encoding secret message,
    ∀ c ∈ (digest encoding secret message).toList, encoding.chars c = true
  filled : ∀ encoding secret message, (digest encoding secret message).toList ≠ []

/-! ### Requests and accounts -/

/-- A string that is not blank, trimmed. -/
def readText (s : String) : Option String :=
  if Scheduler.trim s.toList = [] then none else some (String.ofList (Scheduler.trim s.toList))

/-- A webhook request: the body as it was sent and as it was parsed. -/
structure WebhookRequest (parse : String → Option Json) where
  raw : String
  body : Json
  parsed : parse raw = some body
  headers : String → Option String
  receivedAtMs : Int

structure ChannelAccount where
  enabled : Bool
  metadata : Json

def ChannelAccount.readString (account : ChannelAccount) (key : String) : Option String :=
  match account.metadata.field? key with
  | some (.str s) => readText s
  | _ => none

/-- What `authenticateWebhook` decides. -/
inductive Decision where
  | ok
  | failed (reason : String)
  deriving DecidableEq

section authentication
variable {parse : String → Option Json}

def WebhookRequest.readHeader (request : WebhookRequest parse) (name : String) : Option String :=
  (request.headers name).bind readText

def extractBearerToken (header : Option String) : Option String :=
  header.bind fun value => match splitChars (· == ' ') value.toList with
    | scheme :: token :: _ =>
      if token ≠ [] ∧ scheme.map Char.toLower = "bearer".toList then some (String.ofList token)
      else none
    | _ => none

def parseHexSignature (value : String) : String :=
  if "sha256=".toList.isPrefixOf value.toList then String.ofList (value.toList.drop 7) else value

variable (js : JsRuntime) (number : Rat → List Char) (hmac : Hmac) (account : ChannelAccount)
  (request : WebhookRequest parse)

def verifyHexHmac (secret signature : String) : Bool :=
  parseHexSignature signature = hmac.digest .hex secret (bodyText number request.body)

def verifyBase64Hmac (secret signature : String) : Bool :=
  signature = hmac.digest .base64 secret (bodyText number request.body)

def validateBearerOrHeaderToken (headerName reason : String) : Decision :=
  match account.readString "ingressToken" with
  | none => .ok
  | some expected =>
    match (request.readHeader headerName).or (extractBearerToken (request.headers "authorization"))
    with
    | none => .failed reason
    | some provided => if provided = expected then .ok else .failed reason

def validateSlackSignature : Decision :=
  match account.readString "signingSecret" with
  | none => .ok
  | some signingSecret =>
    match request.readHeader "x-slack-signature",
        request.readHeader "x-slack-request-timestamp" with
    | some signature, some timestampRaw =>
      match js.number (.json (.str timestampRaw)) with
      | none => .failed "slack_timestamp_invalid"
      | some timestamp =>
        if |((request.receivedAtMs / 1000 : Int) : Rat) - timestamp| > 10 * 60 then
          .failed "slack_timestamp_out_of_window"
        else if signature ≠ "v0=" ++ hmac.digest .hex signingSecret
            ("v0:" ++ timestampRaw ++ ":" ++ bodyText number request.body) then
          .failed "slack_signature_invalid"
        else .ok
    | _, _ => .failed "slack_signature_missing"

def validateWebhookHmac (secretKey signatureHeader reasonMissing reasonInvalid : String) :
    Decision :=
  match account.readString secretKey with
  | none => .ok
  | some secret =>
    match request.readHeader signatureHeader with
    | none => .failed reasonMissing
    | some signature =>
      if verifyHexHmac number hmac request secret signature then .ok else .failed reasonInvalid

def validateTwitchSignature : Decision :=
  match account.readString "webhookSecret" with
  | none => .ok
  | some secret =>
    match request.readHeader "twitch-eventsub-message-id",
      request.readHeader "twitch-eventsub-message-timestamp",
      request.readHeader "twitch-eventsub-message-signature" with
    | some messageId, some timestamp, some signature =>
      if signature ≠ "sha256=" ++ hmac.digest .hex secret
          (messageId ++ timestamp ++ bodyText number request.body) then
        .failed "twitch_signature_invalid"
      else .ok
    | _, _, _ => .failed "twitch_signature_missing"

def validateZaloSignature : Decision :=
  validateWebhookHmac number hmac account request "webhookSecret" "x-zalo-signature"
    "zalo_signature_missing" "zalo_signature_invalid"

def validateLineSignature : Decision :=
  match account.readString "channelSecret" with
  | none => validateBearerOrHeaderToken account request "x-line-token" "line_token_invalid"
  | some secret =>
    match request.readHeader "x-line-signature" with
    | none => .failed "line_signature_missing"
    | some signature =>
      if verifyBase64Hmac number hmac request secret signature then .ok
      else .failed "line_signature_invalid"

/-- The second check, where the first one passes. -/
def Decision.andThen (first second : Decision) : Decision :=
  match first with
  | .ok => second
  | .failed reason => .failed reason

/-- The channels whose provider signs its requests with an HMAC. -/
inductive Provider where
  | slack | whatsapp | line | twitch | zalo | signal | bluebubbles
  deriving DecidableEq

/-- `authenticateWebhook` of the provider's adapter. -/
def authenticateWebhook : Provider → Decision
  | .slack => validateSlackSignature js number hmac account request
  | .whatsapp =>
    validateWebhookHmac number hmac account request "appSecret" "x-hub-signature-256"
      "whatsapp_signature_missing" "whatsapp_signature_invalid"
  | .line => validateLineSignature number hmac account request
  | .twitch =>
    (validateTwitchSignature number hmac account request).andThen
      (validateBearerOrHeaderToken account request "x-twitch-token" "twitch_token_invalid")
  | .zalo =>
    (validateZaloSignature number hmac account request).andThen
      (validateBearerOrHeaderToken account request "x-zalo-token" "zalo_token_invalid")
  | .signal =>
    (validateWebhookHmac number hmac account request "webhookSecret" "x-signal-signature"
      "signal_signature_missing" "signal_signature_invalid").andThen
      (validateBearerOrHeaderToken account request "x-signal-token" "signal_token_invalid")
  | .bluebubbles =>
    (validateWebhookHmac number hmac account request "webhookSecret" "x-bluebubbles-signature"
      "bluebubbles_signature_missing" "bluebubbles_signature_invalid").andThen
      (validateBearerOrHeaderToken account request "x-bluebubbles-token"
        "bluebubbles_token_invalid")

/-- `verifySignature` of the manager. -/
def verifySignature (secret : String) (signatureHeader : Option String) : Bool :=
  match signatureHeader.bind readText with
  | none => false
  | some signature => signature = hmac.digest .hex secret (bodyText number request.body)

/-- The signature check of the manager itself. -/
def managerCheck : Bool :=
  match account.readString "webhookSecret" with
  | none => true
  | some webhookSecret =>
    verifySignature number hmac request webhookSecret
      ((request.headers "x-channel-signature").or (request.headers "x-signature"))

/-- `handleWebhook` up to the reading of the message: why the request is rejected, if it is. -/
def rejectReason (runtimeEnabled : Bool) (provider : Provider) : Option String :=
  if !runtimeEnabled then some "channel_disabled"
  else if !account.enabled then some "account_disabled"
  else match authenticateWebhook js number hmac account request provider with
    | .failed reason => some reason
    | .ok => if managerCheck number hmac account request then none else some "signature_invalid"

end authentication

/-! ### Genuine requests -/

/-- The encoding of a provider's signature, its header and the key of its secret. -/
def Provider.encoding : Provider → DigestEncoding
  | line => .base64
  | _ => .hex

def Provider.signatureHeader : Provider → String
  | slack => "x-slack-signature"
  | whatsapp => "x-hub-signature-256"
  | line => "x-line-signature"
  | twitch => "twitch-eventsub-message-signature"
  | zalo => "x-zalo-signature"
  | signal => "x-signal-signature"
  | bluebubbles => "x-bluebubbles-signature"

def Provider.secretKey : Provider → String
  | slack => "signingSecret"
  | whatsapp => "appSecret"
  | line => "channelSecret"
  | twitch | zalo | signal | bluebubbles => "webhookSecret"

/-- Where a token may be asked for as well. -/
def Provider.tokenHeader : Provider → Option String
  | twitch => some "x-twitch-token"
  | zalo => some "x-zalo-token"
  | signal => some "x-signal-token"
  | bluebubbles => some "x-bluebubbles-token"
  | slack | whatsapp | line => none

/-- How a signature with this digest may be spelled. -/
def Provider.spellings (digest : String) : Provider → List String
  | slack => ["v0=" ++ digest]
  | twitch => ["sha256=" ++ digest]
  | line => [digest]
  | whatsapp | zalo | signal | bluebubbles => [digest, "sha256=" ++ digest]

section genuine
variable {parse : String → Option Json}

/-- The text a provider signs for a body, where the request has the headers it is made of. -/
def signedText (request : WebhookRequest parse) (body : String) : Provider → Option String
  | .slack =>
    (request.readHeader "x-slack-request-timestamp").map fun timestamp =>
      "v0:" ++ timestamp ++ ":" ++ body
  | .twitch =>
    (request.readHeader "twitch-eventsub-message-id").bind fun messageId =>
      (request.readHeader "twitch-eventsub-message-timestamp").map fun timestamp =>
        messageId ++ timestamp ++ body
  | _ => some body

/-- The request carries its provider's signature of the body as it was sent. -/
def Genuine (hmac : Hmac) (provider : Provider) (secret : String)
    (request : WebhookRequest parse) : Prop :=
  ∃ text, signedText request request.raw provider = some text ∧
    ∃ signature ∈ provider.spellings (hmac.digest provider.encoding secret text),
      request.headers provider.signatureHeader = some signature

/-- The body written out again has the digest of the body that was sent, as it has where the two
are the same text. -/
def SameDigest (number : Rat → List Char) (hmac : Hmac) (provider : Provider) (secret : String)
    (request : WebhookRequest parse) : Prop :=
  (signedText request (bodyText number request.body) provider).map
      (hmac.digest provider.encoding secret) =
    (signedText request request.raw provider).map (hmac.digest provider.encoding secret)

/-- Slack's time stamp is a number within ten minutes of the receipt. -/
def Timely (js : JsRuntime) (provider : Provider) (request : WebhookRequest parse) : Prop :=
  provider = .slack → ∃ timestampRaw timestamp,
    request.readHeader "x-slack-request-timestamp" = some timestampRaw ∧
    js.number (.json (.str timestampRaw)) = some timestamp ∧
    |((request.receivedAtMs / 1000 : Int) : Rat) - timestamp| ≤ 10 * 60

/-- The token the account asks for as well, if any, is there. -/
def TokenShown (account : ChannelAccount) (provider : Provider)
    (request : WebhookRequest parse) : Prop :=
  ∀ header, provider.tokenHeader = some header → ∀ expected,
    account.readString "ingressToken" = some expected →
      (request.readHeader header).or (extractBearerToken (request.headers "authorization")) =
        some expected

/-- Where the account has a `webhookSecret`, the header the manager looks at holds the plain hex
digest of the body as it is written out. -/
def ManagerSigned (number : Rat → List Char) (hmac : Hmac) (account : ChannelAccount)
    (request : WebhookRequest parse) : Prop :=
  ∀ webhookSecret, account.readString "webhookSecret" = some webhookSecret →
    ((request.headers "x-channel-signature").or (request.headers "x-signature")).bind readText =
      some (hmac.digest .hex webhookSecret (bodyText number request.body))

end genuine

/-! ### Reading a signature -/

/-- Text without white space, and some of it. -/
def Solid (s : String) : Prop := s.toList ≠ [] ∧ ∀ c ∈ s.toList, Scheduler.isSpace c = false

theorem solid_of_all {s : String} (filled : s.toList ≠ [])
    (solid : s.toList.any Scheduler.isSpace = false) : Solid s :=
  ⟨filled, fun c mem => by simpa using List.any_eq_false.mp solid c mem⟩

theorem readText_solid {s : String} (solid : Solid s) : readText s = some s := by
  rw [readText, Scheduler.trim_of_solid solid.2, if_neg solid.1, String.ofList_toList]

theorem Solid.append {s t : String} (first : Solid s) (second : Solid t) : Solid (s ++ t) := by
  refine ⟨by simp [first.1], fun c mem => ?_⟩
  rw [String.toList_append] at mem
  rcases List.mem_append.mp mem with early | late
  · exact first.2 c early
  · exact second.2 c late

theorem isSpace_digestChar {encoding : DigestEncoding} {c : Char} (fits : encoding.chars c = true) :
    Scheduler.isSpace c = false := by
  have range : 43 ≤ c.toNat ∧ c.toNat ≤ 122 := by
    cases encoding with
    | hex =>
      simp only [DigestEncoding.chars, Char.isDigit, Bool.or_eq_true, Bool.and_eq_true,
        decide_eq_true_eq, Char.le_def, ge_iff_le, UInt32.le_iff_toNat_le] at fits
      rcases fits with ⟨low, high⟩ | ⟨low, high⟩
      · exact ⟨le_trans (by decide) low, le_trans high (by decide)⟩
      · exact ⟨le_trans (by decide) low, le_trans high (by decide)⟩
    | base64 =>
      have spelled : DigestEncoding.chars .base64 c =
          ((((decide (c.val ≥ 'A'.val ∧ c.val ≤ 'Z'.val) || (c.val ≥ 'a'.val && c.val ≤ 'z'.val)) ||
            (c.val ≥ '0'.val && c.val ≤ '9'.val)) || c = '+') || c = '/' || c = '=') := rfl
      rw [spelled] at fits
      simp only [Bool.or_eq_true, Bool.and_eq_true, decide_eq_true_eq, ge_iff_le,
        UInt32.le_iff_toNat_le] at fits
      rcases fits with (((((⟨low, high⟩ | ⟨low, high⟩) | ⟨low, high⟩) | rfl) | rfl) | rfl)
      · exact ⟨le_trans (by decide) low, le_trans high (by decide)⟩
      · exact ⟨le_trans (by decide) low, le_trans high (by decide)⟩
      · exact ⟨le_trans (by decide) low, le_trans high (by decide)⟩
      · decide
      · decide
      · decide
  simp only [Scheduler.isSpace, Bool.or_eq_false_iff, decide_eq_false_iff_not, List.mem_cons,
    List.not_mem_nil, or_false, Bool.and_eq_false_iff]
  omega

theorem Hmac.solid (hmac : Hmac) (encoding : DigestEncoding) (secret message : String) :
    Solid (hmac.digest encoding secret message) :=
  ⟨hmac.filled encoding secret message,
    fun c mem => isSpace_digestChar (hmac.chars encoding secret message c mem)⟩

theorem spelled_either {digest signature : String}
    (spelled : signature ∈ [digest, "sha256=" ++ digest]) :
    signature = digest ∨ signature = "sha256=" ++ digest := by
  simpa using spelled

theorem solid_of_spelling {hmac : Hmac} {provider : Provider} {secret text signature : String}
    (spelled : signature ∈ provider.spellings (hmac.digest provider.encoding secret text)) :
    Solid signature := by
  have digest := hmac.solid provider.encoding secret text
  have v0 : Solid "v0=" := solid_of_all (by decide) (by rfl)
  have sha : Solid "sha256=" := solid_of_all (by decide) (by rfl)
  cases provider with
  | slack => exact List.mem_singleton.mp spelled ▸ v0.append digest
  | twitch => exact List.mem_singleton.mp spelled ▸ sha.append digest
  | line => exact List.mem_singleton.mp spelled ▸ digest
  | whatsapp | zalo | signal | bluebubbles =>
    rcases spelled_either spelled with rfl | rfl
    · exact digest
    · exact sha.append digest

theorem parseHexSignature_digest (hmac : Hmac) (secret message : String) :
    parseHexSignature (hmac.digest .hex secret message) = hmac.digest .hex secret message := by
  refine if_neg fun starts => ?_
  obtain ⟨rest, same⟩ := List.isPrefixOf_iff_prefix.mp starts
  have s : 's' ∈ (hmac.digest .hex secret message).toList := by
    rw [← same]
    simp
  exact absurd (hmac.chars .hex secret message 's' s) (by decide)

theorem parseHexSignature_prefixed (digest : String) :
    parseHexSignature ("sha256=" ++ digest) = digest := by
  have starts : "sha256=".toList.isPrefixOf ("sha256=" ++ digest).toList = true := by
    rw [String.toList_append]
    exact List.isPrefixOf_iff_prefix.mpr (List.prefix_append _ _)
  rw [parseHexSignature, if_pos starts, String.toList_append]
  exact String.ofList_toList

/-! ### What each check accepts -/

section acceptance
variable {parse : String → Option Json} {js : JsRuntime} {number : Rat → List Char} {hmac : Hmac}
  {account : ChannelAccount} {request : WebhookRequest parse} {secret signature : String}

theorem andThen_eq_ok {first second : Decision} :
    first.andThen second = .ok ↔ first = .ok ∧ second = .ok := by
  cases first <;> simp [Decision.andThen]

theorem readHeader_solid {name : String} (there : request.headers name = some signature)
    (solid : Solid signature) : request.readHeader name = some signature := by
  rw [WebhookRequest.readHeader, there]
  exact readText_solid solid

theorem validateBearerOrHeaderToken_eq_ok {headerName reason : String} :
    validateBearerOrHeaderToken account request headerName reason = .ok ↔
      ∀ expected, account.readString "ingressToken" = some expected →
        (request.readHeader headerName).or (extractBearerToken (request.headers "authorization")) =
          some expected := by
  unfold validateBearerOrHeaderToken
  cases asked : account.readString "ingressToken" with
  | none => simp
  | some expected =>
    cases shown : (request.readHeader headerName).or
        (extractBearerToken (request.headers "authorization")) with
    | none => simp
    | some provided => by_cases same : provided = expected <;> simp [same]

theorem tokenShown_of_none {provider : Provider} (free : provider.tokenHeader = none) :
    TokenShown account provider request := by
  intro header asked
  rw [free] at asked
  cases asked

theorem tokenShown_iff {provider : Provider} {header reason : String}
    (asked : provider.tokenHeader = some header) :
    TokenShown account provider request ↔
      validateBearerOrHeaderToken account request header reason = .ok := by
  rw [validateBearerOrHeaderToken_eq_ok]
  refine ⟨fun shown => shown header asked, fun shown other there => ?_⟩
  cases Option.some.inj (asked.symm.trans there)
  exact shown

theorem validateWebhookHmac_eq_ok (provider : Provider) {missing invalid : String}
    (encoding : provider.encoding = .hex)
    (spellings : ∀ digest, provider.spellings digest = [digest, "sha256=" ++ digest])
    (signed : ∀ body, signedText request body provider = some body)
    (configured : account.readString provider.secretKey = some secret)
    (genuine : Genuine hmac provider secret request) :
    validateWebhookHmac number hmac account request provider.secretKey provider.signatureHeader
        missing invalid = .ok ↔ SameDigest number hmac provider secret request := by
  obtain ⟨text, ofRaw, signature, spelled, there⟩ := genuine
  rw [signed] at ofRaw
  cases Option.some.inj ofRaw
  have read := readHeader_solid there (solid_of_spelling spelled)
  rw [spellings, encoding] at spelled
  have parsed : parseHexSignature signature = hmac.digest .hex secret request.raw := by
    rcases spelled_either spelled with rfl | rfl
    · exact parseHexSignature_digest hmac secret request.raw
    · exact parseHexSignature_prefixed _
  rw [SameDigest, signed, signed, encoding]
  unfold validateWebhookHmac verifyHexHmac
  rw [configured, read]
  simp only [parsed, decide_eq_true_eq, Option.map_some, Option.some.injEq]
  constructor
  · intro accepted
    split at accepted
    · exact Eq.symm ‹_›
    · cases accepted
  · exact fun same => if_pos same.symm

theorem not_timely_needed {provider : Provider} (other : provider ≠ .slack) :
    Timely js provider request := fun slack => absurd slack other

theorem validateSlackSignature_eq_ok
    (configured : account.readString Provider.slack.secretKey = some secret)
    (genuine : Genuine hmac .slack secret request) :
    validateSlackSignature js number hmac account request = .ok ↔
      SameDigest number hmac .slack secret request ∧ Timely js .slack request := by
  obtain ⟨text, ofRaw, signature, spelled, there⟩ := genuine
  have solid := solid_of_spelling spelled
  obtain ⟨stamp, stamped, rfl⟩ := Option.map_eq_some_iff.mp ofRaw
  cases List.mem_singleton.mp spelled
  have read : request.readHeader "x-slack-signature" =
      some ("v0=" ++ hmac.digest .hex secret ("v0:" ++ stamp ++ ":" ++ request.raw)) :=
    readHeader_solid there solid
  have same_iff : SameDigest number hmac .slack secret request ↔
      hmac.digest .hex secret ("v0:" ++ stamp ++ ":" ++ request.raw) =
        hmac.digest .hex secret ("v0:" ++ stamp ++ ":" ++ bodyText number request.body) := by
    simp only [SameDigest, signedText, stamped, Option.map_some, Option.some.injEq]
    exact eq_comm
  have timely_iff : Timely js .slack request ↔ ∃ timestamp,
      js.number (.json (.str stamp)) = some timestamp ∧
        |((request.receivedAtMs / 1000 : Int) : Rat) - timestamp| ≤ 10 * 60 := by
    simp only [Timely, stamped, Option.some.injEq, forall_true_left]
    constructor
    · rintro ⟨_, timestamp, rfl, readable, near⟩
      exact ⟨timestamp, readable, near⟩
    · rintro ⟨timestamp, readable, near⟩
      exact ⟨stamp, timestamp, rfl, readable, near⟩
  rw [same_iff, timely_iff]
  unfold validateSlackSignature
  rw [show account.readString "signingSecret" = some secret from configured,
    read, stamped]
  dsimp only
  cases readable : js.number (.json (.str stamp)) with
  | none => simp
  | some timestamp =>
    dsimp only
    split
    · next late => simp [not_le.mpr late]
    · next near =>
      split
      · next other => simpa using fun same => absurd (congrArg ("v0=" ++ ·) same) other
      · next same =>
        have digests := (String.append_right_inj _).mp (not_not.mp same)
        simp only [Option.some.injEq, exists_eq_left', true_iff]
        exact ⟨digests, not_lt.mp near⟩

theorem validateTwitchSignature_eq_ok
    (configured : account.readString Provider.twitch.secretKey = some secret)
    (genuine : Genuine hmac .twitch secret request) :
    validateTwitchSignature number hmac account request = .ok ↔
      SameDigest number hmac .twitch secret request := by
  obtain ⟨text, ofRaw, signature, spelled, there⟩ := genuine
  have solid := solid_of_spelling spelled
  obtain ⟨messageId, identified, rest⟩ := Option.bind_eq_some_iff.mp ofRaw
  obtain ⟨stamp, stamped, rfl⟩ := Option.map_eq_some_iff.mp rest
  cases List.mem_singleton.mp spelled
  have read : request.readHeader "twitch-eventsub-message-signature" =
      some ("sha256=" ++ hmac.digest .hex secret (messageId ++ stamp ++ request.raw)) :=
    readHeader_solid there solid
  have same_iff : SameDigest number hmac .twitch secret request ↔
      hmac.digest .hex secret (messageId ++ stamp ++ request.raw) =
        hmac.digest .hex secret (messageId ++ stamp ++ bodyText number request.body) := by
    simp only [SameDigest, signedText, identified, stamped, Option.bind_some, Option.map_some,
      Option.some.injEq]
    exact eq_comm
  rw [same_iff]
  unfold validateTwitchSignature
  rw [show account.readString "webhookSecret" = some secret from configured,
    read, identified, stamped]
  dsimp only
  split
  · next other => simpa using fun same => absurd (congrArg ("sha256=" ++ ·) same) other
  · next same => simpa using (String.append_right_inj _).mp (not_not.mp same)

theorem validateLineSignature_eq_ok
    (configured : account.readString Provider.line.secretKey = some secret)
    (genuine : Genuine hmac .line secret request) :
    validateLineSignature number hmac account request = .ok ↔
      SameDigest number hmac .line secret request := by
  obtain ⟨text, ofRaw, signature, spelled, there⟩ := genuine
  have read := readHeader_solid there (solid_of_spelling spelled)
  cases Option.some.inj ofRaw
  cases List.mem_singleton.mp spelled
  unfold validateLineSignature verifyBase64Hmac
  rw [show account.readString "channelSecret" = some secret from configured,
    show request.readHeader "x-line-signature" = some _ from read]
  simp only [SameDigest, signedText, Option.map_some, Option.some.injEq, decide_eq_true_eq]
  constructor
  · intro accepted
    split at accepted
    · exact Eq.symm ‹_›
    · cases accepted
  · exact fun same => if_pos same.symm

theorem authenticateWebhook_eq_ok {provider : Provider}
    (configured : account.readString provider.secretKey = some secret)
    (genuine : Genuine hmac provider secret request) :
    authenticateWebhook js number hmac account request provider = .ok ↔
      SameDigest number hmac provider secret request ∧ Timely js provider request ∧
        TokenShown account provider request := by
  cases provider with
  | slack =>
    have free : TokenShown account .slack request := tokenShown_of_none rfl
    simp only [authenticateWebhook, validateSlackSignature_eq_ok configured genuine, free, and_true]
  | whatsapp =>
    have free : TokenShown account .whatsapp request := tokenShown_of_none rfl
    have hex : validateWebhookHmac number hmac account request "appSecret" "x-hub-signature-256"
        "whatsapp_signature_missing" "whatsapp_signature_invalid" = .ok ↔
          SameDigest number hmac .whatsapp secret request :=
      validateWebhookHmac_eq_ok .whatsapp rfl (fun _ => rfl) (fun _ => rfl) configured genuine
    have untimed : Timely js .whatsapp request := not_timely_needed (by decide)
    simp only [authenticateWebhook, hex, free, untimed, and_true]
  | line =>
    have free : TokenShown account .line request := tokenShown_of_none rfl
    have untimed : Timely js .line request := not_timely_needed (by decide)
    simp only [authenticateWebhook, validateLineSignature_eq_ok configured genuine, free, untimed,
      and_true]
  | twitch =>
    have untimed : Timely js .twitch request := not_timely_needed (by decide)
    simp only [authenticateWebhook, andThen_eq_ok,
      validateTwitchSignature_eq_ok configured genuine, untimed, true_and]
    rw [tokenShown_iff rfl]
  | zalo =>
    have hex : validateWebhookHmac number hmac account request "webhookSecret" "x-zalo-signature"
        "zalo_signature_missing" "zalo_signature_invalid" = .ok ↔
          SameDigest number hmac .zalo secret request :=
      validateWebhookHmac_eq_ok .zalo rfl (fun _ => rfl) (fun _ => rfl) configured genuine
    have untimed : Timely js .zalo request := not_timely_needed (by decide)
    simp only [authenticateWebhook, validateZaloSignature, andThen_eq_ok, hex, untimed, true_and]
    rw [tokenShown_iff rfl]
  | signal =>
    have hex : validateWebhookHmac number hmac account request "webhookSecret" "x-signal-signature"
        "signal_signature_missing" "signal_signature_invalid" = .ok ↔
          SameDigest number hmac .signal secret request :=
      validateWebhookHmac_eq_ok .signal rfl (fun _ => rfl) (fun _ => rfl) configured genuine
    have untimed : Timely js .signal request := not_timely_needed (by decide)
    simp only [authenticateWebhook, andThen_eq_ok, hex, untimed, true_and]
    rw [tokenShown_iff rfl]
  | bluebubbles =>
    have hex : validateWebhookHmac number hmac account request "webhookSecret"
        "x-bluebubbles-signature"
        "bluebubbles_signature_missing" "bluebubbles_signature_invalid" = .ok ↔
          SameDigest number hmac .bluebubbles secret request :=
      validateWebhookHmac_eq_ok .bluebubbles rfl (fun _ => rfl) (fun _ => rfl) configured genuine
    have untimed : Timely js .bluebubbles request := not_timely_needed (by decide)
    simp only [authenticateWebhook, andThen_eq_ok, hex, untimed, true_and]
    rw [tokenShown_iff rfl]

theorem managerCheck_iff :
    managerCheck number hmac account request = true ↔
      ManagerSigned number hmac account request := by
  unfold managerCheck ManagerSigned verifySignature
  cases asked : account.readString "webhookSecret" with
  | none => simp
  | some webhookSecret =>
    cases shown : ((request.headers "x-channel-signature").or
        (request.headers "x-signature")).bind readText with
    | none => simp
    | some signature => simp

theorem rejectReason_of_ok {provider : Provider} {runtimeEnabled : Bool}
    (passes : authenticateWebhook js number hmac account request provider = .ok) :
    rejectReason js number hmac account request runtimeEnabled provider ≠
        some "signature_invalid" ↔
      (runtimeEnabled = true → account.enabled = true →
        ManagerSigned number hmac account request) := by
  unfold rejectReason
  rw [passes, ← managerCheck_iff]
  cases runtimeEnabled with
  | false => simp
  | true =>
    cases account.enabled with
    | false => simp
    | true => cases managerCheck number hmac account request <;> simp

end acceptance

/-! ### Samples -/

def sampleBody : Json := .obj [("a", .bool true)]

def compactText : String := "\x7b\"a\":true\x7d"

def spacedText : String := "\x7b\"a\": true\x7d"

/-- `JSON.parse` on these two texts. -/
def sampleParse (raw : String) : Option Json :=
  if raw = compactText ∨ raw = spacedText then some sampleBody else none

def sampleRequest (raw : String) (parsed : sampleParse raw = some sampleBody)
    (header value : String) : WebhookRequest sampleParse where
  raw := raw
  body := sampleBody
  parsed := parsed
  headers name := if name = header then some value else none
  receivedAtMs := 0

def accountWith (key secret : String) : ChannelAccount where
  enabled := true
  metadata := .obj [(key, .str secret)]

def zaloRequest (hmac : Hmac) : WebhookRequest sampleParse :=
  sampleRequest compactText rfl "x-zalo-signature" (hmac.digest .hex "zalo-secret" compactText)

def whatsappRequest (hmac : Hmac) : WebhookRequest sampleParse :=
  sampleRequest spacedText rfl "x-hub-signature-256" (hmac.digest .hex "app-secret" spacedText)

theorem bodyText_sample (number : Rat → List Char) : bodyText number sampleBody = compactText := by
  simp [bodyText, sampleBody, stringify, stringifyFields, quote, quoteChar, compactText]

theorem zaloRequest_genuine (hmac : Hmac) :
    Genuine hmac .zalo "zalo-secret" (zaloRequest hmac) :=
  ⟨compactText, rfl, _, List.mem_cons_self, rfl⟩

theorem whatsappRequest_genuine (hmac : Hmac) :
    Genuine hmac .whatsapp "app-secret" (whatsappRequest hmac) :=
  ⟨spacedText, rfl, _, List.mem_cons_self, rfl⟩

/-- A request that its provider signed is accepted exactly when the body written out again has the
digest of the body that was sent, Slack's time stamp is recent, a token that is asked for as well
is shown, and the manager's own signature is there where the account has a `webhookSecret`. -/
theorem genuine_accepted_iff (js : JsRuntime) (number : Rat → List Char) (hmac : Hmac)
    {parse : String → Option Json} (account : ChannelAccount) (request : WebhookRequest parse)
    (provider : Provider) (runtimeEnabled : Bool) (secret : String)
    (configured : account.readString provider.secretKey = some secret)
    (genuine : Genuine hmac provider secret request) :
    (authenticateWebhook js number hmac account request provider = .ok ∧
        rejectReason js number hmac account request runtimeEnabled provider ≠
          some "signature_invalid") ↔
      SameDigest number hmac provider secret request ∧ Timely js provider request ∧
        TokenShown account provider request ∧
        (runtimeEnabled = true → account.enabled = true →
          ManagerSigned number hmac account request) := by
  have adapter : authenticateWebhook js number hmac account request provider = .ok ↔
      SameDigest number hmac provider secret request ∧ Timely js provider request ∧
        TokenShown account provider request := authenticateWebhook_eq_ok configured genuine
  constructor
  · rintro ⟨passes, notRejected⟩
    obtain ⟨same, timely, shown⟩ := adapter.mp passes
    exact ⟨same, timely, shown, (rejectReason_of_ok passes).mp notRejected⟩
  · rintro ⟨same, timely, shown, signed⟩
    have passes := adapter.mpr ⟨same, timely, shown⟩
    exact ⟨passes, (rejectReason_of_ok passes).mpr signed⟩

/-- Digests that spell out their message. -/
def spellingHmac : Hmac where
  digest _ _ message := String.ofList ('0' :: message.toList.flatMap fun c =>
    [if c = ' ' then 'b' else 'a'])
  chars encoding secret message c mem := by
    rw [String.toList_ofList] at mem
    rcases List.mem_cons.mp mem with rfl | later
    · cases encoding <;> decide
    · obtain ⟨d, -, is⟩ := List.mem_flatMap.mp later
      rw [List.mem_singleton.mp is]
      cases encoding <;> split <;> decide
  filled _ _ _ := by simp

def plainJs : JsRuntime where
  localeCompare a b := compareOfLessAndEq a b
  number _ := none
  inherited _ _ := .undefined

/-- WhatsApp's request with the body in its shortest form. -/
def compactRequest : WebhookRequest sampleParse :=
  sampleRequest compactText rfl "x-hub-signature-256"
    (spellingHmac.digest .hex "app-secret" compactText)

theorem genuine_accepted_compact :
    authenticateWebhook plainJs (fun _ => []) spellingHmac (accountWith "appSecret" "app-secret")
        compactRequest .whatsapp = .ok ∧
      rejectReason plainJs (fun _ => []) spellingHmac (accountWith "appSecret" "app-secret")
        compactRequest true .whatsapp ≠ some "signature_invalid" := by
  refine (genuine_accepted_iff plainJs (fun _ => []) spellingHmac _ compactRequest .whatsapp true
    "app-secret" (by decide +kernel) ⟨compactText, rfl, _, List.mem_cons_self, rfl⟩).mpr
    ⟨?_, not_timely_needed (by decide), tokenShown_of_none rfl, fun _ _ webhookSecret asked => ?_⟩
  · exact congrArg (fun text => some (spellingHmac.digest .hex "app-secret" text))
      (bodyText_sample _)
  · have unasked : (accountWith "appSecret" "app-secret").readString "webhookSecret" = none := by
      decide +kernel
    rw [unasked] at asked
    cases asked

/-! ### Genuine requests that are rejected -/

/-- A signed Zalo request passes its adapter and is rejected by the manager; a signed body with a
space in it is not accepted by WhatsApp's adapter. -/
theorem genuine_rejected :
    (∀ (js : JsRuntime) (number : Rat → List Char) (hmac : Hmac),
      Genuine hmac .zalo "zalo-secret" (zaloRequest hmac) ∧
        authenticateWebhook js number hmac (accountWith "webhookSecret" "zalo-secret")
          (zaloRequest hmac) .zalo = .ok ∧
        rejectReason js number hmac (accountWith "webhookSecret" "zalo-secret")
          (zaloRequest hmac) true .zalo = some "signature_invalid") ∧
    ∀ (js : JsRuntime) (number : Rat → List Char) (hmac : Hmac),
      hmac.digest .hex "app-secret" spacedText ≠ hmac.digest .hex "app-secret" compactText →
      Genuine hmac .whatsapp "app-secret" (whatsappRequest hmac) ∧
        authenticateWebhook js number hmac (accountWith "appSecret" "app-secret")
          (whatsappRequest hmac) .whatsapp ≠ .ok := by
  refine ⟨fun js number hmac => ⟨zaloRequest_genuine hmac, ?_⟩,
    fun js number hmac apart => ⟨whatsappRequest_genuine hmac, fun passes => ?_⟩⟩
  · have passes : authenticateWebhook js number hmac (accountWith "webhookSecret" "zalo-secret")
        (zaloRequest hmac) .zalo = .ok := by
      refine (authenticateWebhook_eq_ok (by decide +kernel) (zaloRequest_genuine hmac)).mpr
        ⟨?_, not_timely_needed (by decide), fun _ _ expected asked => ?_⟩
      · exact congrArg (fun text => some (hmac.digest .hex "zalo-secret" text))
          (bodyText_sample number)
      · have unasked : (accountWith "webhookSecret" "zalo-secret").readString "ingressToken" =
            none := by decide +kernel
        rw [unasked] at asked
        cases asked
    refine ⟨passes, not_not.mp fun notRejected => ?_⟩
    have signed := (rejectReason_of_ok passes).mp notRejected rfl rfl "zalo-secret"
      (by decide +kernel)
    simp [zaloRequest, sampleRequest] at signed
  · have same := ((authenticateWebhook_eq_ok (by decide +kernel)
      (whatsappRequest_genuine hmac)).mp passes).1
    have digests : hmac.digest .hex "app-secret" (bodyText number sampleBody) =
        hmac.digest .hex "app-secret" spacedText := Option.some.inj same
    rw [bodyText_sample] at digests
    exact apart digests.symm

end Vespid.Channels.Signatures
