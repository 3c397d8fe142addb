import Vespid.Js

/-!
# Profiles of OAuth providers

What a provider answers when a code is exchanged, and the profile made of it. Whether Google has
verified the address is not read. Of the addresses GitHub lists, a verified one is preferred; if
there is none, that of the public profile is taken.
-/

namespace Vespid.Api.OAuth

inductive OAuthProvider where
  | google | github
  deriving DecidableEq

/-! ### Errors -/

structure AppError where
  statusCode : Nat
  code : String
  message : String
  deriving DecidableEq

def badRequest (message : String) : AppError where
  statusCode := 400
  code := "BAD_REQUEST"
  message := message

def unauthorized (message : String) : AppError where
  statusCode := 401
  code := "UNAUTHORIZED"
  message := message

def extractProvider (value : String) : Except AppError OAuthProvider :=
  if value = "google" then .ok .google
  else if value = "github" then .ok .github
  else .error (badRequest "Unsupported OAuth provider")

/-- The answer to an error with that message. -/
def toOAuthAppError (message : String) : AppError :=
  if startsWith message "OAUTH_PROVIDER_NOT_CONFIGURED:" then
    let provider := (splitChars (· == ':') message.toList)[1]?.getD "provider".toList
    { statusCode := 503, code := "OAUTH_PROVIDER_NOT_CONFIGURED"
      message := "OAuth provider is not configured: " ++ String.ofList provider }
  else if message = "OAUTH_INVALID_NONCE" then
    { statusCode := 401, code := "OAUTH_INVALID_NONCE", message := "Invalid OAuth nonce" }
  else if message = "OAUTH_EMAIL_REQUIRED" then
    { statusCode := 400, code := "OAUTH_EMAIL_REQUIRED"
      message := "OAuth provider did not return an email address" }
  else
    { statusCode := 401
      code := if startsWith message "OAUTH_" then message else "OAUTH_EXCHANGE_FAILED"
      message := "OAuth exchange failed" }

/-! ### Responses -/

/-- The claims of the ID token and what the user info endpoint answers, or the profile and the list
of addresses. -/
inductive ProviderResponse where
  | google (claims : List (String × Json)) (userInfo : Except String Json)
  | github (profile emails : Json)

def ProviderResponse.provider : ProviderResponse → OAuthProvider
  | google _ _ => .google
  | github _ _ => .github

/-- `toLowerCase` -/
structure EmailCase where
  toLowerCase : String → String
  again : ∀ s, toLowerCase (toLowerCase s) = toLowerCase s

structure OAuthProfile where
  email : String
  displayName : Json

/-- The message of an error of the runtime. -/
def typeError : String := "TypeError"

/-- `value.key`, for a key that nothing inherits. -/
def property (value : Json) (key : String) : Except String (Option Json) :=
  match value with
  | .null => .error typeError
  | value => .ok (value.field? key)

/-- `value ?? undefined` -/
def present : Option Json → Option Json
  | some .null => none
  | value => value

/-- The address in the claims, if it is a text that is not empty. -/
def givenEmail (claims : List (String × Json)) : Option String :=
  match claims.lookup "email" with
  | some (.str email) => if email = "" then none else some email
  | _ => none

def googleEmail (claims : List (String × Json)) (userInfo : Except String Json) :
    Except String (Option Json) :=
  match givenEmail claims with
  | some email => .ok (some (.str email))
  | none => userInfo.bind fun info => (property info "email").map present

/-- `items.find(…)`, where the test may throw. -/
def find (test : Json → Except String Bool) : List Json → Except String (Option Json)
  | [] => .ok none
  | item :: rest => (test item).bind fun found => if found then .ok (some item) else find test rest

/-- Whether all these flags of the item are set. -/
def flagged (flags : List String) (item : Json) : Except String Bool :=
  match item with
  | .null => .error typeError
  | item => .ok (flags.all fun flag => (item.field? flag).any Json.truthy)

def preferred (emails : Json) : Except String (Option Json) :=
  match emails with
  | .arr items => (find (flagged ["primary", "verified"]) items).bind fun first =>
    match first with
    | some item => .ok (some item)
    | none => find (flagged ["verified"]) items
  | _ => .error typeError

def githubEmail (profile emails : Json) : Except String (Option Json) :=
  (preferred emails).bind fun item =>
    match present (item.bind (·.field? "email")) with
    | some email => .ok (some email)
    | none => (property profile "email").map present

/-- The address in lower case, which has to be there and to be a text. -/
def requiredEmail (lower : EmailCase) (email : Option Json) : Except String String :=
  match email.filter Json.truthy with
  | none => .error "OAUTH_EMAIL_REQUIRED"
  | some (.str email) => .ok (lower.toLowerCase email)
  | some _ => .error typeError

def googleProfile (lower : EmailCase) (nonce : String) (claims : List (String × Json))
    (userInfo : Except String Json) : Except String OAuthProfile :=
  match claims.lookup "nonce" with
  | some (.str claimed) =>
    if claimed ≠ nonce then .error "OAUTH_INVALID_NONCE"
    else (googleEmail claims userInfo).bind fun email =>
      (requiredEmail lower email).map fun email =>
        { email, displayName := match claims.lookup "name" with
            | some (.str name) => .str name
            | _ => .null }
  | _ => .error "OAUTH_INVALID_NONCE"

def githubProfile (lower : EmailCase) (profile emails : Json) : Except String OAuthProfile :=
  (githubEmail profile emails).bind fun email =>
    (requiredEmail lower email).bind fun email =>
      (property profile "name").bind fun name =>
        (property profile "login").map fun login =>
          { email, displayName := (present name).getD ((present login).getD .null) }

def exchangeCodeForProfile (lower : EmailCase) (nonce : String) :
    ProviderResponse → Except String OAuthProfile
  | .google claims userInfo => googleProfile lower nonce claims userInfo
  | .github profile emails => githubProfile lower profile emails

/-! ### Verified addresses -/

/-- The part tells this address and that it is verified. -/
def marks (lower : EmailCase) (flag address : String) (part : Json) : Bool :=
  match part.field? "email", part.field? flag with
  | some (.str email), some (.bool true) => lower.toLowerCase email == address
  | _, _ => false

def isSet (flag : String) (part : Json) : Bool :=
  match part.field? flag with
  | some (.bool true) => true
  | _ => false

/-- The part of Google's answer that the address is read from. -/
def googlePart (claims : List (String × Json)) (userInfo : Except String Json) : Option Json :=
  match givenEmail claims, userInfo with
  | some _, _ => some (.obj claims)
  | none, .ok info => some info
  | none, .error _ => none

def listed (emails : Json) : List Json :=
  match emails with
  | .arr items => items
  | _ => []

namespace ProviderResponse

/-- The provider says that the address is verified. -/
def asserts (lower : EmailCase) (address : String) : ProviderResponse → Bool
  | google claims userInfo =>
    (googlePart claims userInfo).any (marks lower "email_verified" address)
  | github _ emails => (listed emails).any (marks lower "verified" address)

/-- Google sets `email_verified` beside the address that is read; GitHub lists it as verified. -/
def vouched (lower : EmailCase) : ProviderResponse → Bool
  | google claims userInfo => (googlePart claims userInfo).any (isSet "email_verified")
  | github profile emails =>
    match githubEmail profile emails with
    | .ok (some (.str email)) =>
      (listed emails).any (marks lower "verified" (lower.toLowerCase email))
    | _ => false

end ProviderResponse

section profiles
variable {lower : EmailCase}

theorem requiredEmail_ok {email : Option Json} {address : String}
    (required : requiredEmail lower email = .ok address) :
    ∃ text, email = some (.str text) ∧ address = lower.toLowerCase text := by
  unfold requiredEmail at required
  split at required
  · cases required
  · next text found =>
    cases required
    exact ⟨text, (Option.filter_eq_some_iff.mp found).1, rfl⟩
  · cases required

theorem bind_ok {α β : Type} {x : Except String α} {f : α → Except String β} {b : β}
    (bound : x.bind f = .ok b) : ∃ a, x = .ok a ∧ f a = .ok b := by
  cases x with
  | error message => cases bound
  | ok a => exact ⟨a, rfl, bound⟩

theorem map_ok {α β : Type} {x : Except String α} {f : α → β} {b : β}
    (mapped : x.map f = .ok b) : ∃ a, x = .ok a ∧ f a = b := by
  cases x with
  | error message => cases mapped
  | ok a => exact ⟨a, rfl, Except.ok.inj mapped⟩

theorem googleProfile_ok {nonce : String} {claims : List (String × Json)}
    {userInfo : Except String Json} {profile : OAuthProfile}
    (exchanged : googleProfile lower nonce claims userInfo = .ok profile) :
    ∃ text, googleEmail claims userInfo = .ok (some (.str text)) ∧
      profile.email = lower.toLowerCase text := by
  unfold googleProfile at exchanged
  split at exchanged
  · split at exchanged
    · cases exchanged
    · obtain ⟨email, found, mapped⟩ := bind_ok exchanged
      obtain ⟨address, required, rfl⟩ := map_ok mapped
      obtain ⟨text, rfl, rfl⟩ := requiredEmail_ok required
      exact ⟨text, found, rfl⟩
  · cases exchanged

theorem githubProfile_ok {profile emails : Json} {result : OAuthProfile}
    (exchanged : githubProfile lower profile emails = .ok result) :
    ∃ text, githubEmail profile emails = .ok (some (.str text)) ∧
      result.email = lower.toLowerCase text := by
  unfold githubProfile at exchanged
  obtain ⟨email, found, rest⟩ := bind_ok exchanged
  obtain ⟨address, required, rest⟩ := bind_ok rest
  obtain ⟨name, -, rest⟩ := bind_ok rest
  obtain ⟨login, -, rfl⟩ := map_ok rest
  obtain ⟨text, rfl, rfl⟩ := requiredEmail_ok required
  exact ⟨text, found, rfl⟩

theorem givenEmail_some {claims : List (String × Json)} {text : String}
    (given : givenEmail claims = some text) : claims.lookup "email" = some (.str text) := by
  unfold givenEmail at given
  split at given
  · next found =>
    split at given
    · cases given
    · rw [found, Option.some.inj given]
  · cases given

theorem field_of_present {value : Json} {key text : String} {found : Option Json}
    (read : property value key = .ok found) (same : present found = some (.str text)) :
    value.field? key = some (.str text) := by
  unfold property at read
  split at read
  · cases read
  · cases read
    unfold present at same
    split at same
    · cases same
    · exact same

theorem googlePart_email {claims : List (String × Json)} {userInfo : Except String Json}
    {text : String} (found : googleEmail claims userInfo = .ok (some (.str text))) :
    ∃ part, googlePart claims userInfo = some part ∧
      part.field? "email" = some (.str text) := by
  unfold googleEmail at found
  unfold googlePart
  cases given : givenEmail claims with
  | some email =>
    rw [given] at found
    cases found
    exact ⟨.obj claims, rfl, givenEmail_some given⟩
  | none =>
    rw [given] at found
    cases userInfo with
    | error message => cases found
    | ok info =>
      obtain ⟨email, read, same⟩ := map_ok found
      exact ⟨info, rfl, field_of_present read same⟩

/-- A part that tells the address marks it exactly if the flag is set. -/
theorem marks_of_email {flag text : String} {part : Json}
    (email : part.field? "email" = some (.str text)) :
    marks lower flag (lower.toLowerCase text) part = isSet flag part := by
  unfold marks isSet
  rw [email]
  cases part.field? flag with
  | none => rfl
  | some value =>
    cases value with
    | bool b =>
      cases b with
      | true => exact beq_self_eq_true _
      | false => rfl
    | _ => rfl

/-- The address of a profile is asserted exactly if it is vouched for. -/
theorem asserts_iff {nonce : String} {response : ProviderResponse} {profile : OAuthProfile}
    (exchanged : exchangeCodeForProfile lower nonce response = .ok profile) :
    response.asserts lower profile.email = response.vouched lower := by
  cases response with
  | google claims userInfo =>
    obtain ⟨text, found, address⟩ := googleProfile_ok exchanged
    obtain ⟨part, source, email⟩ := googlePart_email found
    show (googlePart claims userInfo).any _ = (googlePart claims userInfo).any _
    rw [source, address]
    exact marks_of_email email
  | github profile emails =>
    obtain ⟨text, found, address⟩ := githubProfile_ok exchanged
    unfold ProviderResponse.vouched
    simp only [found, address]
    rfl

end profiles

end Vespid.Api.OAuth
