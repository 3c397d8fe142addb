import Mathlib.Data.List.Nodup
import Vespid.Api.OAuthProfile
import Vespid.Lib.Exclusive
import Vespid.Lib.Protocol

/-!
# OAuth logins

A start request stores a state and sets two signed cookies; a callback takes the state out of the
table and compares it with the cookies before it exchanges the code. What a handler does between
two awaits is one step.
-/

namespace Vespid.Api.OAuth

open Interleaving

structure OAuthStateRecord where
  provider : OAuthProvider
  codeVerifier : String
  nonce : String
  expiresAtSec : Nat
  deriving DecidableEq

structure RefreshTokenPayload where
  sessionId : String
  userId : String
  tokenNonce : String
  expiresAt : Nat
  deriving DecidableEq

/-- A payload signed with `oauthStateSecret`, or any other text. -/
inductive Cookie where
  | signed (payload : RefreshTokenPayload)
  | other

/-- What a start request draws at random. -/
structure Draws where
  state : String
  nonce : String
  codeVerifier : String
  deriving DecidableEq

/-- A callback request: its path, its query and its cookies, of which an empty one is none. -/
structure Callback where
  provider : String
  code : Option String
  state : Option String
  stateCookie : Option Cookie
  nonceCookie : Option Cookie

/-- A code exchange, what the browser showed for it and the second it was admitted in. -/
structure Exchange where
  provider : OAuthProvider
  code : String
  codeVerifier : String
  nonce : String
  state : String
  stateCookie : RefreshTokenPayload
  nonceCookie : RefreshTokenPayload
  admittedAt : Nat
  deriving DecidableEq

abbrev OAuthStates := List (String × OAuthStateRecord)

def OAuthStates.delete (states : OAuthStates) (state : String) : OAuthStates :=
  states.filter fun entry => entry.1 ≠ state

/-- The code and the state, neither of which may be missing or empty. -/
def oauthQuerySchema (c : Callback) : Option (String × String) :=
  match c.code, c.state with
  | some code, some state => if code = "" ∨ state = "" then none else some (code, state)
  | _, _ => none

def verifyRefreshToken (now : Nat) : Cookie → Option RefreshTokenPayload
  | .signed payload =>
    if payload.sessionId = "" ∨ payload.userId = "" ∨ payload.tokenNonce = "" then none
    else if payload.expiresAt ≤ now / 1000 then none
    else some payload
  | .other => none

/-- The callback up to the exchange: the states that are left, and what is handed on. -/
def accept (now : Nat) (states : OAuthStates) (c : Callback) :
    OAuthStates × Except AppError Exchange :=
  match extractProvider c.provider with
  | .error error => (states, .error error)
  | .ok provider =>
    match oauthQuerySchema c with
    | none => (states, .error (badRequest "Invalid OAuth callback query"))
    | some (code, state) =>
      match c.stateCookie, c.nonceCookie with
      | some signedState, some signedNonce =>
        match verifyRefreshToken now signedState, verifyRefreshToken now signedNonce with
        | some stateCookie, some nonceCookie =>
          if stateCookie.sessionId ≠ state then
            (states, .error (unauthorized "Invalid OAuth state"))
          else
            match states.lookup state with
            | none => (states.delete state, .error (unauthorized "Invalid or expired OAuth state"))
            | some stored =>
              if stored.provider ≠ provider ∨ stored.expiresAtSec ≤ now / 1000 then
                (states.delete state, .error (unauthorized "Invalid or expired OAuth state"))
              else if nonceCookie.sessionId ≠ stored.nonce then
                (states.delete state, .error (unauthorized "Invalid OAuth nonce"))
              else
                (states.delete state, .ok {
                  provider, code, codeVerifier := stored.codeVerifier, nonce := stored.nonce
                  state, stateCookie, nonceCookie, admittedAt := now / 1000 })
        | _, _ => (states, .error (unauthorized "Invalid OAuth state/nonce cookies"))
      | _, _ => (states, .error (unauthorized "Missing OAuth state/nonce cookies"))

/-! ### Operations -/

structure User where
  id : Nat
  email : String
  deriving DecidableEq

inductive LoginOp where
  /-- The first stretch of a callback. -/
  | accept (c : Callback)
  | exchangeCodeForProfile (e : Exchange)
  | getUserByEmail (email : String)
  | createUser (email : String) (displayName : Json)
  /-- Opens a session for a user that was there or was just made, after that response. -/
  | createSession (user : User) (existing : Bool) (response : ProviderResponse)

abbrev LoginOp.Reply : LoginOp → Type
  | accept _ => Except AppError Exchange
  | exchangeCodeForProfile _ => Except String ProviderResponse
  | getUserByEmail _ => Option User
  | createUser _ _ => Except String User
  | createSession _ _ _ => Unit

abbrev LoginOps : Interface where
  Op := LoginOp
  Reply := LoginOp.Reply

abbrev LoginProgram := Program LoginOps

abbrev ask (op : LoginOp) : LoginProgram op.Reply := Program.issue (I := LoginOps) op

/-- Opens a session for the user with the address of the profile. -/
def openSession (profile : OAuthProfile) (response : ProviderResponse) :
    LoginProgram (Except AppError User) := do
  match ← ask (.getUserByEmail profile.email) with
  | some user =>
    ask (.createSession user true response)
    return .ok user
  | none =>
    match ← ask (.createUser profile.email profile.displayName) with
    | .error message => return .error (toOAuthAppError message)
    | .ok user =>
      ask (.createSession user false response)
      return .ok user

def callback (lower : EmailCase) (c : Callback) : LoginProgram (Except AppError User) := do
  match ← ask (.accept c) with
  | .error error => return .error error
  | .ok exchange =>
    match ← ask (.exchangeCodeForProfile exchange) with
    | .error message => return .error (toOAuthAppError message)
    | .ok response =>
      match exchangeCodeForProfile lower exchange.nonce response with
      | .error message => return .error (toOAuthAppError message)
      | .ok profile => openSession profile response

/-! ### One API process -/

/-- What a random text was drawn for. -/
inductive Purpose where
  | state (draws : Draws)
  | nonce (draws : Draws)
  | other
  deriving DecidableEq

/-- The table, the users and the clock in milliseconds; and what was drawn, which states start
requests created, which cookies they issued, what was ever signed, which exchanges were made and
which sessions opened. -/
structure LoginStore where
  oauthStates : OAuthStates
  users : List User
  now : Nat
  drawn : List (String × Purpose)
  created : List (Draws × OAuthStateRecord)
  issued : List (Draws × RefreshTokenPayload × RefreshTokenPayload)
  signed : List RefreshTokenPayload
  exchanges : List Exchange
  opened : List (User × Bool × ProviderResponse)

namespace LoginStore
variable (st : LoginStore)

def Fresh (text : String) : Prop := text ∉ st.drawn.map (·.1)

instance (text : String) : Decidable (st.Fresh text) := inferInstanceAs (Decidable (¬ _))

def addUser (email : String) : LoginStore :=
  { st with users := { id := st.users.length, email } :: st.users }

def emailTaken (email : String) : Bool := st.users.any fun user => user.email = email

/-- The two texts a request draws. -/
def draw (draws : Draws) : LoginStore :=
  { st with drawn := (draws.state, .state draws) :: (draws.nonce, .nonce draws) :: st.drawn }

/-- `oauthStates.set` -/
def setState (draws : Draws) (record : OAuthStateRecord) : LoginStore :=
  { st with
    oauthStates := (draws.state, record) :: st.oauthStates.delete draws.state
    created := (draws, record) :: st.created }

def setOAuthCookies (draws : Draws) (expiresAt : Nat) : LoginStore :=
  let stateCookie : RefreshTokenPayload :=
    { sessionId := draws.state, userId := "oauth", tokenNonce := "state", expiresAt }
  let nonceCookie : RefreshTokenPayload :=
    { sessionId := draws.nonce, userId := "oauth", tokenNonce := "nonce", expiresAt }
  { st with
    issued := (draws, stateCookie, nonceCookie) :: st.issued
    signed := stateCookie :: nonceCookie :: st.signed }

/-- The start request; `url` is what `createAuthorizationUrl` does. -/
def start (ttl : Nat) (provider : String) (draws : Draws) (url : Except String Unit) :
    LoginStore × Except AppError Unit :=
  match extractProvider provider with
  | .error error => (st, .error error)
  | .ok provider =>
    let stored := (st.draw draws).setState draws
      { provider, codeVerifier := draws.codeVerifier, nonce := draws.nonce
        expiresAtSec := st.now / 1000 + ttl }
    match url with
    | .error message => (stored, .error (toOAuthAppError message))
    | .ok _ => (stored.setOAuthCookies draws (st.now / 1000 + ttl), .ok ())

/-- The cookies of the other login, signed with the same secret. -/
def startVertex (state nonce : String) (expiresAt : Nat) : LoginStore :=
  { st with
    drawn := (state, .other) :: (nonce, .other) :: st.drawn
    signed :=
      { sessionId := state, userId := "vertex", tokenNonce := "state", expiresAt } ::
      { sessionId := nonce, userId := "vertex", tokenNonce := "nonce", expiresAt } :: st.signed }

/-- A cookie that can be shown: no payload is signed but by the API. -/
def Unforged (cookie : Option Cookie) : Prop :=
  ∀ payload, cookie = some (.signed payload) → payload ∈ st.signed

instance (cookie : Option Cookie) : Decidable (st.Unforged cookie) :=
  match cookie with
  | some (.signed payload) => decidable_of_iff (payload ∈ st.signed) (by simp [Unforged])
  | some .other => isTrue fun _ same => by cases same
  | none => isTrue fun _ same => by cases same

end LoginStore

/-- A start request, one of the other login, a new user, or the passing of time. -/
inductive Tick where
  | start (provider : String) (draws : Draws) (url : Except String Unit)
  | startVertex (state nonce : String) (expiresAt : Nat)
  | signup (email : String)
  | wait (milliseconds : Nat)

section system
variable (lower : EmailCase) (ttl : Nat)

/-- The choice is what the provider answers. -/
def performLogin (st : LoginStore) (answer : Except String ProviderResponse) :
    (op : LoginOp) → Option (op.Reply × LoginStore)
  | .accept c =>
    let result := accept st.now st.oauthStates c
    some (result.2, { st with
      oauthStates := result.1
      exchanges := match result.2 with
        | .ok exchange => exchange :: st.exchanges
        | .error _ => st.exchanges })
  | .exchangeCodeForProfile e =>
    match answer with
    | .error message => some (.error message, st)
    | .ok response => if response.provider = e.provider then some (.ok response, st) else none
  | .getUserByEmail email =>
    some (st.users.find? fun user => user.email = lower.toLowerCase email, st)
  | .createUser email _ =>
    if st.emailTaken (lower.toLowerCase email) then some (.error "EMAIL_EXISTS", st)
    else some (.ok { id := st.users.length, email := lower.toLowerCase email },
      st.addUser (lower.toLowerCase email))
  | .createSession user existing response =>
    some ((), { st with opened := (user, existing, response) :: st.opened })

/-- Any number of callbacks, among start requests and sign-ups. -/
abbrev loginSystem : System LoginOps where
  Store := LoginStore
  Launch := Callback
  Loop := Empty
  Outcome := Except AppError User
  Choice := Except String ProviderResponse
  Tick := Tick
  perform op st answer := performLogin lower st answer op
  launch c st := if st.Unforged c.stateCookie ∧ st.Unforged c.nonceCookie then some st else none
  entry c := .inr <$> callback lower c
  body _ loop := nomatch loop
  finish _ _ st := st
  tick t st := match t with
    | .start provider draws url =>
      if st.Fresh draws.state ∧ st.Fresh draws.nonce ∧ draws.state ≠ draws.nonce then
        some (st.start ttl provider draws url).1
      else none
    | .startVertex state nonce expiresAt =>
      if st.Fresh state ∧ st.Fresh nonce ∧ state ≠ nonce then
        some (st.startVertex state nonce expiresAt)
      else none
    | .signup email =>
      some (if st.emailTaken (lower.toLowerCase email) then st
        else st.addUser (lower.toLowerCase email))
    | .wait milliseconds => some { st with now := st.now + milliseconds }

/-- A process that was just started, over the users there are. -/
def idle (users : List User) (now : Nat) : (loginSystem lower ttl).State where
  store :=
    { oauthStates := [], users, now, drawn := [], created := [], issued := [], signed := []
      exchanges := [], opened := [] }
  process _ := none

end system

/-! ### The claim and its condition -/

/-- The start request that created the state issued both cookies, for the provider and in time. -/
def LoginStore.Bound (st : LoginStore) (e : Exchange) : Prop :=
  ∃ draws record, draws.state = e.state ∧ (draws, record) ∈ st.created ∧
    (draws, e.stateCookie, e.nonceCookie) ∈ st.issued ∧
    record.provider = e.provider ∧ e.admittedAt < record.expiresAtSec

/-- A state is exchanged for once, and only where the cookies of the start request that created it
are shown, for its provider and in time; a session of an existing user follows a response that
asserts the address. -/
structure OAuthSafe (lower : EmailCase) {ttl : Nat} (s : (loginSystem lower ttl).State) : Prop where
  once : (s.store.exchanges.map (·.state)).Nodup
  apart : (s.store.created.map (·.1.state)).Nodup
  bound : ∀ e ∈ s.store.exchanges, s.store.Bound e
  verified : ∀ user existing response, (user, existing, response) ∈ s.store.opened →
    existing = true → response.asserts lower user.email = true

/-- What a callback has been told. -/
structure LoginView where
  callback : Callback
  response : Option ProviderResponse
  found : Option User

section handlers
variable {lower : EmailCase}

def loginProtocol (lower : EmailCase) : Protocol LoginOps LoginView where
  permits v op := match op with
    | .accept c => c = v.callback
    | .getUserByEmail email => ∃ nonce response profile, v.response = some response ∧
        exchangeCodeForProfile lower nonce response = .ok profile ∧ profile.email = email
    | .createSession user existing response =>
      existing = true → v.found = some user ∧ v.response = some response
    | _ => True
  expects _ _ := True
  observe v op reply := match op, reply with
    | .exchangeCodeForProfile _, reply => { v with response := reply.toOption, found := none }
    | .getUserByEmail _, found => { v with found := found }
    | _, _ => v

theorem openSession_follows {v : LoginView} {nonce : String} {profile : OAuthProfile}
    {response : ProviderResponse} (told : v.response = some response)
    (exchanged : exchangeCodeForProfile lower nonce response = .ok profile) :
    (openSession profile response).wp (loginProtocol lower) (fun _ _ => True) v := by
  refine ⟨⟨nonce, response, profile, told, exchanged, rfl⟩, fun found _ => ?_⟩
  cases found with
  | some user => exact ⟨fun _ => ⟨rfl, told⟩, fun _ _ => trivial⟩
  | none =>
    refine ⟨trivial, fun made _ => ?_⟩
    cases made with
    | error message => trivial
    | ok user => exact ⟨fun existing => (by cases existing), fun _ _ => trivial⟩

theorem callback_follows (c : Callback) :
    (callback lower c).wp (loginProtocol lower) (fun _ _ => True)
      { callback := c, response := none, found := none } := by
  refine ⟨rfl, fun admitted _ => ?_⟩
  cases admitted with
  | error error => trivial
  | ok exchange =>
    refine ⟨trivial, fun answer _ => ?_⟩
    cases answer with
    | error message => trivial
    | ok response =>
      show Program.wp (loginProtocol lower) _
        (match exchangeCodeForProfile lower exchange.nonce response with
        | .error message => _
        | .ok profile => _) _
      split
      · trivial
      · next profile exchanged => exact openSession_follows rfl exchanged

end handlers

def loginCertified (lower : EmailCase) (ttl : Nat) :
    Certified (loginSystem lower ttl) (loginProtocol lower) where
  start c := { callback := c, response := none, found := none }
  looping _ loop _ := nomatch loop
  ended _ _ _ := True
  entry_follows c := Program.wp_seq (callback_follows c) fun _ _ _ => trivial
  body_follows _ loop := nomatch loop
  replies _ _ _ _ _ _ := trivial

/-- Where the address is found to be an existing user's, the response vouches for it. -/
def Vouched {lower : EmailCase} {ttl : Nat} (s : (loginSystem lower ttl).State)
    (a : (loginSystem lower ttl).Action) : Prop :=
  match (loginCertified lower ttl).issued s a with
  | some (v, .getUserByEmail email) => s.store.emailTaken (lower.toLowerCase email) = true →
      v.response.all (·.vouched lower) = true
  | _ => True

instance {lower : EmailCase} {ttl : Nat} (s : (loginSystem lower ttl).State)
    (a : (loginSystem lower ttl).Action) : Decidable (Vouched s a) := by
  unfold Vouched
  split <;> infer_instance

/-! ### Admission -/

/-- What a callback that goes on to the exchange has shown. -/
structure Admitted (states : OAuthStates) (c : Callback) (e : Exchange) : Prop where
  stateCookie : c.stateCookie = some (.signed e.stateCookie)
  nonceCookie : c.nonceCookie = some (.signed e.nonceCookie)
  state : e.stateCookie.sessionId = e.state
  stored : ∃ record, states.lookup e.state = some record ∧ record.provider = e.provider ∧
    e.admittedAt < record.expiresAtSec ∧ e.nonceCookie.sessionId = record.nonce

section admission
variable {now : Nat} {states : OAuthStates} {c : Callback}

theorem verifyRefreshToken_some {cookie : Cookie} {payload : RefreshTokenPayload}
    (verified : verifyRefreshToken now cookie = some payload) : cookie = .signed payload := by
  cases cookie with
  | other => cases verified
  | signed shown =>
    simp only [verifyRefreshToken] at verified
    split at verified
    · cases verified
    · split at verified
      · cases verified
      · rw [Option.some.inj verified]

theorem delete_subset (state : String) : states.delete state ⊆ states := List.filter_subset_self _

theorem mem_of_lookup {state : String} {record : OAuthStateRecord}
    (found : states.lookup state = some record) : (state, record) ∈ states := by
  obtain ⟨before, after, rfl, -⟩ := List.lookup_eq_some_iff.mp found
  exact List.mem_append_right _ List.mem_cons_self

theorem not_mem_delete (state : String) : state ∉ (states.delete state).map (·.1) := by
  simp [OAuthStates.delete]

theorem accept_subset : (accept now states c).1 ⊆ states := by
  unfold accept
  split
  · exact List.Subset.refl _
  · split
    · exact List.Subset.refl _
    · split
      · split
        · split
          · exact List.Subset.refl _
          · split
            · exact delete_subset _
            · split
              · exact delete_subset _
              · split
                · exact delete_subset _
                · exact delete_subset _
        · exact List.Subset.refl _
      · exact List.Subset.refl _

theorem accept_ok {left : OAuthStates} {e : Exchange}
    (admitted : accept now states c = (left, .ok e)) :
    left = states.delete e.state ∧ Admitted states c e := by
  unfold accept at admitted
  split at admitted
  · cases admitted
  · split at admitted
    · cases admitted
    · split at admitted
      · next signedState signedNonce stateShown nonceShown =>
        split at admitted
        · next stateCookie nonceCookie stateVerified nonceVerified =>
          split at admitted
          · cases admitted
          · next same =>
            split at admitted
            · cases admitted
            · next stored found =>
              split at admitted
              · cases admitted
              · next current =>
                split at admitted
                · cases admitted
                · next nonce =>
                  cases admitted
                  push Not at current same nonce
                  refine ⟨rfl, ?_, ?_, same, stored, found, current.1, current.2, nonce⟩
                  · rw [stateShown, verifyRefreshToken_some stateVerified]
                  · rw [nonceShown, verifyRefreshToken_some nonceVerified]
        · cases admitted
      · cases admitted

end admission

/-! ### The table and the cookies -/

/-- What a payload was signed for is what its text was drawn for. -/
def Serves (issued : List (Draws × RefreshTokenPayload × RefreshTokenPayload))
    (payload : RefreshTokenPayload) : Purpose → Prop
  | .state draws => ∃ nonceCookie, (draws, payload, nonceCookie) ∈ issued
  | .nonce draws => ∃ stateCookie, (draws, stateCookie, payload) ∈ issued
  | .other => True

structure LoginInv (lower : EmailCase) (st : LoginStore) : Prop where
  drawn : (st.drawn.map (·.1)).Nodup
  created : ∀ entry ∈ st.created, (entry.1.state, .state entry.1) ∈ st.drawn ∧
    (entry.1.nonce, .nonce entry.1) ∈ st.drawn ∧ entry.2.nonce = entry.1.nonce
  apart : (st.created.map (·.1.state)).Nodup
  table : ∀ entry ∈ st.oauthStates,
    ∃ draws, draws.state = entry.1 ∧ (draws, entry.2) ∈ st.created
  issued : ∀ entry ∈ st.issued, (entry.1.state, .state entry.1) ∈ st.drawn
  pairs : (st.issued.map (·.1.state)).Nodup
  signed : ∀ payload ∈ st.signed, ∃ purpose, (payload.sessionId, purpose) ∈ st.drawn ∧
    Serves st.issued payload purpose
  once : (st.exchanges.map (·.state)).Nodup
  spent : ∀ e ∈ st.exchanges, e.state ∉ st.oauthStates.map (·.1)
  bound : ∀ e ∈ st.exchanges, st.Bound e
  verified : ∀ user existing response, (user, existing, response) ∈ st.opened →
    existing = true → response.asserts lower user.email = true

section tables
variable {lower : EmailCase} {st : LoginStore}

theorem serves_mono {issued issued' : List (Draws × RefreshTokenPayload × RefreshTokenPayload)}
    (more : issued ⊆ issued') {payload : RefreshTokenPayload} {purpose : Purpose}
    (serves : Serves issued payload purpose) : Serves issued' payload purpose := by
  cases purpose with
  | state draws =>
    obtain ⟨nonceCookie, mem⟩ := serves
    exact ⟨nonceCookie, more mem⟩
  | nonce draws =>
    obtain ⟨stateCookie, mem⟩ := serves
    exact ⟨stateCookie, more mem⟩
  | other => trivial

theorem bound_mono (st st' : LoginStore) (created : st.created ⊆ st'.created)
    (issued : st.issued ⊆ st'.issued) {e : Exchange} (bound : st.Bound e) : st'.Bound e := by
  obtain ⟨draws, record, same, made, cookies, rest⟩ := bound
  exact ⟨draws, record, same, created made, issued cookies, rest⟩

/-- A text is drawn once, so it is drawn for one purpose. -/
theorem purpose_unique (inv : LoginInv lower st) {text : String} {p q : Purpose}
    (one : (text, p) ∈ st.drawn) (two : (text, q) ∈ st.drawn) : p = q :=
  congrArg Prod.snd (List.inj_on_of_nodup_map inv.drawn one two rfl)

theorem serves_of_drawn (inv : LoginInv lower st) {payload : RefreshTokenPayload}
    {purpose : Purpose} (signed : payload ∈ st.signed)
    (drawn : (payload.sessionId, purpose) ∈ st.drawn) : Serves st.issued payload purpose := by
  obtain ⟨purpose', there, serves⟩ := inv.signed payload signed
  rwa [purpose_unique inv drawn there]

/-- Two cookies that fit a state in the table were issued by the start request that created it. -/
theorem bound_of_admitted (inv : LoginInv lower st) {c : Callback} {e : Exchange}
    (admitted : Admitted st.oauthStates c e) (stateCookie : st.Unforged c.stateCookie)
    (nonceCookie : st.Unforged c.nonceCookie) : st.Bound e := by
  obtain ⟨record, found, provider, current, nonce⟩ := admitted.stored
  obtain ⟨draws, same, made⟩ := inv.table _ (mem_of_lookup found)
  obtain ⟨stateDrawn, nonceDrawn, recorded⟩ := inv.created _ made
  have first : Serves st.issued e.stateCookie (.state draws) := by
    apply serves_of_drawn inv (stateCookie _ admitted.stateCookie)
    rw [admitted.state, show e.state = draws.state from same.symm]
    exact stateDrawn
  have second : Serves st.issued e.nonceCookie (.nonce draws) := by
    apply serves_of_drawn inv (nonceCookie _ admitted.nonceCookie)
    rw [nonce, show record.nonce = draws.nonce from recorded]
    exact nonceDrawn
  obtain ⟨shownNonce, one⟩ := first
  obtain ⟨shownState, two⟩ := second
  have both := List.inj_on_of_nodup_map inv.pairs one two rfl
  refine ⟨draws, record, same, made, ?_, provider, current⟩
  have cookies : shownNonce = e.nonceCookie := congrArg (·.2.2) both
  rwa [← cookies]

theorem state_drawn (inv : LoginInv lower st) {e : Exchange} (exchanged : e ∈ st.exchanges) :
    e.state ∈ st.drawn.map (·.1) := by
  obtain ⟨draws, record, same, made, -⟩ := inv.bound e exchanged
  rw [← same]
  exact List.mem_map_of_mem (inv.created _ made).1

/-- Users come and time passes. -/
theorem loginInv_aside (inv : LoginInv lower st) (users : List User) (now : Nat) :
    LoginInv lower { st with users, now } := { inv with }

theorem loginInv_forget (inv : LoginInv lower st) {left : OAuthStates}
    (fewer : left ⊆ st.oauthStates) : LoginInv lower { st with oauthStates := left } :=
  { inv with
    table := fun entry mem => inv.table entry (fewer mem)
    spent := fun e mem there => inv.spent e mem (List.map_subset _ fewer there) }

theorem loginInv_exchange (inv : LoginInv lower st) {e : Exchange} {c : Callback}
    (admitted : Admitted st.oauthStates c e) (stateCookie : st.Unforged c.stateCookie)
    (nonceCookie : st.Unforged c.nonceCookie) :
    LoginInv lower { st with
      oauthStates := st.oauthStates.delete e.state, exchanges := e :: st.exchanges } := by
  have fewer : st.oauthStates.delete e.state ⊆ st.oauthStates := delete_subset _
  have less := loginInv_forget inv fewer
  have shown := bound_of_admitted inv admitted stateCookie nonceCookie
  obtain ⟨record, found, -⟩ := admitted.stored
  have here : e.state ∈ st.oauthStates.map (·.1) :=
    List.mem_map_of_mem (mem_of_lookup found)
  refine { less with once := ?_, spent := ?_, bound := ?_ }
  · show (e.state :: st.exchanges.map (·.state)).Nodup
    refine List.nodup_cons.mpr ⟨fun before => ?_, inv.once⟩
    obtain ⟨e', mem, same⟩ := List.mem_map.mp before
    exact inv.spent e' mem (same ▸ here)
  · intro e' mem
    obtain rfl | mem := List.mem_cons.mp mem
    · exact not_mem_delete _
    · exact less.spent e' mem
  · intro e' mem
    obtain rfl | mem := List.mem_cons.mp mem
    · exact shown
    · exact inv.bound e' mem

theorem loginInv_open (inv : LoginInv lower st) {user : User} {existing : Bool}
    {response : ProviderResponse}
    (asserted : existing = true → response.asserts lower user.email = true) :
    LoginInv lower { st with opened := (user, existing, response) :: st.opened } := by
  refine { inv with verified := ?_ }
  intro user' existing' response' mem was
  obtain same | mem := List.mem_cons.mp mem
  · cases same
    exact asserted was
  · exact inv.verified _ _ _ mem was

/-- Texts are drawn that were not drawn before. -/
theorem loginInv_draw (inv : LoginInv lower st) {state nonce : String} (p q : Purpose)
    (freshState : st.Fresh state) (freshNonce : st.Fresh nonce) (apart : state ≠ nonce) :
    LoginInv lower { st with drawn := (state, p) :: (nonce, q) :: st.drawn } := by
  have more : st.drawn ⊆ (state, p) :: (nonce, q) :: st.drawn :=
    fun entry mem => List.mem_cons_of_mem _ (List.mem_cons_of_mem _ mem)
  refine { inv with drawn := ?_, created := ?_, issued := ?_, signed := ?_ }
  · show (state :: nonce :: st.drawn.map (·.1)).Nodup
    refine List.nodup_cons.mpr ⟨?_, List.nodup_cons.mpr ⟨freshNonce, inv.drawn⟩⟩
    intro mem
    obtain same | mem := List.mem_cons.mp mem
    · exact apart same
    · exact freshState mem
  · intro entry mem
    obtain ⟨state, nonce, same⟩ := inv.created entry mem
    exact ⟨more state, more nonce, same⟩
  · exact fun entry mem => more (inv.issued entry mem)
  · intro payload mem
    obtain ⟨purpose, drawn, serves⟩ := inv.signed payload mem
    exact ⟨purpose, more drawn, serves⟩

theorem loginInv_setState (inv : LoginInv lower st) {draws : Draws} (record : OAuthStateRecord)
    (stateDrawn : (draws.state, .state draws) ∈ st.drawn)
    (nonceDrawn : (draws.nonce, .nonce draws) ∈ st.drawn) (nonce : record.nonce = draws.nonce)
    (new : ∀ entry ∈ st.created, entry.1.state ≠ draws.state)
    (unspent : ∀ e ∈ st.exchanges, e.state ≠ draws.state) :
    LoginInv lower (st.setState draws record) := by
  have more : st.created ⊆ (draws, record) :: st.created := List.subset_cons_self _ _
  refine { inv with created := ?_, apart := ?_, table := ?_, spent := ?_, bound := ?_ }
  · intro entry mem
    obtain rfl | mem := List.mem_cons.mp mem
    · exact ⟨stateDrawn, nonceDrawn, nonce⟩
    · exact inv.created entry mem
  · show (draws.state :: st.created.map (·.1.state)).Nodup
    refine List.nodup_cons.mpr ⟨fun before => ?_, inv.apart⟩
    obtain ⟨entry, mem, same⟩ := List.mem_map.mp before
    exact new entry mem same
  · intro entry mem
    obtain rfl | mem := List.mem_cons.mp mem
    · exact ⟨draws, rfl, List.mem_cons_self⟩
    · obtain ⟨draws', same, made⟩ := inv.table entry (delete_subset _ mem)
      exact ⟨draws', same, more made⟩
  · intro e mem there
    obtain same | there := List.mem_cons.mp there
    · exact unspent e mem same
    · exact inv.spent e mem (List.map_subset _ (delete_subset _) there)
  · exact fun e mem =>
      bound_mono st (st.setState draws record) more (fun _ issued => issued) (inv.bound e mem)

theorem loginInv_setOAuthCookies (inv : LoginInv lower st) {draws : Draws} (expiresAt : Nat)
    (stateDrawn : (draws.state, .state draws) ∈ st.drawn)
    (nonceDrawn : (draws.nonce, .nonce draws) ∈ st.drawn)
    (new : ∀ entry ∈ st.issued, entry.1.state ≠ draws.state) :
    LoginInv lower (st.setOAuthCookies draws expiresAt) := by
  have more : st.issued ⊆ (st.setOAuthCookies draws expiresAt).issued := List.subset_cons_self _ _
  refine { inv with issued := ?_, pairs := ?_, signed := ?_, bound := ?_ }
  · intro entry mem
    obtain rfl | mem := List.mem_cons.mp mem
    · exact stateDrawn
    · exact inv.issued entry mem
  · show (draws.state :: st.issued.map (·.1.state)).Nodup
    refine List.nodup_cons.mpr ⟨fun before => ?_, inv.pairs⟩
    obtain ⟨entry, mem, same⟩ := List.mem_map.mp before
    exact new entry mem same
  · intro payload mem
    obtain rfl | mem := List.mem_cons.mp mem
    · exact ⟨.state draws, stateDrawn, _, List.mem_cons_self⟩
    obtain rfl | mem := List.mem_cons.mp mem
    · exact ⟨.nonce draws, nonceDrawn, _, List.mem_cons_self⟩
    obtain ⟨purpose, drawn, serves⟩ := inv.signed payload mem
    exact ⟨purpose, drawn, serves_mono more serves⟩
  · exact fun e mem =>
      bound_mono st (st.setOAuthCookies draws expiresAt) (fun _ made => made) more (inv.bound e mem)

theorem loginInv_start (inv : LoginInv lower st) (ttl : Nat) (provider : String) {draws : Draws}
    (url : Except String Unit) (freshState : st.Fresh draws.state)
    (freshNonce : st.Fresh draws.nonce) (apart : draws.state ≠ draws.nonce) :
    LoginInv lower (st.start ttl provider draws url).1 := by
  unfold LoginStore.start
  split
  · exact inv
  · next provider _ =>
    have drew : LoginInv lower (st.draw draws) :=
      loginInv_draw inv (.state draws) (.nonce draws) freshState freshNonce apart
    have stateDrawn : (draws.state, .state draws) ∈ (st.draw draws).drawn := List.mem_cons_self
    have nonceDrawn : (draws.nonce, .nonce draws) ∈ (st.draw draws).drawn :=
      List.mem_cons_of_mem _ List.mem_cons_self
    have stored := loginInv_setState drew
      { provider, codeVerifier := draws.codeVerifier, nonce := draws.nonce
        expiresAtSec := st.now / 1000 + ttl } stateDrawn nonceDrawn rfl
      (fun entry mem same => freshState (same ▸ List.mem_map_of_mem (inv.created entry mem).1))
      (fun e mem same => freshState (same ▸ state_drawn inv mem))
    split
    · exact stored
    · exact loginInv_setOAuthCookies stored _ stateDrawn nonceDrawn
        fun entry mem same => freshState (same ▸ List.mem_map_of_mem (inv.issued entry mem))

theorem loginInv_startVertex (inv : LoginInv lower st) {state nonce : String} (expiresAt : Nat)
    (freshState : st.Fresh state) (freshNonce : st.Fresh nonce) (apart : state ≠ nonce) :
    LoginInv lower (st.startVertex state nonce expiresAt) := by
  have drew := loginInv_draw inv .other .other freshState freshNonce apart
  refine { drew with signed := ?_ }
  intro payload mem
  obtain rfl | mem := List.mem_cons.mp mem
  · exact ⟨.other, List.mem_cons_self, trivial⟩
  obtain rfl | mem := List.mem_cons.mp mem
  · exact ⟨.other, List.mem_cons_of_mem _ List.mem_cons_self, trivial⟩
  exact drew.signed payload mem

end tables

/-! ### Callbacks on their way -/

/-- The cookies shown were signed; a user that was found has the address the response asserts. -/
structure HandlerInv (lower : EmailCase) (st : LoginStore) (v : LoginView) : Prop where
  stateCookie : st.Unforged v.callback.stateCookie
  nonceCookie : st.Unforged v.callback.nonceCookie
  asserted : ∀ user response, v.found = some user → v.response = some response →
    response.asserts lower user.email = true

structure FlowInv (lower : EmailCase) (st : LoginStore)
    (crew : Nat → Option (Callback × LoginView)) : Prop where
  login : LoginInv lower st
  handlers : ∀ id q, crew id = some q → HandlerInv lower st q.2

section steps
variable {lower : EmailCase} {st st' : LoginStore} {crew : Nat → Option (Callback × LoginView)}
  {id : Nat} {c : Callback} {v : LoginView}

theorem handlerInv_mono (inv : HandlerInv lower st v) (more : st.signed ⊆ st'.signed) :
    HandlerInv lower st' v where
  stateCookie payload shown := more (inv.stateCookie payload shown)
  nonceCookie payload shown := more (inv.nonceCookie payload shown)
  asserted := inv.asserted

theorem flowInv_tick (inv : FlowInv lower st crew) (login : LoginInv lower st')
    (more : st.signed ⊆ st'.signed) : FlowInv lower st' crew where
  login := login
  handlers id q here := handlerInv_mono (inv.handlers id q here) more

theorem flowInv_update (inv : FlowInv lower st crew) (login : LoginInv lower st')
    (same : st'.signed = st.signed) (handler : HandlerInv lower st v) :
    FlowInv lower st' (Function.update crew id (some (c, v))) where
  login := login
  handlers i q there := by
    have more : st.signed ⊆ st'.signed := by rw [same]; exact List.Subset.refl _
    obtain ⟨-, new⟩ | ⟨-, there⟩ := update_cases there
    · rw [← Option.some.inj new]
      exact handlerInv_mono handler more
    · exact handlerInv_mono (inv.handlers i q there) more

/-- The address of a profile is in lower case. -/
theorem lower_email {nonce : String} {response : ProviderResponse} {profile : OAuthProfile}
    (exchanged : exchangeCodeForProfile lower nonce response = .ok profile) :
    lower.toLowerCase profile.email = profile.email := by
  cases response with
  | google claims userInfo =>
    obtain ⟨text, -, address⟩ := googleProfile_ok exchanged
    rw [address, lower.again]
  | github profile emails =>
    obtain ⟨text, -, address⟩ := githubProfile_ok exchanged
    rw [address, lower.again]

theorem flowInv_accept (inv : FlowInv lower st crew) (handler : HandlerInv lower st v)
    {answer : Except String ProviderResponse} {reply : Except AppError Exchange}
    (performed : performLogin lower st answer (.accept v.callback) = some (reply, st')) :
    LoginInv lower st' ∧ st'.signed = st.signed := by
  simp only [performLogin] at performed
  generalize result : accept st.now st.oauthStates v.callback = admitted at performed
  obtain ⟨left, admitted⟩ := admitted
  cases performed
  cases admitted with
  | error error =>
    refine ⟨loginInv_forget inv.login ?_, rfl⟩
    show left ⊆ st.oauthStates
    rw [show left = (accept st.now st.oauthStates v.callback).1 by rw [result]]
    exact accept_subset
  | ok e =>
    obtain ⟨rfl, shown⟩ := accept_ok result
    exact ⟨loginInv_exchange inv.login shown handler.stateCookie handler.nonceCookie, rfl⟩

theorem flowInv_call (inv : FlowInv lower st crew) (here : crew id = some (c, v)) {op : LoginOp}
    {answer : Except String ProviderResponse} {reply : op.Reply}
    (permitted : (loginProtocol lower).permits v op)
    (performed : performLogin lower st answer op = some (reply, st'))
    (vouched : ∀ email, op = .getUserByEmail email →
      st.emailTaken (lower.toLowerCase email) = true → v.response.all (·.vouched lower) = true) :
    FlowInv lower st' (Function.update crew id
      (some (c, (loginProtocol lower).observe v op reply))) := by
  have handler := inv.handlers id _ here
  cases op with
  | accept shown =>
    obtain rfl : shown = v.callback := permitted
    obtain ⟨login, same⟩ := flowInv_accept inv handler performed
    exact flowInv_update inv login same handler
  | exchangeCodeForProfile e =>
    have told : HandlerInv lower st { v with response := Except.toOption reply, found := none } :=
      ⟨handler.stateCookie, handler.nonceCookie, fun _ _ found => by cases found⟩
    cases answer with
    | error message =>
      cases performed
      exact flowInv_update inv inv.login rfl told
    | ok response =>
      simp only [performLogin] at performed
      split at performed
      · cases performed
        exact flowInv_update inv inv.login rfl told
      · cases performed
  | getUserByEmail email =>
    obtain ⟨nonce, response, profile, told, exchanged, rfl⟩ := permitted
    cases performed
    refine flowInv_update inv inv.login rfl
      ⟨handler.stateCookie, handler.nonceCookie, fun user response' found told' => ?_⟩
    obtain rfl : response = response' := Option.some.inj (told.symm.trans told')
    have matched : user.email = lower.toLowerCase profile.email := by
      simpa using List.find?_some found
    have taken : st.emailTaken (lower.toLowerCase profile.email) = true :=
      List.any_eq_true.mpr ⟨user, List.mem_of_find?_eq_some found, by simpa using matched⟩
    have asserted := vouched _ rfl taken
    rw [told] at asserted
    rw [matched, lower_email exchanged, asserts_iff exchanged]
    exact asserted
  | createUser email displayName =>
    simp only [performLogin] at performed
    split at performed
    · cases performed
      exact flowInv_update inv inv.login rfl handler
    · cases performed
      exact flowInv_update inv (loginInv_aside inv.login _ _) rfl handler
  | createSession user existing response =>
    cases performed
    refine flowInv_update inv (loginInv_open inv.login fun was => ?_) rfl handler
    obtain ⟨found, told⟩ := permitted was
    exact handler.asserted user response found told

end steps

section runs
variable {lower : EmailCase} {ttl : Nat}

theorem flowInv_idle (users : List User) (now : Nat) :
    FlowInv lower (idle lower ttl users now).store fun _ => none where
  login :=
    { drawn := List.nodup_nil
      created := fun _ mem => by cases mem
      apart := List.nodup_nil
      table := fun _ mem => by cases mem
      issued := fun _ mem => by cases mem
      pairs := List.nodup_nil
      signed := fun _ mem => by cases mem
      once := List.nodup_nil
      spent := fun _ mem => by cases mem
      bound := fun _ mem => by cases mem
      verified := fun _ _ _ mem => by cases mem }
  handlers _ _ here := by cases here

theorem flowInv_step {s t : (loginSystem lower ttl).State} {a : (loginSystem lower ttl).Action}
    (all : (loginCertified lower ttl).AllFollow s)
    (inv : FlowInv lower s.store ((loginCertified lower ttl).crew s)) (vouched : Vouched s a)
    (stepped : System.Stepped s a t) :
    FlowInv lower t.store ((loginCertified lower ttl).crew t) := by
  have happened := Certified.happened all stepped
  generalize (loginCertified lower ttl).crew t = crew at happened ⊢
  generalize t.store = store at happened ⊢
  cases happened with
  | launch free launched =>
    rename_i id c
    simp only [Option.ite_none_right_eq_some] at launched
    obtain ⟨⟨stateCookie, nonceCookie⟩, same⟩ := launched
    cases same
    exact flowInv_update inv inv.login rfl
      ⟨stateCookie, nonceCookie, fun _ _ found => by cases found⟩
  | call here issues permitted performed =>
    refine flowInv_call inv here permitted performed fun email is => ?_
    subst is
    unfold Vouched at vouched
    simp only [issues] at vouched
    exact vouched
  | loop => exact inv
  | finish here ended =>
    refine ⟨inv.login, fun i q there => ?_⟩
    obtain ⟨-, new⟩ | ⟨-, there⟩ := update_cases there
    · cases new
    · exact inv.handlers i q there
  | tick ticked =>
    rename_i tick
    cases tick with
    | start provider draws url =>
      simp only [Option.ite_none_right_eq_some] at ticked
      obtain ⟨⟨freshState, freshNonce, apart⟩, same⟩ := ticked
      cases same
      refine flowInv_tick inv (loginInv_start inv.login _ _ _ freshState freshNonce apart) ?_
      unfold LoginStore.start
      split
      · exact List.Subset.refl _
      · split
        · exact List.Subset.refl _
        · exact fun payload mem => List.mem_cons_of_mem _ (List.mem_cons_of_mem _ mem)
    | startVertex state nonce expiresAt =>
      simp only [Option.ite_none_right_eq_some] at ticked
      obtain ⟨⟨freshState, freshNonce, apart⟩, same⟩ := ticked
      cases same
      exact flowInv_tick inv (loginInv_startVertex inv.login _ freshState freshNonce apart)
        fun payload mem => List.mem_cons_of_mem _ (List.mem_cons_of_mem _ mem)
    | signup email =>
      simp only [Option.some.injEq] at ticked
      subst ticked
      split
      · exact inv
      · exact flowInv_tick inv (loginInv_aside inv.login _ _) (List.Subset.refl _)
    | wait milliseconds =>
      cases ticked
      exact flowInv_tick inv (loginInv_aside inv.login _ _) (List.Subset.refl _)

/-- Logins are safe in every run in which the response vouches for the address whenever a callback
finds a user by it. -/
theorem oauth_safe (users : List User) (now : Nat) {s : (loginSystem lower ttl).State}
    (run : System.Steps Vouched (idle lower ttl users now) s) : OAuthSafe lower s := by
  have inv := ((loginCertified lower ttl).invariant
    (fun s => FlowInv lower s.store ((loginCertified lower ttl).crew s)) (fun _ => rfl)
    (flowInv_idle users now)
    (fun _ _ _ all inv vouched stepped => flowInv_step all inv vouched stepped) run).2.login
  exact ⟨inv.once, inv.apart, inv.bound, inv.verified⟩

end runs

/-! ### An address nobody vouches for -/

/-- Letters are compared as they are. -/
def exactly : EmailCase := ⟨id, fun _ => rfl⟩

def victim : User where
  id := 0
  email := "ana@example.org"

def texts : Draws where
  state := "s"
  nonce := "n"
  codeVerifier := "v"

def cookie (text purpose : String) : Cookie :=
  .signed { sessionId := text, userId := "oauth", tokenNonce := purpose, expiresAt := 600 }

def returning : Callback where
  provider := "google"
  code := some "c"
  state := some "s"
  stateCookie := some (cookie "s" "state")
  nonceCookie := some (cookie "n" "nonce")

/-- Google's claims for the address. -/
def claims (verified : Bool) : ProviderResponse :=
  .google [("nonce", .str "n"), ("email", .str victim.email), ("email_verified", .bool verified)]
    (.error "none")

/-- A browser logs in from the start request to the session. -/
def loggingIn (verified : Bool) : List (loginSystem exactly 600).Action :=
  .tick (.start "google" texts (.ok ())) :: .launch 0 returning ::
    List.replicate 4 (.call 0 (.ok (claims verified))) ++ [.finish 0]

theorem oauth_safe_verified : ∃ s, System.Steps Vouched (idle exactly 600 [victim] 0) s ∧
    s.store.opened.map (·.1) = [victim] ∧ OAuthSafe exactly s := by
  have ended : (System.exec Vouched (idle exactly 600 [victim] 0) (loggingIn true)).map
      (fun s => s.store.opened.map (·.1)) = some [victim] := by decide +kernel
  obtain ⟨s, ran, opened⟩ := Option.map_eq_some_iff.mp ended
  have steps := System.steps_of_exec ran
  exact ⟨s, steps, opened, oauth_safe [victim] 0 steps⟩

/-- Google says that the address is not verified, and the session is opened. -/
theorem unverified_login : ¬ ∀ (lower : EmailCase) (ttl : Nat) (users : List User) (now : Nat)
    (s : (loginSystem lower ttl).State),
    System.Steps (fun _ _ => True) (idle lower ttl users now) s → OAuthSafe lower s := by
  intro safe
  have ended : (System.exec (fun _ _ => True) (idle exactly 600 [victim] 0) (loggingIn false)).map
      (fun s => s.store.opened.any fun o => o.2.1 && !o.2.2.asserts exactly o.1.email) =
        some true := by decide +kernel
  obtain ⟨s, ran, opened⟩ := Option.map_eq_some_iff.mp ended
  obtain ⟨⟨user, existing, response⟩, mem, shown⟩ := List.any_eq_true.mp opened
  simp only [Bool.and_eq_true, Bool.not_eq_true'] at shown
  have asserted := (safe exactly 600 [victim] 0 s (System.steps_of_exec ran)).verified
    user existing response mem shown.1
  rw [shown.2] at asserted
  cases asserted

end Vespid.Api.OAuth
