import Mathlib.Data.List.Nodup
import Vespid.Lib.Exclusive
import Vespid.Lib.Protocol

/-!
# Sessions and their refresh tokens

A session stores the hash of one refresh token. A refresh reads the session, compares the hash and
stores that of a new token in another transaction, whatever is stored by then.
-/

namespace Vespid.Api.Sessions

open Interleaving

def SESSION_TTL_SEC : Nat := 7 * 24 * 60 * 60

structure RefreshTokenPayload where
  sessionId : String
  userId : String
  tokenNonce : Nat
  expiresAt : Nat
  deriving DecidableEq

structure AccessTokenClaims where
  sessionId : String
  userId : String
  expiresAt : Nat

/-- How tokens are written and read, less the check of their time; tokens with different nonces
have different hashes. -/
structure TokenCodec where
  signRefreshToken : RefreshTokenPayload → String
  readRefreshToken : String → Option RefreshTokenPayload
  readAuthToken : String → Option AccessTokenClaims
  hashRefreshToken : String → String
  apart : ∀ p q, hashRefreshToken (signRefreshToken p) = hashRefreshToken (signRefreshToken q) →
    p.tokenNonce = q.tokenNonce

/-- A row of `auth_sessions`; times are in milliseconds. -/
structure SessionRecord where
  id : String
  userId : String
  refreshTokenHash : String
  expiresAt : Nat
  revokedAt : Option Nat
  deriving DecidableEq

def isSessionActive (now : Nat) (session : SessionRecord) : Bool :=
  session.revokedAt.isNone && now < session.expiresAt

/-! ### Operations -/

inductive SessionOp where
  | dateNow
  | getSessionById (sessionId : String)
  | getUserById (userId : String)
  | touchSession (sessionId : String)
  /-- Stores the hash and the expiry of the rotated token; `presented` is the one it is for. -/
  | rotateSessionRefreshToken (presented : String) (rotated : RefreshTokenPayload)
  | revokeSession (sessionId : String)
  | revokeAllSessionsForUser (userId : String)
  deriving DecidableEq

abbrev SessionOp.Reply : SessionOp → Type
  | dateNow => Nat
  | getSessionById _ => Option SessionRecord
  | getUserById _ => Bool
  | _ => Unit

abbrev SessionOps : Interface where
  Op := SessionOp
  Reply := SessionOp.Reply

abbrev SessionProgram := Program SessionOps

abbrev ask (op : SessionOp) : SessionProgram op.Reply := Program.issue (I := SessionOps) op

structure AuthContext where
  userId : String
  sessionId : String

inductive Route where
  | refresh | logout | logoutAll | other
  deriving DecidableEq

/-- A request with what it shows. -/
structure Request where
  bearer : Option String
  cookie : Option String
  route : Route

/-- A request with the random bytes it draws for a token; `late` says that the session was revoked
before it. -/
structure Launched where
  request : Request
  nonce : Nat
  late : Bool

/-- Whether the request was authenticated, and the token it exchanged with the new one. -/
structure Response where
  authenticated : Bool
  refreshed : Option (String × String)
  deriving DecidableEq

/-! ### Handlers -/

section handlers
variable (codec : TokenCodec)

def verifyRefreshToken (now : Nat) (token : String) : Option RefreshTokenPayload :=
  (codec.readRefreshToken token).filter fun payload => now / 1000 < payload.expiresAt

def verifyAuthToken (now : Nat) (token : String) : Option AccessTokenClaims :=
  (codec.readAuthToken token).filter fun payload => now / 1000 < payload.expiresAt

/-- The session, if it is active and there is the user. -/
def activeSession (userId sessionId : String) : SessionProgram (Option SessionRecord) := do
  let session ← ask (.getSessionById sessionId)
  let user ← ask (.getUserById userId)
  let now ← ask .dateNow
  return if user then session.filter (isSessionActive now) else none

def authenticateFromBearerToken (token : String) : SessionProgram (Option AuthContext) := do
  let now ← ask .dateNow
  match verifyAuthToken codec now token with
  | none => return none
  | some payload =>
    match ← activeSession payload.userId payload.sessionId with
    | none => return none
    | some _ =>
      ask (.touchSession payload.sessionId)
      return some { userId := payload.userId, sessionId := payload.sessionId }

/-- The context, with the new token where one is asked for. -/
def authenticateFromRefreshCookie (nonce : Nat) (token : String) (rotateRefreshToken : Bool) :
    SessionProgram (Option (AuthContext × Option String)) := do
  let now ← ask .dateNow
  match verifyRefreshToken codec now token with
  | none => return none
  | some payload =>
    match ← activeSession payload.userId payload.sessionId with
    | none => return none
    | some session =>
      let auth : AuthContext := { userId := payload.userId, sessionId := payload.sessionId }
      if session.refreshTokenHash ≠ codec.hashRefreshToken token then return none
      else if rotateRefreshToken then
        let now ← ask .dateNow
        let rotated : RefreshTokenPayload :=
          { sessionId := payload.sessionId, userId := payload.userId, tokenNonce := nonce
            expiresAt := now / 1000 + SESSION_TTL_SEC }
        ask (.rotateSessionRefreshToken token rotated)
        return some (auth, some (codec.signRefreshToken rotated))
      else
        ask (.touchSession payload.sessionId)
        return some (auth, none)

def authenticateBearer (bearer : Option String) : SessionProgram (Option AuthContext) :=
  match bearer with
  | none => return none
  | some token => authenticateFromBearerToken codec token

/-- The hook before every route. -/
def preHandler (l : Launched) : SessionProgram (Option AuthContext) := do
  let fromBearer ← authenticateBearer codec l.request.bearer
  match fromBearer, l.request.cookie with
  | some auth, _ => return some auth
  | none, none => return none
  | none, some token =>
    let result ← authenticateFromRefreshCookie codec l.nonce token false
    return result.map (·.1)

def answered (auth : Option AuthContext) (refreshed : Option (String × String)) : Response where
  authenticated := auth.isSome
  refreshed := refreshed

def handle (l : Launched) : SessionProgram Response := do
  let auth ← preHandler codec l
  match l.request.route with
  | .refresh =>
    match l.request.cookie with
    | none => return answered auth none
    | some token =>
      match ← authenticateFromRefreshCookie codec l.nonce token true with
      | none => return answered auth none
      | some (fresh, rotated) => return answered (some fresh) (rotated.map (token, ·))
  | .logout =>
    match auth with
    | none => return answered none none
    | some known =>
      ask (.revokeSession known.sessionId)
      return answered auth none
  | .logoutAll =>
    match auth with
    | none => return answered none none
    | some known =>
      ask (.revokeAllSessionsForUser known.userId)
      return answered auth none
  | .other => return answered auth none

end handlers

/-! ### One session -/

/-- The session, the token it began with, the rotations (newest first) and the answers. -/
structure SessionStore where
  session : SessionRecord
  now : Nat
  nextNonce : Nat
  first : RefreshTokenPayload
  rotations : List (String × RefreshTokenPayload)
  answers : List (Launched × Response)

namespace SessionStore
variable (st : SessionStore)

def revoke : SessionStore :=
  { st with session := { st.session with revokedAt := st.session.revokedAt.or (some st.now) } }

def rotate (codec : TokenCodec) (presented : String) (rotated : RefreshTokenPayload) :
    SessionStore :=
  { st with
    session := { st.session with
      refreshTokenHash := codec.hashRefreshToken (codec.signRefreshToken rotated)
      expiresAt := rotated.expiresAt * 1000 }
    rotations := (presented, rotated) :: st.rotations }

/-- The tokens of the session, newest first. -/
def issued : List RefreshTokenPayload := st.rotations.map (·.2) ++ [st.first]

def exchanged : List String := st.answers.filterMap fun answer => answer.2.refreshed.map (·.1)

/-- The tokens that were delivered, at the start or by a response. -/
def delivered (codec : TokenCodec) : List String :=
  (st.answers.filterMap fun answer => answer.2.refreshed.map (·.2)) ++
    [codec.signRefreshToken st.first]

end SessionStore

/-- Time passes, or the session is revoked from another one. -/
inductive Tick where
  | wait (milliseconds : Nat)
  | revoke

section system
variable (codec : TokenCodec)

/-- The choice is whether there is the user. -/
def performSession (st : SessionStore) (userThere : Bool) :
    (op : SessionOp) → Option (op.Reply × SessionStore)
  | .dateNow => some (st.now, st)
  | .getSessionById sessionId =>
    some (if st.session.id = sessionId then some st.session else none, st)
  | .getUserById _ => some (userThere, st)
  | .touchSession _ => some ((), st)
  | .rotateSessionRefreshToken presented rotated =>
    some ((), if st.session.id = rotated.sessionId then st.rotate codec presented rotated else st)
  | .revokeSession sessionId => some ((), if st.session.id = sessionId then st.revoke else st)
  | .revokeAllSessionsForUser userId =>
    some ((), if st.session.userId = userId then st.revoke else st)

/-- Any number of requests on one session. -/
abbrev sessionSystem : System SessionOps where
  Store := SessionStore
  Launch := Launched
  Loop := Empty
  Outcome := Response
  Choice := Bool
  Tick := Tick
  perform op st choice := performSession codec st choice op
  launch l st :=
    if l.nonce = st.nextNonce ∧ l.late = st.session.revokedAt.isSome then
      some { st with nextNonce := st.nextNonce + 1 }
    else none
  entry l := .inr <$> handle codec l
  body _ loop := nomatch loop
  finish l response st := { st with answers := (l, response) :: st.answers }
  tick t st := match t with
    | .wait milliseconds => some { st with now := st.now + milliseconds }
    | .revoke => some st.revoke

/-- A session that was just opened. -/
def opened (first : RefreshTokenPayload) (now : Nat) : (sessionSystem codec).State where
  store :=
    { session := { id := first.sessionId, userId := first.userId
                   refreshTokenHash := codec.hashRefreshToken (codec.signRefreshToken first)
                   expiresAt := first.expiresAt * 1000, revokedAt := none }
      now, nextNonce := first.tokenNonce + 1, first, rotations := [], answers := [] }
  process _ := none

end system

/-! ### The claim and its condition -/

/-- No token is exchanged twice; when no request is running the stored hash is that of a delivered
token; a request that starts after the revocation is not authenticated. -/
structure SingleUse (codec : TokenCodec) (s : (sessionSystem codec).State) : Prop where
  once : s.store.exchanged.Nodup
  current : (∀ id, s.process id = none) →
    s.store.session.refreshTokenHash ∈ (s.store.delivered codec).map codec.hashRefreshToken
  revoked : ∀ answer ∈ s.store.answers, answer.1.late = true → answer.2.authenticated = false

/-- What a request has found out and done. -/
structure SessionView where
  nonce : Nat
  found : Option String
  sawActive : Bool
  rotated : Option (String × RefreshTokenPayload)

def starting (nonce : Nat) : SessionView where
  nonce := nonce
  found := none
  sawActive := false
  rotated := none

def sessionProtocol : Protocol SessionOps SessionView where
  permits v op := match op with
    | .rotateSessionRefreshToken _ rotated =>
      v.rotated = none ∧ rotated.tokenNonce = v.nonce ∧ v.found = some rotated.sessionId
    | _ => True
  expects _ _ := True
  observe v op reply := match op, reply with
    | .getSessionById sessionId, some session =>
      { v with found := some sessionId, sawActive := v.sawActive || session.revokedAt.isNone }
    | .rotateSessionRefreshToken presented rotated, _ =>
      { v with rotated := some (presented, rotated) }
    | _, _ => v

/-- What a handler knows when it answers. -/
structure Ended (codec : TokenCodec) (l : Launched) (response : Response) (v : SessionView) :
    Prop where
  nonce : v.nonce = l.nonce
  active : response.authenticated = true → v.sawActive = true
  rotated : response.refreshed =
    v.rotated.map fun pair => (pair.1, codec.signRefreshToken pair.2)

section handlers
variable {codec : TokenCodec} {v : SessionView}

/-- A function that rotates nothing; what it returns is found by an active session. -/
def Looks {α : Type} (v : SessionView) (result : Option α) (v' : SessionView) : Prop :=
  v'.nonce = v.nonce ∧ v'.rotated = v.rotated ∧ (v.sawActive = true → v'.sawActive = true) ∧
    (result.isSome = true → v'.sawActive = true)

theorem looks_none {α : Type} : Looks v (none : Option α) v :=
  ⟨rfl, rfl, id, fun some_ => by cases some_⟩

theorem activeSession_follows (userId sessionId : String) :
    (activeSession userId sessionId).wp sessionProtocol (fun result v' =>
      Looks v result v' ∧ (result.isSome = true → v'.found = some sessionId)) v := by
  refine ⟨trivial, fun session _ => ⟨trivial, fun user _ => ⟨trivial, fun now _ => ?_⟩⟩⟩
  match session with
  | none => cases user <;> exact ⟨looks_none, fun some_ => by cases some_⟩
  | some session =>
    refine ⟨⟨rfl, rfl, fun saw => ?_, fun found => ?_⟩, fun _ => rfl⟩
    · show (v.sawActive || session.revokedAt.isNone) = true
      rw [saw, Bool.true_or]
    · show (v.sawActive || session.revokedAt.isNone) = true
      cases user with
      | false => cases found
      | true =>
        have active : isSessionActive now session = true := by
          by_contra inactive
          simp [Option.filter, inactive] at found
        unfold isSessionActive at active
        simp only [Bool.and_eq_true] at active
        rw [active.1, Bool.or_true]

theorem authenticateFromBearerToken_follows (token : String) :
    (authenticateFromBearerToken codec token).wp sessionProtocol (Looks v) v := by
  refine ⟨trivial, fun now _ => ?_⟩
  show Program.wp sessionProtocol (Looks v) (match verifyAuthToken codec now token with
    | none => _
    | some payload => _) v
  split
  · exact looks_none
  · refine Program.wp_seq (activeSession_follows _ _) ?_
    rintro result v' ⟨looks, -⟩
    match result with
    | none => exact ⟨looks.1, looks.2.1, looks.2.2.1, fun some_ => by cases some_⟩
    | some _ => exact ⟨trivial, fun _ _ => ⟨looks.1, looks.2.1, looks.2.2.1, looks.2.2.2⟩⟩

theorem lookAtCookie_follows (nonce : Nat) (token : String) :
    (authenticateFromRefreshCookie codec nonce token false).wp sessionProtocol (Looks v) v := by
  refine ⟨trivial, fun now _ => ?_⟩
  show Program.wp sessionProtocol (Looks v) (match verifyRefreshToken codec now token with
    | none => _
    | some payload => _) v
  split
  · exact looks_none
  · refine Program.wp_seq (activeSession_follows _ _) ?_
    rintro result v' ⟨looks, -⟩
    match result with
    | none => exact ⟨looks.1, looks.2.1, looks.2.2.1, fun some_ => by cases some_⟩
    | some session =>
      show Program.wp sessionProtocol (Looks v) (if session.refreshTokenHash ≠
        codec.hashRefreshToken token then _ else if false = true then _ else _) v'
      split
      · exact ⟨looks.1, looks.2.1, looks.2.2.1, fun some_ => by cases some_⟩
      · exact ⟨trivial, fun _ _ => ⟨looks.1, looks.2.1, looks.2.2.1, looks.2.2.2⟩⟩

/-- What an exchange leaves. -/
def Exchanges (codec : TokenCodec) (token : String) (v : SessionView)
    (result : Option (AuthContext × Option String)) (v' : SessionView) : Prop :=
  v'.nonce = v.nonce ∧ (v.sawActive = true → v'.sawActive = true) ∧
    match result with
    | none => v'.rotated = v.rotated
    | some (_, rotated) => v'.sawActive = true ∧ ∃ payload,
        rotated = some (codec.signRefreshToken payload) ∧ v'.rotated = some (token, payload)

theorem exchange_follows (token : String) (unrotated : v.rotated = none) :
    (authenticateFromRefreshCookie codec v.nonce token true).wp sessionProtocol
      (Exchanges codec token v) v := by
  refine ⟨trivial, fun now _ => ?_⟩
  show Program.wp sessionProtocol (Exchanges codec token v)
    (match verifyRefreshToken codec now token with
    | none => _
    | some payload => _) v
  split
  · exact ⟨rfl, id, rfl⟩
  · next payload _ =>
    refine Program.wp_seq (activeSession_follows _ _) ?_
    rintro result v' ⟨looks, found⟩
    match result with
    | none => exact ⟨looks.1, looks.2.2.1, looks.2.1⟩
    | some session =>
      show Program.wp sessionProtocol (Exchanges codec token v) (if session.refreshTokenHash ≠
        codec.hashRefreshToken token then _ else if true = true then _ else _) v'
      split
      · exact ⟨looks.1, looks.2.2.1, looks.2.1⟩
      · refine ⟨trivial, fun now _ => ⟨⟨looks.2.1.trans unrotated, looks.1.symm, found rfl⟩,
          fun _ _ => ⟨looks.1, looks.2.2.1, looks.2.2.2 rfl, ?_⟩⟩⟩
        exact ⟨_, rfl, rfl⟩

theorem preHandler_follows (l : Launched) :
    (preHandler codec l).wp sessionProtocol (Looks (starting l.nonce)) (starting l.nonce) := by
  have bearer : (authenticateBearer codec l.request.bearer).wp sessionProtocol
      (Looks (starting l.nonce)) (starting l.nonce) := by
    cases l.request.bearer with
    | none => exact looks_none
    | some token => exact authenticateFromBearerToken_follows token
  refine Program.wp_seq bearer fun fromBearer v looks => ?_
  match fromBearer, l.request.cookie with
  | some auth, _ => exact looks
  | none, none => exact looks
  | none, some token =>
    refine Program.wp_seq (lookAtCookie_follows l.nonce token) fun result v' later => ?_
    refine ⟨later.1.trans looks.1, later.2.1.trans looks.2.1,
      fun saw => later.2.2.1 (looks.2.2.1 saw), fun there => later.2.2.2 ?_⟩
    rwa [Option.isSome_map] at there

theorem handle_follows (l : Launched) :
    (handle codec l).wp sessionProtocol (Ended codec l) (starting l.nonce) := by
  refine Program.wp_seq (preHandler_follows l) fun auth v looks => ?_
  have plain : Ended codec l (answered auth none) v :=
    ⟨looks.1, looks.2.2.2, by rw [looks.2.1]; rfl⟩
  show Program.wp sessionProtocol (Ended codec l) (match l.request.route with
    | .refresh => _
    | .logout => _
    | .logoutAll => _
    | .other => _) v
  cases l.request.route with
  | refresh =>
    cases l.request.cookie with
    | none => exact plain
    | some token =>
      have nonce : l.nonce = v.nonce := looks.1.symm
      show Program.wp sessionProtocol (Ended codec l)
        (authenticateFromRefreshCookie codec l.nonce token true >>= _) v
      rw [nonce]
      refine Program.wp_seq (exchange_follows token looks.2.1) fun result v' ends => ?_
      obtain ⟨same, saw, ends⟩ := ends
      match result with
      | none =>
        exact ⟨same.trans looks.1, fun authenticated => saw (looks.2.2.2 authenticated),
          by rw [show v'.rotated = v.rotated from ends, looks.2.1]; rfl⟩
      | some (fresh, rotated) =>
        obtain ⟨active, payload, rfl, rotated⟩ := ends
        exact ⟨same.trans looks.1, fun _ => active, by rw [rotated]; rfl⟩
  | logout =>
    match auth with
    | none => exact plain
    | some known => exact ⟨trivial, fun _ _ => plain⟩
  | logoutAll =>
    match auth with
    | none => exact plain
    | some known => exact ⟨trivial, fun _ _ => plain⟩
  | other => exact plain

end handlers

def sessionCertified (codec : TokenCodec) : Certified (sessionSystem codec) sessionProtocol where
  start l := starting l.nonce
  looping _ loop _ := nomatch loop
  ended := Ended codec
  entry_follows l := Program.wp_seq (handle_follows l) fun _ _ ended => ended
  body_follows _ loop := nomatch loop
  replies _ _ _ _ _ _ := trivial

/-- The hash that a rotation replaces is still that of the token it is for. -/
def Unraced (codec : TokenCodec) (s : (sessionSystem codec).State)
    (a : (sessionSystem codec).Action) : Prop :=
  match (sessionCertified codec).issued s a with
  | some (_, .rotateSessionRefreshToken presented _) =>
    s.store.session.refreshTokenHash = codec.hashRefreshToken presented
  | _ => True

instance (codec : TokenCodec) (s : (sessionSystem codec).State)
    (a : (sessionSystem codec).Action) : Decidable (Unraced codec s a) := by
  unfold Unraced
  split <;> infer_instance

/-! ### The invariant -/

/-- What holds of a running request. -/
structure Knows (st : SessionStore) (q : Launched × SessionView) : Prop where
  nonce : q.2.nonce = q.1.nonce
  below : q.1.nonce < st.nextNonce
  fresh : q.2.rotated = none → ∀ p ∈ st.issued, p.tokenNonce ≠ q.1.nonce
  made : ∀ r, q.2.rotated = some r → r ∈ st.rotations ∧ r.2.tokenNonce = q.1.nonce
  active : q.2.sawActive = true → q.1.late = false
  late : q.1.late = true → st.session.revokedAt.isSome = true
  found : ∀ id, q.2.found = some id → st.session.id = id

/-- What holds of an answer. -/
structure AnswerFits (codec : TokenCodec) (st : SessionStore) (answer : Launched × Response) :
    Prop where
  below : answer.1.nonce < st.nextNonce
  active : answer.2.authenticated = true → answer.1.late = false
  made : ∀ pair, answer.2.refreshed = some pair → ∃ r ∈ st.rotations,
    (r.1, codec.signRefreshToken r.2) = pair ∧ r.2.tokenNonce = answer.1.nonce

/-- Each rotation replaced the token it was for, and is some request's. -/
structure SessionInv (codec : TokenCodec) (st : SessionStore)
    (crew : Nat → Option (Launched × SessionView)) : Prop where
  nonces : (st.issued.map (·.tokenNonce)).Nodup
  below : ∀ p ∈ st.issued, p.tokenNonce < st.nextNonce
  stored : ∃ p rest, st.issued = p :: rest ∧
    st.session.refreshTokenHash = codec.hashRefreshToken (codec.signRefreshToken p)
  chain : st.rotations.map (fun r => codec.hashRefreshToken r.1) =
    st.issued.tail.map fun p => codec.hashRefreshToken (codec.signRefreshToken p)
  knows : ∀ i q, crew i = some q → Knows st q
  apart : ∀ i j q r, crew i = some q → crew j = some r → q.1.nonce = r.1.nonce → i = j
  different : (st.answers.map (·.1.nonce)).Nodup
  answered : ∀ answer ∈ st.answers, AnswerFits codec st answer
  past : ∀ answer ∈ st.answers, ∀ i q, crew i = some q → answer.1.nonce ≠ q.1.nonce
  outcome : ∀ r ∈ st.rotations, (∃ i q, crew i = some q ∧ q.2.rotated = some r) ∨
    ∃ answer ∈ st.answers, answer.2.refreshed = some (r.1, codec.signRefreshToken r.2)

/-- What a step keeps for all but the request with that nonce. -/
structure Advances (nonce : Nat) (st st' : SessionStore) : Prop where
  rotations : ∀ r ∈ st.rotations, r ∈ st'.rotations
  issued : ∀ p ∈ st'.issued, p ∈ st.issued ∨ p.tokenNonce = nonce
  nonces : st.nextNonce ≤ st'.nextNonce
  session : st'.session.id = st.session.id
  revoked : st.session.revokedAt.isSome = true → st'.session.revokedAt.isSome = true

/-- A step that leaves the tokens alone. -/
structure Still (st st' : SessionStore) : Prop where
  rotations : st'.rotations = st.rotations
  first : st'.first = st.first
  answers : st'.answers = st.answers
  nonces : st'.nextNonce = st.nextNonce
  hash : st'.session.refreshTokenHash = st.session.refreshTokenHash
  session : st'.session.id = st.session.id
  revoked : st.session.revokedAt.isSome = true → st'.session.revokedAt.isSome = true

section steps
variable {codec : TokenCodec} {st st' : SessionStore}
  {crew : Nat → Option (Launched × SessionView)} {id : Nat} {l : Launched} {v v' : SessionView}

theorem Knows.advance {q : Launched × SessionView} (knows : Knows st q) {nonce : Nat}
    (advances : Advances nonce st st') (other : q.1.nonce ≠ nonce) : Knows st' q where
  nonce := knows.nonce
  below := Nat.lt_of_lt_of_le knows.below advances.nonces
  fresh unrotated p mem := by
    rcases advances.issued p mem with old | new
    · exact knows.fresh unrotated p old
    · exact fun same => other (same.symm.trans new)
  made r is := ⟨advances.rotations r (knows.made r is).1, (knows.made r is).2⟩
  active := knows.active
  late late := advances.revoked (knows.late late)
  found id is := advances.session.trans (knows.found id is)

theorem AnswerFits.advance {answer : Launched × Response} (fits : AnswerFits codec st answer)
    {nonce : Nat} (advances : Advances nonce st st') : AnswerFits codec st' answer where
  below := Nat.lt_of_lt_of_le fits.below advances.nonces
  active := fits.active
  made pair is := by
    obtain ⟨r, mem, rest⟩ := fits.made pair is
    exact ⟨r, advances.rotations r mem, rest⟩

theorem Still.issued (still : Still st st') : st'.issued = st.issued := by
  unfold SessionStore.issued
  rw [still.rotations, still.first]

theorem Still.advances (still : Still st st') (nonce : Nat) : Advances nonce st st' where
  rotations _ mem := still.rotations ▸ mem
  issued _ mem := .inl (still.issued ▸ mem)
  nonces := Nat.le_of_eq still.nonces.symm
  session := still.session
  revoked := still.revoked

theorem still_revoke : Still st st.revoke where
  rotations := rfl
  first := rfl
  answers := rfl
  nonces := rfl
  hash := rfl
  session := rfl
  revoked is := by
    show (st.session.revokedAt.or (some st.now)).isSome = true
    cases st.session.revokedAt <;> rfl

theorem Still.refl (st : SessionStore) : Still st st :=
  ⟨rfl, rfl, rfl, rfl, rfl, rfl, fun is => is⟩

theorem sessionInv_still (inv : SessionInv codec st crew) (still : Still st st') :
    SessionInv codec st' crew := by
  refine ⟨?_, ?_, ?_, ?_, fun i q here => ?_, inv.apart, ?_, fun answer mem => ?_, ?_, ?_⟩
  · rw [still.issued]
    exact inv.nonces
  · rw [still.issued, still.nonces]
    exact inv.below
  · rw [still.issued, still.hash]
    exact inv.stored
  · rw [still.issued, still.rotations]
    exact inv.chain
  · have knows := inv.knows i q here
    exact knows.advance (still.advances st.nextNonce) (Nat.ne_of_lt knows.below)
  · rw [still.answers]
    exact inv.different
  · rw [still.answers] at mem
    exact (inv.answered answer mem).advance (still.advances 0)
  · rw [still.answers]
    exact inv.past
  · rw [still.rotations, still.answers]
    exact inv.outcome

/-- A request goes on without a rotation. -/
theorem sessionInv_look (inv : SessionInv codec st crew) (here : crew id = some (l, v))
    (knows : Knows st (l, v')) (rotated : v'.rotated = v.rotated) :
    SessionInv codec st (Function.update crew id (some (l, v'))) := by
  have before {i : Nat} {q : Launched × SessionView}
      (there : Function.update crew id (some (l, v')) i = some q) :
      ∃ q', crew i = some q' ∧ q'.1 = q.1 := by
    rcases update_cases there with ⟨rfl, new⟩ | ⟨-, there⟩
    · cases new
      exact ⟨_, here, rfl⟩
    · exact ⟨q, there, rfl⟩
  refine ⟨inv.nonces, inv.below, inv.stored, inv.chain, fun i q there => ?_,
    fun i j q r one two same => ?_, inv.different, inv.answered, fun answer mem i q there => ?_,
    fun r mem => ?_⟩
  · rcases update_cases there with ⟨rfl, new⟩ | ⟨-, there⟩
    · cases new
      exact knows
    · exact inv.knows i q there
  · obtain ⟨q', there, isQ⟩ := before one
    obtain ⟨r', there', isR⟩ := before two
    exact inv.apart i j q' r' there there' (by rw [isQ, isR, same])
  · obtain ⟨q', there, isQ⟩ := before there
    rw [← isQ]
    exact inv.past answer mem i q' there
  · rcases inv.outcome r mem with ⟨i, q, there, is⟩ | done
    · left
      by_cases same : i = id
      · subst same
        cases here.symm.trans there
        exact ⟨i, _, Function.update_self .., rotated.trans is⟩
      · exact ⟨i, q, by rwa [Function.update_of_ne same], is⟩
    · exact .inr done

/-- The rotation of a request, where the stored hash is still that of its token. -/
theorem sessionInv_rotate (inv : SessionInv codec st crew) (here : crew id = some (l, v))
    {presented : String} {rotated : RefreshTokenPayload} (unrotated : v.rotated = none)
    (nonce : rotated.tokenNonce = v.nonce)
    (still : st.session.refreshTokenHash = codec.hashRefreshToken presented) :
    SessionInv codec (st.rotate codec presented rotated)
      (Function.update crew id (some (l, { v with rotated := some (presented, rotated) }))) := by
  have knows := inv.knows id _ here
  have mine : rotated.tokenNonce = l.nonce := nonce.trans knows.nonce
  have advances : Advances l.nonce st (st.rotate codec presented rotated) := by
    refine ⟨fun r mem => List.mem_cons_of_mem _ mem, fun p mem => ?_, Nat.le_refl _, rfl,
      fun is => is⟩
    rcases List.mem_cons.mp (show p ∈ rotated :: st.issued from mem) with rfl | old
    · exact .inr mine
    · exact .inl old
  have others {i : Nat} {q : Launched × SessionView} (different : i ≠ id)
      (there : crew i = some q) : q.1.nonce ≠ l.nonce :=
    fun same => different (inv.apart i id q _ there here same)
  refine ⟨?_, fun p mem => ?_, ⟨rotated, st.issued, rfl, rfl⟩, ?_, fun i q there => ?_,
    fun i j q r one two same => ?_, inv.different, fun answer mem => ?_,
    fun answer mem i q there => ?_, fun r mem => ?_⟩
  · show (rotated.tokenNonce :: st.issued.map (·.tokenNonce)).Nodup
    refine List.nodup_cons.mpr ⟨fun again => ?_, inv.nonces⟩
    obtain ⟨p, mem, same⟩ := List.mem_map.mp again
    exact knows.fresh unrotated p mem (same.trans mine)
  · rcases List.mem_cons.mp (show p ∈ rotated :: st.issued from mem) with rfl | old
    · rw [mine]
      exact knows.below
    · exact inv.below p old
  · show codec.hashRefreshToken presented ::
        st.rotations.map (fun r => codec.hashRefreshToken r.1) =
      st.issued.map fun p => codec.hashRefreshToken (codec.signRefreshToken p)
    obtain ⟨p, rest, issued, stored⟩ := inv.stored
    rw [inv.chain, issued, ← still, stored]
    rfl
  · rcases update_cases there with ⟨rfl, new⟩ | ⟨different, there⟩
    · cases new
      refine ⟨knows.nonce, knows.below, fun none_ => (by cases none_), fun r is => ?_, knows.active,
        knows.late, knows.found⟩
      cases is
      exact ⟨List.mem_cons_self, mine⟩
    · exact (inv.knows i q there).advance advances (others different there)
  · rcases update_cases one with ⟨rfl, new⟩ | ⟨-, first⟩
    · cases new
      rcases update_cases two with ⟨rfl, -⟩ | ⟨-, second⟩
      · rfl
      · exact inv.apart i j (l, v) r here second same
    · rcases update_cases two with ⟨rfl, new⟩ | ⟨-, second⟩
      · cases new
        exact inv.apart i j q (l, v) first here same
      · exact inv.apart i j q r first second same
  · exact (inv.answered answer mem).advance advances
  · rcases update_cases there with ⟨rfl, new⟩ | ⟨-, there⟩
    · cases new
      exact inv.past answer mem i (l, v) here
    · exact inv.past answer mem i q there
  · rcases List.mem_cons.mp mem with rfl | old
    · exact .inl ⟨id, _, Function.update_self .., rfl⟩
    · rcases inv.outcome r old with ⟨i, q, there, is⟩ | done
      · refine .inl ⟨i, q, ?_, is⟩
        rw [Function.update_of_ne, there]
        rintro rfl
        cases here.symm.trans there
        rw [unrotated] at is
        cases is
      · exact .inr done

/-- A request starts with a nonce of its own. -/
theorem sessionInv_launch (inv : SessionInv codec st crew) (free : crew id = none)
    (nonce : l.nonce = st.nextNonce) (late : l.late = st.session.revokedAt.isSome) :
    SessionInv codec { st with nextNonce := st.nextNonce + 1 }
      (Function.update crew id (some (l, starting l.nonce))) := by
  have advances : Advances st.nextNonce st { st with nextNonce := st.nextNonce + 1 } :=
    ⟨fun _ mem => mem, fun _ mem => .inl mem, Nat.le_succ _, rfl, fun is => is⟩
  have older {i : Nat} {q : Launched × SessionView} (there : crew i = some q) :
      q.1.nonce ≠ st.nextNonce := Nat.ne_of_lt (inv.knows i q there).below
  refine ⟨inv.nonces, fun p mem => Nat.lt_succ_of_lt (inv.below p mem), inv.stored, inv.chain,
    fun i q there => ?_, fun i j q r one two same => ?_, inv.different, fun answer mem => ?_,
    fun answer mem i q there => ?_, fun r mem => ?_⟩
  · rcases update_cases there with ⟨rfl, new⟩ | ⟨-, there⟩
    · cases new
      refine ⟨rfl, ?_, fun _ p mem => ?_, fun r is => (by cases is), fun saw => (by cases saw),
        fun is => ?_, fun id is => (by cases is)⟩
      · show l.nonce < st.nextNonce + 1
        omega
      · have small := inv.below p mem
        show p.tokenNonce ≠ l.nonce
        omega
      · exact late.symm.trans is
    · exact (inv.knows i q there).advance advances (older there)
  · rcases update_cases one with ⟨rfl, new⟩ | ⟨-, first⟩
    · cases new
      rcases update_cases two with ⟨rfl, -⟩ | ⟨-, second⟩
      · rfl
      · exact absurd (same.symm.trans nonce) (older second)
    · rcases update_cases two with ⟨rfl, new⟩ | ⟨-, second⟩
      · cases new
        exact absurd (same.trans nonce) (older first)
      · exact inv.apart i j q r first second same
  · exact (inv.answered answer mem).advance advances
  · rcases update_cases there with ⟨rfl, new⟩ | ⟨-, there⟩
    · cases new
      have small := (inv.answered answer mem).below
      show answer.1.nonce ≠ l.nonce
      omega
    · exact inv.past answer mem i q there
  · rcases inv.outcome r mem with ⟨i, q, there, is⟩ | done
    · refine .inl ⟨i, q, ?_, is⟩
      rwa [Function.update_of_ne]
      rintro rfl
      rw [free] at there
      cases there
    · exact .inr done

theorem sessionInv_finish (inv : SessionInv codec st crew) (here : crew id = some (l, v))
    {response : Response} (ended : Ended codec l response v) :
    SessionInv codec { st with answers := (l, response) :: st.answers }
      (Function.update crew id none) := by
  have knows := inv.knows id _ here
  have others {i : Nat} {q : Launched × SessionView}
      (there : Function.update crew id none i = some q) : i ≠ id ∧ crew i = some q := by
    rcases update_cases there with ⟨-, new⟩ | both
    · cases new
    · exact both
  refine ⟨inv.nonces, inv.below, inv.stored, inv.chain, fun i q there => ?_,
    fun i j q r one two same => inv.apart i j q r (others one).2 (others two).2 same,
    List.nodup_cons.mpr ⟨fun again => ?_, inv.different⟩, fun answer mem => ?_,
    fun answer mem i q there => ?_, fun r mem => ?_⟩
  · have before := inv.knows i q (others there).2
    exact ⟨before.nonce, before.below, before.fresh, before.made, before.active, before.late,
      before.found⟩
  · obtain ⟨answer, mem, same⟩ := List.mem_map.mp again
    exact inv.past answer mem id _ here same
  · rcases List.mem_cons.mp mem with rfl | old
    · refine ⟨knows.below, fun authenticated => knows.active (ended.active authenticated),
        fun pair is => ?_⟩
      obtain ⟨r, rotated, rfl⟩ := Option.map_eq_some_iff.mp (ended.rotated.symm.trans is)
      exact ⟨r, (knows.made r rotated).1, rfl, (knows.made r rotated).2⟩
    · have fits := inv.answered answer old
      exact ⟨fits.below, fits.active, fits.made⟩
  · obtain ⟨different, there⟩ := others there
    rcases List.mem_cons.mp mem with rfl | old
    · exact fun same => different (inv.apart i id q _ there here same.symm)
    · exact inv.past answer old i q there
  · rcases inv.outcome r mem with ⟨i, q, there, is⟩ | ⟨answer, old, is⟩
    · by_cases same : i = id
      · subst same
        cases here.symm.trans there
        have rotated : v.rotated = some r := is
        exact .inr ⟨_, List.mem_cons_self, by rw [ended.rotated, rotated]; rfl⟩
      · exact .inl ⟨i, q, by rwa [Function.update_of_ne same], is⟩
    · exact .inr ⟨answer, List.mem_cons_of_mem _ old, is⟩

/-- A step on the session that rotates nothing and tells the request nothing. -/
theorem sessionInv_blind (inv : SessionInv codec st crew) (here : crew id = some (l, v))
    (still : Still st st') : SessionInv codec st' (Function.update crew id (some (l, v))) :=
  sessionInv_look (sessionInv_still inv still) here ((sessionInv_still inv still).knows id _ here)
    rfl

theorem sessionInv_op (inv : SessionInv codec st crew) (here : crew id = some (l, v))
    {op : SessionOp} {reply : op.Reply} {userThere : Bool}
    (permitted : sessionProtocol.permits v op)
    (unraced : ∀ presented rotated, op = .rotateSessionRefreshToken presented rotated →
      st.session.refreshTokenHash = codec.hashRefreshToken presented)
    (performed : performSession codec st userThere op = some (reply, st')) :
    SessionInv codec st'
      (Function.update crew id (some (l, sessionProtocol.observe v op reply))) := by
  have knows := inv.knows id _ here
  cases op with
  | getSessionById sessionId =>
    unfold performSession at performed
    cases performed
    split
    · next found =>
      refine sessionInv_look inv here ⟨knows.nonce, knows.below, knows.fresh, knows.made,
        fun saw => ?_, knows.late, fun id is => ?_⟩ rfl
      · have saw : (v.sawActive || st.session.revokedAt.isNone) = true := saw
        rcases Bool.or_eq_true_iff.mp saw with before | now
        · exact knows.active before
        · by_contra late
          have revoked := knows.late (by simpa using late)
          rw [Option.isSome_iff_ne_none] at revoked
          exact revoked (Option.isNone_iff_eq_none.mp now)
      · cases is
        exact found
    · exact sessionInv_blind inv here (.refl st)
  | rotateSessionRefreshToken presented rotated =>
    obtain ⟨unrotated, nonce, found⟩ := permitted
    have same : st.session.id = rotated.sessionId := knows.found _ found
    unfold performSession at performed
    simp only [same, if_true] at performed
    cases performed
    exact sessionInv_rotate inv here unrotated nonce (unraced presented rotated rfl)
  | revokeSession sessionId =>
    unfold performSession at performed
    cases performed
    split
    · exact sessionInv_blind inv here still_revoke
    · exact sessionInv_blind inv here (.refl st)
  | revokeAllSessionsForUser userId =>
    unfold performSession at performed
    cases performed
    split
    · exact sessionInv_blind inv here still_revoke
    · exact sessionInv_blind inv here (.refl st)
  | _ =>
    unfold performSession at performed
    cases performed
    exact sessionInv_blind inv here (.refl st)

end steps

theorem sessionInv_step {codec : TokenCodec} {s t : (sessionSystem codec).State}
    {a : (sessionSystem codec).Action} (all : (sessionCertified codec).AllFollow s)
    (inv : SessionInv codec s.store ((sessionCertified codec).crew s))
    (unraced : Unraced codec s a) (stepped : System.Stepped s a t) :
    SessionInv codec t.store ((sessionCertified codec).crew t) := by
  have happened := Certified.happened all stepped
  generalize (sessionCertified codec).crew t = crew at happened ⊢
  generalize t.store = store at happened ⊢
  cases happened with
  | @launch id l store free launched =>
    simp only at launched
    split at launched
    · next fits =>
      cases launched
      exact sessionInv_launch inv free fits.1 fits.2
    · cases launched
  | call here issues permitted performed =>
    refine sessionInv_op inv here permitted ?_ performed
    rintro presented rotated rfl
    unfold Unraced at unraced
    rwa [issues] at unraced
  | loop => exact inv
  | finish here ended => exact sessionInv_finish inv here ended
  | @tick tick store ticked =>
    cases tick with
    | wait milliseconds =>
      cases ticked
      exact sessionInv_still inv ⟨rfl, rfl, rfl, rfl, rfl, rfl, fun is => is⟩
    | revoke =>
      cases ticked
      exact sessionInv_still inv still_revoke

theorem sessionInv_opened (codec : TokenCodec) (first : RefreshTokenPayload) (now : Nat) :
    SessionInv codec (opened codec first now).store fun _ => none where
  nonces := List.nodup_singleton _
  below p mem := by
    obtain rfl := List.mem_singleton.mp mem
    exact Nat.lt_succ_self _
  stored := ⟨first, [], rfl, rfl⟩
  chain := rfl
  knows := by simp
  apart := by simp
  different := List.nodup_nil
  answered := by simp [opened]
  past := by simp
  outcome := by simp [opened]

/-! ### Refreshing -/

section claim
variable {codec : TokenCodec} {st : SessionStore} {crew : Nat → Option (Launched × SessionView)}

/-- Tokens that were exchanged have different hashes. -/
theorem presented_nodup (inv : SessionInv codec st crew) : (st.rotations.map (·.1)).Nodup := by
  have hashes : (st.issued.map fun p =>
      codec.hashRefreshToken (codec.signRefreshToken p)).Nodup := by
    rw [List.nodup_map_iff_inj_on inv.nonces.of_map]
    intro p mem q mem' same
    exact List.inj_on_of_nodup_map inv.nonces mem mem' (codec.apart p q same)
  refine List.Nodup.of_map codec.hashRefreshToken ?_
  rw [List.map_map]
  show (st.rotations.map fun r => codec.hashRefreshToken r.1).Nodup
  rw [inv.chain]
  exact hashes.sublist ((List.tail_sublist _).map _)

theorem exchanged_nodup (inv : SessionInv codec st crew) : st.exchanged.Nodup := by
  unfold SessionStore.exchanged List.Nodup
  rw [List.pairwise_filterMap]
  refine (List.pairwise_map.mp inv.different).imp_of_mem fun {a b} memA memB differ => ?_
  rintro token isA _ isB rfl
  obtain ⟨pairA, refreshedA, rfl⟩ := Option.map_eq_some_iff.mp isA
  obtain ⟨pairB, refreshedB, same⟩ := Option.map_eq_some_iff.mp isB
  obtain ⟨r, memR, rfl, nonceR⟩ := (inv.answered a memA).made pairA refreshedA
  obtain ⟨q, memQ, rfl, nonceQ⟩ := (inv.answered b memB).made pairB refreshedB
  obtain rfl := List.inj_on_of_nodup_map (presented_nodup inv) memQ memR same
  exact differ (nonceR.symm.trans nonceQ)

theorem stored_delivered (inv : SessionInv codec st crew) (idle : ∀ id, crew id = none) :
    st.session.refreshTokenHash ∈ (st.delivered codec).map codec.hashRefreshToken := by
  obtain ⟨p, rest, issued, stored⟩ := inv.stored
  rw [stored]
  refine List.mem_map_of_mem ?_
  have mem : p ∈ st.issued := by
    rw [issued]
    exact List.mem_cons_self
  rcases List.mem_append.mp mem with rotated | first
  · obtain ⟨r, there, rfl⟩ := List.mem_map.mp rotated
    rcases inv.outcome r there with ⟨i, q, here, -⟩ | ⟨answer, done, is⟩
    · rw [idle i] at here
      cases here
    · exact List.mem_append_left _ (List.mem_filterMap.mpr ⟨answer, done, by rw [is]; rfl⟩)
  · rw [List.mem_singleton.mp first]
    exact List.mem_append_right _ List.mem_cons_self

end claim

/-- Refresh tokens are used once, as long as no other rotation comes between the check of a
refresh and its own. -/
theorem refresh_tokens_single_use (codec : TokenCodec) (first : RefreshTokenPayload) (now : Nat)
    (s : (sessionSystem codec).State)
    (run : System.Steps (Unraced codec) (opened codec first now) s) : SingleUse codec s := by
  have inv : SessionInv codec s.store ((sessionCertified codec).crew s) :=
    ((sessionCertified codec).invariant
      (fun s => SessionInv codec s.store ((sessionCertified codec).crew s))
      (fun _ => rfl) (sessionInv_opened codec first now)
      (fun _ _ _ all inv unraced stepped => sessionInv_step all inv unraced stepped) run).2
  refine ⟨exchanged_nodup inv, fun idle => stored_delivered inv fun id => ?_,
    fun answer mem late => ?_⟩
  · unfold Certified.crew
    rw [idle id]
    rfl
  · have active := (inv.answered answer mem).active
    rw [late] at active
    exact Bool.eq_false_iff.mpr fun is => Bool.noConfusion (active is)

/-! ### Two refreshes -/

/-- Tokens that spell out their nonce. -/
def unaryCodec : TokenCodec where
  signRefreshToken payload := String.ofList (List.replicate payload.tokenNonce 'x')
  readRefreshToken token := some
    { sessionId := "session", userId := "user", tokenNonce := token.length, expiresAt := 1000 }
  readAuthToken _ := none
  hashRefreshToken token := token
  apart p q same := by
    have length := congrArg String.length same
    simpa using length

def firstPayload : RefreshTokenPayload where
  sessionId := "session"
  userId := "user"
  tokenNonce := 1
  expiresAt := 1000

/-- A refresh with the token that the session began with. -/
def refreshFirst (nonce : Nat) : Launched where
  request := { bearer := none, cookie := some "x", route := .refresh }
  nonce := nonce
  late := false

/-- The refresh up to its rotation. -/
def upToRotation (id : Nat) : List (sessionSystem unaryCodec).Action :=
  .launch id (refreshFirst (id + 2)) :: List.replicate 10 (.call id true)

theorem refresh_tokens_single_use_once : ∃ s,
    System.Steps (Unraced unaryCodec) (opened unaryCodec firstPayload 0) s ∧
      s.store.exchanged = ["x"] ∧ SingleUse unaryCodec s := by
  have done : ((System.exec (Unraced unaryCodec) (opened unaryCodec firstPayload 0)
      (upToRotation 0 ++ [.call 0 true, .finish 0])).map fun s => s.store.exchanged) =
        some ["x"] := by decide +kernel
  obtain ⟨s, ran, exchanged⟩ := Option.map_eq_some_iff.mp done
  have steps := System.steps_of_exec ran
  exact ⟨s, steps, exchanged, refresh_tokens_single_use unaryCodec firstPayload 0 s steps⟩

/-- Both refreshes have found the token's hash before either stores that of its own. -/
theorem refresh_token_exchanged_twice : ¬ ∀ (codec : TokenCodec) (first : RefreshTokenPayload)
    (now : Nat) (s : (sessionSystem codec).State),
      System.Steps (fun _ _ => True) (opened codec first now) s → SingleUse codec s := by
  intro claim
  have done : ((System.exec (fun _ _ => True) (opened unaryCodec firstPayload 0)
      (upToRotation 0 ++ upToRotation 1 ++
        [.call 0 true, .finish 0, .call 1 true, .finish 1])).map fun s => s.store.exchanged) =
        some ["x", "x"] := by decide +kernel
  obtain ⟨s, ran, exchanged⟩ := Option.map_eq_some_iff.mp done
  have once := (claim unaryCodec firstPayload 0 s (System.steps_of_exec ran)).once
  rw [exchanged] at once
  exact absurd once (by decide)

end Vespid.Api.Sessions
