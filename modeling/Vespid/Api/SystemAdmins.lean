import Vespid.Gateway.Messages
import Vespid.Lib.History
import Vespid.Lib.Recording

/-!
# System administrators

Who holds the role of a system administrator. Users whose addresses are on a list of the environment
get it when they call; who has it grants it to others and revokes it, not from himself. The handlers
run at the same time: what one has read may have changed when it writes.
-/

namespace Vespid.Api.SystemAdmins

open Interleaving

/-! ### The environment -/

structure Env where
  /-- `SYSTEM_ADMIN_EMAIL_ALLOWLIST`, or one of its other names. -/
  allowlist : Option String
  toLowerCase : String → String

def normalEmail (env : Env) (email : String) : String := env.toLowerCase (Gateway.jsTrim email)

def readSystemAdminEmailAllowlist (env : Env) : List String :=
  ((splitChars (· == ',') (env.allowlist.getD "").toList).map fun email =>
    normalEmail env (String.ofList email)).filter (· ≠ "")

def isBootstrapSystemAdminEmail (env : Env) (email : String) : Bool :=
  email ≠ "" && (readSystemAdminEmailAllowlist env).contains (normalEmail env email)

/-! ### Tables -/

structure UserRecord where
  id : Nat
  email : String
  deriving DecidableEq

/-- A row of `platform_user_roles` with the role of a system administrator. -/
structure PlatformUserRole where
  userId : Nat
  grantedByUserId : Option Nat
  deriving DecidableEq

inductive AuditAction where
  | granted
  | revoked (deleted : Bool)
  deriving DecidableEq

structure AuditRow where
  actorUserId : Nat
  action : AuditAction
  targetId : Nat
  deriving DecidableEq

/-- What happens to the role. -/
inductive RoleEvent where
  | granted (grantedByUserId : Option Nat) (userId : Nat)
  | revoked (actorUserId userId : Nat)
  deriving DecidableEq

/-- The tables, and a record of what happens to the role. -/
structure Tables where
  users : List UserRecord
  roles : List PlatformUserRole
  audit : List AuditRow
  events : List RoleEvent

namespace Tables
variable (t : Tables)

def isSystemAdmin (userId : Nat) : Bool := t.roles.any (·.userId = userId)

def getUserByEmail (env : Env) (email : String) : Option UserRecord :=
  t.users.find? (·.email = env.toLowerCase email)

def insertRole (userId : Nat) (grantedByUserId : Option Nat) : Tables :=
  { t with
    roles := t.roles ++ [{ userId, grantedByUserId }]
    events := t.events ++ [.granted grantedByUserId userId] }

/-- The insert, which throws where there is no such user. The second component tells whether the row
is new; where it is not, the row that was there is read in an operation of its own. -/
def createPlatformUserRole (userId : Nat) (grantedByUserId : Option Nat) : Option (Tables × Bool) :=
  if t.users.any (·.id = userId) then
    some (if t.isSystemAdmin userId then (t, false)
      else (t.insertRole userId grantedByUserId, true))
  else none

/-- The second component tells whether there was a row. -/
def deletePlatformUserRole (actorUserId userId : Nat) : Tables × Bool :=
  if t.isSystemAdmin userId then
    ({ t with
      roles := t.roles.filter (·.userId ≠ userId)
      events := t.events ++ [.revoked actorUserId userId] }, true)
  else (t, false)

def appendPlatformAuditLog (row : AuditRow) : Tables := { t with audit := t.audit ++ [row] }

end Tables

/-! ### Handlers -/

structure AuthContext where
  userId : Nat
  email : String
  deriving DecidableEq

/-- `adminSystemAdminMutationSchema`; a body that it refuses is none. -/
structure MutationBody where
  userId : Option Nat
  email : Option String
  deriving DecidableEq

inductive Request where
  /-- Any route that asks for the capabilities of its user. -/
  | capabilities
  | list
  | grant (body : Option MutationBody)
  | revoke (body : Option MutationBody)
  deriving DecidableEq

inductive Response where
  | forbidden (message : String)
  | badRequest (message : String)
  | notFound (message : String)
  | internalError
  | capabilities (isSystemAdmin : Bool)
  | systemAdmins (rows : List PlatformUserRole)
  | granted
  | revoked (deleted : Bool)
  deriving DecidableEq

/-- What a handler does next. -/
inductive Stage where
  | bootstrap
  | bootstrapExisting
  | readRole
  | findTarget
  | write (userId : Nat)
  | grantExisting (userId : Nat)
  | audit (row : AuditRow)
  | ended (response : Response)
  deriving DecidableEq

structure Handler where
  auth : AuthContext
  request : Request
  stage : Stage
  deriving DecidableEq

/-- The user a body names. -/
def targetOf (env : Env) (t : Tables) : Option MutationBody → Except Response Nat
  | none => .error (.badRequest "Invalid system admin payload")
  | some body =>
    match body.userId, body.email with
    | some userId, _ => .ok userId
    | none, some email =>
      match t.getUserByEmail env (env.toLowerCase email) with
      | some user => .ok user.id
      | none => .error (.notFound "User not found")
    | none, none => .error (.badRequest "Missing userId")

def ensureSystemAdminBootstrap (env : Env) (t : Tables) (auth : AuthContext) : Tables × Stage :=
  if isBootstrapSystemAdminEmail env auth.email then
    match t.createPlatformUserRole auth.userId none with
    | none => (t, .ended .internalError)
    | some (t, true) => (t, .readRole)
    | some (t, false) => (t, .bootstrapExisting)
  else (t, .readRole)

/-- The row that was there before the insert. -/
def readExisting (t : Tables) (userId : Nat) (goesOn : Stage) : Stage :=
  if t.isSystemAdmin userId then goesOn else .ended .internalError

/-- The role of the caller is read. -/
def readRole (t : Tables) (h : Handler) : Stage :=
  match h.request with
  | .capabilities => .ended (.capabilities (t.isSystemAdmin h.auth.userId))
  | .list | .grant _ | .revoke _ =>
    if t.isSystemAdmin h.auth.userId then .findTarget
    else .ended (.forbidden "System administrator role is required")

def findTarget (env : Env) (t : Tables) (h : Handler) : Stage :=
  match h.request with
  | .capabilities => h.stage
  | .list => .ended (.systemAdmins t.roles.reverse)
  | .grant body =>
    match targetOf env t body with
    | .error response => .ended response
    | .ok userId => .write userId
  | .revoke body =>
    match targetOf env t body with
    | .error response => .ended response
    | .ok userId =>
      if userId = h.auth.userId then
        .ended (.forbidden "Cannot remove your own system administrator role")
      else .write userId

def grantedRow (h : Handler) (userId : Nat) : AuditRow := ⟨h.auth.userId, .granted, userId⟩

def write (t : Tables) (h : Handler) (userId : Nat) : Tables × Stage :=
  match h.request with
  | .capabilities | .list => (t, h.stage)
  | .grant _ =>
    match t.createPlatformUserRole userId (some h.auth.userId) with
    | none => (t, .ended .internalError)
    | some (t, true) => (t, .audit (grantedRow h userId))
    | some (t, false) => (t, .grantExisting userId)
  | .revoke _ =>
    let (t, deleted) := t.deletePlatformUserRole h.auth.userId userId
    (t, .audit ⟨h.auth.userId, .revoked deleted, userId⟩)

def responseOf (row : AuditRow) : Response :=
  match row.action with
  | .granted => .granted
  | .revoked deleted => .revoked deleted

/-- The next operation of a handler. -/
def advance (env : Env) (t : Tables) (h : Handler) : Tables × Stage :=
  match h.stage with
  | .bootstrap => ensureSystemAdminBootstrap env t h.auth
  | .bootstrapExisting => (t, readExisting t h.auth.userId .readRole)
  | .readRole => (t, readRole t h)
  | .findTarget => (t, findTarget env t h)
  | .write userId => write t h userId
  | .grantExisting userId => (t, readExisting t userId (.audit (grantedRow h userId)))
  | .audit row => (t.appendPlatformAuditLog row, .ended (responseOf row))
  | .ended response => (t, .ended response)

/-! ### Runs -/

structure World where
  tables : Tables
  handlers : List Handler

inductive Event where
  | signUp (email : String)
  | receive (auth : AuthContext) (request : Request)
  | next (handler : Nat)
  deriving DecidableEq

def step (env : Env) (w : World) : Event → World
  | .signUp email =>
    let t := w.tables
    let user : UserRecord := { id := t.users.length, email := env.toLowerCase email }
    { w with tables := if (t.getUserByEmail env email).isSome then t
      else { t with users := t.users ++ [user] } }
  | .receive auth request => { w with handlers := w.handlers ++ [⟨auth, request, .bootstrap⟩] }
  | .next handler =>
    match w.handlers[handler]? with
    | none => w
    | some h =>
      let (tables, stage) := advance env w.tables h
      { tables, handlers := w.handlers.set handler { h with stage } }

def noUsers : World :=
  { tables := { users := [], roles := [], audit := [], events := [] }, handlers := [] }

/-- A call carries a token that was signed for a user. -/
def Meets (w : World) : Event → Prop
  | .receive auth _ => ⟨auth.userId, auth.email⟩ ∈ w.tables.users
  | _ => True

instance (w : World) (e : Event) : Decidable (Meets w e) := by
  unfold Meets
  cases e <;> infer_instance

def Reached (env : Env) : World → Prop := History.Reached (step env) Meets noUsers

/-! ### Whence the role comes -/

/-- Who has the role after these events. -/
def holders (events : List RoleEvent) : List Nat :=
  events.foldl (fun held event =>
    match event with
    | .granted _ userId => held ++ [userId]
    | .revoked _ userId => held.filter (· ≠ userId)) []

/-- The user had the role at some time. -/
def Held (events : List RoleEvent) (userId : Nat) : Prop :=
  ∃ before after, events = before ++ after ∧ userId ∈ holders before

/-- What has to come before an event. -/
def Founded (env : Env) (users : List UserRecord) (before : List RoleEvent) : RoleEvent → Prop
  | .granted none userId =>
    ∃ email, ⟨userId, email⟩ ∈ users ∧ isBootstrapSystemAdminEmail env email = true
  | .granted (some actor) _ => Held before actor
  | .revoked actor userId => actor ≠ userId ∧ Held before actor

/-- The user is on the list, or got the role from one of whom this holds. -/
inductive Rooted (env : Env) (t : Tables) : Nat → Prop
  | listed {userId : Nat} {email : String} (user : ⟨userId, email⟩ ∈ t.users)
      (listed : isBootstrapSystemAdminEmail env email = true) : Rooted env t userId
  | granted {actor userId : Nat} (event : .granted (some actor) userId ∈ t.events)
      (rooted : Rooted env t actor) : Rooted env t userId

section theorems
variable {env : Env} {t : Tables} {w : World} {events : List RoleEvent} {userId : Nat}

theorem holders_concat (events : List RoleEvent) (event : RoleEvent) :
    holders (events ++ [event]) =
      match event with
      | .granted _ userId => holders events ++ [userId]
      | .revoked _ userId => (holders events).filter (· ≠ userId) := by
  rw [holders, List.foldl_append]
  rfl

theorem held_of_mem (mem : userId ∈ holders events) : Held events userId :=
  ⟨events, [], (List.append_nil _).symm, mem⟩

theorem isSystemAdmin_iff : t.isSystemAdmin userId = true ↔
    userId ∈ t.roles.map (·.userId) := by
  simp [Tables.isSystemAdmin]

theorem create_spec {grantedByUserId : Option Nat} {t' : Tables} {inserted : Bool}
    (created : t.createPlatformUserRole userId grantedByUserId = some (t', inserted)) :
    t' = if inserted then t.insertRole userId grantedByUserId else t := by
  unfold Tables.createPlatformUserRole at created
  split at created
  · split at created
    · cases created
      rfl
    · cases created
      rfl
  · cases created

theorem delete_cases (t : Tables) (actor userId : Nat) :
    t.deletePlatformUserRole actor userId = (t, false) ∨
      t.deletePlatformUserRole actor userId = ({ t with
        roles := t.roles.filter (·.userId ≠ userId)
        events := t.events ++ [.revoked actor userId] }, true) := by
  unfold Tables.deletePlatformUserRole
  split
  · exact .inr rfl
  · exact .inl rfl

/-- The events are founded, and leave the rows of the table. -/
structure Sound (env : Env) (t : Tables) : Prop where
  explained : Explained (Founded env t.users) t.events
  rows : t.roles.map (·.userId) = holders t.events

theorem Founded.mono {users users' : List UserRecord} (more : users ⊆ users')
    {before : List RoleEvent} {event : RoleEvent} (founded : Founded env users before event) :
    Founded env users' before event := by
  cases event with
  | granted grantedByUserId userId =>
    cases grantedByUserId with
    | none =>
      obtain ⟨email, user, listed⟩ := founded
      exact ⟨email, more user, listed⟩
    | some actor => exact founded
  | revoked actor userId => exact founded

theorem sound_insert (sound : Sound env t) {grantedByUserId : Option Nat}
    (founded : Founded env t.users t.events (.granted grantedByUserId userId)) :
    Sound env (t.insertRole userId grantedByUserId) := by
  refine ⟨explained_concat sound.explained founded, ?_⟩
  rw [Tables.insertRole, holders_concat, List.map_append, sound.rows]
  rfl

theorem sound_delete (sound : Sound env t) {actor : Nat}
    (founded : Founded env t.users t.events (.revoked actor userId)) :
    Sound env (t.deletePlatformUserRole actor userId).1 := by
  obtain kept | deleted := delete_cases t actor userId
  · rwa [kept]
  · rw [deleted]
    refine ⟨explained_concat sound.explained founded, ?_⟩
    rw [holders_concat, ← sound.rows]
    dsimp only
    rw [List.filter_map]
    rfl

/-- The later tables have the users and the events of the earlier ones. -/
structure Grows (t t' : Tables) : Prop where
  users : t.users ⊆ t'.users
  events : t.events <+: t'.events

theorem Grows.refl (t : Tables) : Grows t t := ⟨List.Subset.refl _, List.prefix_refl _⟩

theorem Grows.held {t' : Tables} (grows : Grows t t') (held : Held t.events userId) :
    Held t'.events userId := by
  obtain ⟨rest, more⟩ := grows.events
  obtain ⟨before, after, split, mem⟩ := held
  exact ⟨before, after ++ rest, by rw [← more, split, List.append_assoc], mem⟩

theorem grows_insert (t : Tables) (userId : Nat) (grantedByUserId : Option Nat) :
    Grows t (t.insertRole userId grantedByUserId) :=
  ⟨List.Subset.refl _, List.prefix_append ..⟩

theorem grows_delete (t : Tables) (actor userId : Nat) :
    Grows t (t.deletePlatformUserRole actor userId).1 := by
  obtain kept | deleted := delete_cases t actor userId
  · rw [kept]
    exact .refl t
  · rw [deleted]
    exact ⟨List.Subset.refl _, List.prefix_append ..⟩

/-- What a handler knows at a stage. -/
def StageFits (t : Tables) (h : Handler) : Stage → Prop
  | .findTarget => Held t.events h.auth.userId
  | .write userId => Held t.events h.auth.userId ∧
      ∀ body, h.request = .revoke body → h.auth.userId ≠ userId
  | _ => True

theorem StageFits.mono {t' : Tables} {h : Handler} {stage : Stage} (fits : StageFits t h stage)
    (grows : Grows t t') : StageFits t' h stage := by
  cases stage with
  | findTarget => exact grows.held fits
  | write userId => exact ⟨grows.held fits.1, fits.2⟩
  | bootstrap | bootstrapExisting | readRole | grantExisting | audit | ended => trivial

structure Fits (t : Tables) (h : Handler) : Prop where
  user : ⟨h.auth.userId, h.auth.email⟩ ∈ t.users
  stage : StageFits t h h.stage

/-! ### One operation -/

theorem readRole_fits (sound : Sound env t) (h : Handler) : StageFits t h (readRole t h) := by
  unfold readRole
  split
  · trivial
  all_goals
    split
    · next admin =>
      rw [isSystemAdmin_iff, sound.rows] at admin
      exact held_of_mem admin
    · trivial

theorem findTarget_fits {h : Handler} (held : Held t.events h.auth.userId)
    (at_ : h.stage = .findTarget) : StageFits t h (findTarget env t h) := by
  unfold findTarget
  split
  · rw [at_]
    exact held
  · trivial
  · next request =>
    split
    · trivial
    · exact ⟨held, fun other same => by rw [request] at same; cases same⟩
  · split
    · trivial
    · split
      · trivial
      · next other => exact ⟨held, fun _ _ same => other same.symm⟩

/-- What one operation does to the tables, and where its handler goes on. -/
inductive Does (env : Env) (t : Tables) (h : Handler) : Tables → Stage → Prop
  | stays {stage : Stage} (pending : ∀ row, h.stage ≠ .audit row)
      (knows : Sound env t → StageFits t h h.stage → StageFits t h stage) : Does env t h t stage
  | bootstraps (listed : isBootstrapSystemAdminEmail env h.auth.email = true)
      (pending : ∀ row, h.stage ≠ .audit row) :
      Does env t h (t.insertRole h.auth.userId none) .readRole
  | grants {userId : Nat} (at_ : h.stage = .write userId) :
      Does env t h (t.insertRole userId (some h.auth.userId)) (.audit (grantedRow h userId))
  | revokes {body : Option MutationBody} {userId : Nat} (at_ : h.stage = .write userId)
      (request : h.request = .revoke body) :
      Does env t h (t.deletePlatformUserRole h.auth.userId userId).1 (.audit ⟨h.auth.userId,
        .revoked (t.deletePlatformUserRole h.auth.userId userId).2, userId⟩)
  | audits {row : AuditRow} (at_ : h.stage = .audit row) :
      Does env t h (t.appendPlatformAuditLog row) (.ended (responseOf row))

theorem bootstrap_does {h : Handler} (at_ : h.stage = .bootstrap) :
    Does env t h (ensureSystemAdminBootstrap env t h.auth).1
      (ensureSystemAdminBootstrap env t h.auth).2 := by
  have pending (row : AuditRow) : h.stage ≠ .audit row := by
    rw [at_]
    nofun
  unfold ensureSystemAdminBootstrap
  split
  · next listed =>
    split
    · exact .stays pending fun _ _ => trivial
    · next created =>
      obtain rfl := create_spec created
      exact .bootstraps listed pending
    · next created =>
      obtain rfl := create_spec created
      exact .stays pending fun _ _ => trivial
  · exact .stays pending fun _ _ => trivial

theorem readExisting_fits {h : Handler} {goesOn : Stage} (fits : StageFits t h goesOn) :
    StageFits t h (readExisting t userId goesOn) := by
  unfold readExisting
  split
  · exact fits
  · trivial

theorem write_does {h : Handler} (at_ : h.stage = .write userId) :
    Does env t h (write t h userId).1 (write t h userId).2 := by
  have pending (row : AuditRow) : h.stage ≠ .audit row := by
    rw [at_]
    nofun
  unfold write
  split
  · exact .stays pending fun _ fits => fits
  · exact .stays pending fun _ fits => fits
  · split
    · exact .stays pending fun _ _ => trivial
    · next created =>
      obtain rfl := create_spec created
      exact .grants at_
    · next created =>
      obtain rfl := create_spec created
      exact .stays pending fun _ _ => trivial
  · next request => exact .revokes at_ request

theorem advance_does (env : Env) (t : Tables) (h : Handler) :
    Does env t h (advance env t h).1 (advance env t h).2 := by
  unfold advance
  split
  · next at_ => exact bootstrap_does at_
  · next at_ => exact .stays (by rw [at_]; nofun) fun _ _ => readExisting_fits trivial
  · next at_ => exact .stays (by rw [at_]; nofun) fun sound _ => readRole_fits sound h
  · next at_ =>
    refine .stays (by rw [at_]; nofun) fun _ fits => ?_
    rw [at_] at fits
    exact findTarget_fits fits at_
  · next at_ => exact write_does at_
  · next at_ => exact .stays (by rw [at_]; nofun) fun _ _ => readExisting_fits trivial
  · next at_ => exact .audits at_
  · next at_ => exact .stays (by rw [at_]; nofun) fun _ _ => trivial

/-- What one operation of a handler keeps. -/
theorem Does.spec {h : Handler} {t' : Tables} {stage : Stage} (does : Does env t h t' stage)
    (sound : Sound env t) (fits : Fits t h) :
    Sound env t' ∧ Grows t t' ∧ StageFits t' h stage := by
  have knows := fits.stage
  cases does with
  | stays _ goesOn => exact ⟨sound, .refl _, goesOn sound knows⟩
  | bootstraps listed =>
    have founded : Founded env t.users t.events (.granted none h.auth.userId) :=
      ⟨_, fits.user, listed⟩
    exact ⟨sound_insert sound founded, grows_insert .., trivial⟩
  | @grants userId at_ =>
    rw [at_] at knows
    have founded : Founded env t.users t.events (.granted (some h.auth.userId) userId) := knows.1
    exact ⟨sound_insert sound founded, grows_insert .., trivial⟩
  | revokes at_ request =>
    rw [at_] at knows
    exact ⟨sound_delete sound ⟨knows.2 _ request, knows.1⟩, grows_delete .., trivial⟩
  | audits =>
    exact ⟨⟨sound.explained, sound.rows⟩, ⟨List.Subset.refl _, List.prefix_refl _⟩, trivial⟩

/-! ### Every run -/

structure WorldInv (env : Env) (w : World) : Prop where
  sound : Sound env w.tables
  handlers : ∀ h ∈ w.handlers, Fits w.tables h

theorem Fits.mono {t' : Tables} {h : Handler} (fits : Fits t h) (grows : Grows t t') : Fits t' h :=
  ⟨grows.users fits.user, fits.stage.mono grows⟩

theorem worldInv_step {e : Event} (inv : WorldInv env w) (meets : Meets w e) :
    WorldInv env (step env w e) := by
  cases e with
  | signUp email =>
    unfold step
    dsimp only
    split
    · exact inv
    · have more : w.tables.users ⊆ w.tables.users ++
          [{ id := w.tables.users.length, email := env.toLowerCase email }] :=
        List.subset_append_left ..
      refine ⟨⟨fun before event after split => ?_, inv.sound.rows⟩, fun h mem => ?_⟩
      · exact (inv.sound.explained before event after split).mono more
      · exact (inv.handlers h mem).mono ⟨more, List.prefix_refl _⟩
  | receive auth request =>
    refine ⟨inv.sound, fun h mem => ?_⟩
    obtain old | new := List.mem_append.mp mem
    · exact inv.handlers h old
    · obtain rfl := List.mem_singleton.mp new
      exact ⟨meets, trivial⟩
  | next handler =>
    unfold step
    dsimp only
    split
    · exact inv
    · next h found =>
      have fits := inv.handlers h (List.mem_of_getElem? found)
      obtain ⟨sound, grows, after⟩ := (advance_does env _ h).spec inv.sound fits
      refine ⟨sound, fun other mem => ?_⟩
      obtain old | rfl := List.mem_or_eq_of_mem_set mem
      · exact (inv.handlers other old).mono grows
      · exact ⟨grows.users fits.user, after⟩

theorem worldInv_reached (reached : Reached env w) : WorldInv env w := by
  refine History.Reached.invariant (WorldInv env) (fun _ _ inv meets => worldInv_step inv meets) ?_
    reached
  exact ⟨⟨explained_nil, rfl⟩, nofun⟩

/-- Who held the role at some time got it from the list, over others. -/
theorem rooted_of_held (explained : Explained (Founded env t.users) t.events)
    (before after : List RoleEvent) (split : t.events = before ++ after)
    (mem : userId ∈ holders before) : Rooted env t userId := by
  induction length : before.length using Nat.strong_induction_on
    generalizing before after userId with
  | _ n ih =>
    obtain rfl | ⟨earlier, event, rfl⟩ := List.eq_nil_or_concat before
    · cases mem
    rw [List.concat_eq_append] at split mem length
    rw [List.length_append, List.length_singleton] at length
    have here : t.events = earlier ++ event :: after := by
      rw [split, List.append_assoc, List.singleton_append]
    have old (inOld : userId ∈ holders earlier) : Rooted env t userId :=
      ih earlier.length (by omega) earlier (event :: after) here inOld rfl
    rw [holders_concat] at mem
    cases event with
    | revoked actor target => exact old (List.mem_of_mem_filter mem)
    | granted grantedByUserId target =>
      obtain inOld | same := List.mem_append.mp mem
      · exact old inOld
      obtain rfl := List.mem_singleton.mp same
      have founded := explained earlier _ after here
      cases grantedByUserId with
      | none =>
        obtain ⟨email, user, listed⟩ := founded
        exact .listed user listed
      | some actor =>
        obtain ⟨first, rest, rfl, held⟩ := founded
        have event : .granted (some actor) userId ∈ t.events := by
          rw [here]
          exact List.mem_append_right _ List.mem_cons_self
        refine .granted event (ih first.length ?_ first
          (rest ++ .granted (some actor) userId :: after) ?_ held rfl)
        · rw [List.length_append] at length
          omega
        · rw [here, List.append_assoc]

/-- Every administrator has the role from the list, over a chain of users who granted it. -/
theorem admins_rooted (reached : Reached env w) {userId : Nat}
    (admin : w.tables.isSystemAdmin userId = true) : Rooted env w.tables userId := by
  obtain ⟨explained, rows⟩ := (worldInv_reached reached).sound
  rw [isSystemAdmin_iff, rows] at admin
  exact rooted_of_held explained _ [] (List.append_nil _).symm admin

/-! ### The last administrator -/

/-- A revocation is written while its actor has the role. -/
def InTurn (w : World) : Event → Prop
  | .next handler =>
    match w.handlers[handler]? with
    | some ⟨auth, .revoke _, .write _⟩ => w.tables.isSystemAdmin auth.userId = true
    | _ => True
  | _ => True

instance (w : World) (e : Event) : Decidable (InTurn w e) := by
  unfold InTurn
  split
  · split <;> infer_instance
  · infer_instance

theorem admin_insert {other : Nat} (admin : t.isSystemAdmin other = true)
    (userId : Nat) (grantedByUserId : Option Nat) :
    (t.insertRole userId grantedByUserId).isSystemAdmin other = true := by
  rw [isSystemAdmin_iff] at admin ⊢
  rw [Tables.insertRole, List.map_append]
  exact List.mem_append_left _ admin

theorem admin_delete {other actor : Nat} (admin : t.isSystemAdmin other = true)
    (spared : other ≠ userId) : (t.deletePlatformUserRole actor userId).1.isSystemAdmin other =
      true := by
  obtain kept | deleted := delete_cases t actor userId
  · rwa [kept]
  · rw [deleted]
    simp only [Tables.isSystemAdmin, List.any_eq_true, decide_eq_true_eq] at admin ⊢
    obtain ⟨row, mem, rfl⟩ := admin
    exact ⟨row, List.mem_filter.mpr ⟨mem, by simpa using spared⟩, rfl⟩

/-- Some user has the role. -/
def Tables.HasAdmin (t : Tables) : Prop := ∃ userId, t.isSystemAdmin userId = true

theorem Does.hasAdmin {h : Handler} {t' : Tables} {stage : Stage} (does : Does env t h t' stage)
    (some_ : t.HasAdmin) (fits : Fits t h)
    (inTurn : ∀ userId body, h.stage = .write userId → h.request = .revoke body →
      t.isSystemAdmin h.auth.userId = true) : t'.HasAdmin := by
  obtain ⟨other, admin⟩ := some_
  have knows := fits.stage
  cases does with
  | stays => exact ⟨other, admin⟩
  | bootstraps => exact ⟨other, admin_insert admin ..⟩
  | grants => exact ⟨other, admin_insert admin ..⟩
  | revokes at_ request =>
    -- The one who revokes is not the one who loses the role.
    rw [at_] at knows
    exact ⟨h.auth.userId, admin_delete (inTurn _ _ at_ request) (knows.2 _ request)⟩
  | audits => exact ⟨other, admin⟩

/-- What the audit log says of an event, if it says anything. -/
def auditOf : RoleEvent → Option AuditRow
  | .granted none _ => none
  | .granted (some actor) userId => some ⟨actor, .granted, userId⟩
  | .revoked actor userId => some ⟨actor, .revoked true, userId⟩

def Stage.isAudit : Stage → Bool
  | .audit _ => true
  | _ => false

/-- Every event is in the log, or a handler is about to write it there. -/
def Audited (w : World) : Prop :=
  ∀ event ∈ w.tables.events, ∀ row ∈ auditOf event,
    row ∈ w.tables.audit ∨ ∃ h ∈ w.handlers, h.stage = .audit row

theorem added_insert {grantedByUserId : Option Nat} {event : RoleEvent}
    (mem : event ∈ (t.insertRole userId grantedByUserId).events) :
    event ∈ t.events ∨ event = .granted grantedByUserId userId :=
  (List.mem_append.mp mem).imp_right List.mem_singleton.mp

/-- What an operation adds to the events, its handler goes on to write in the log. -/
theorem Does.added {h : Handler} {t' : Tables} {stage : Stage} (does : Does env t h t' stage)
    {event : RoleEvent} (mem : event ∈ t'.events) {row : AuditRow} (of : row ∈ auditOf event) :
    event ∈ t.events ∨ stage = .audit row := by
  cases does with
  | stays => exact .inl mem
  | bootstraps =>
    obtain old | rfl := added_insert mem
    · exact .inl old
    · cases of
  | grants =>
    obtain old | rfl := added_insert mem
    · exact .inl old
    · cases of
      exact .inr rfl
  | @revokes _ userId =>
    obtain kept | deleted := delete_cases t h.auth.userId userId
    · rw [kept] at mem
      exact .inl mem
    · rw [deleted] at mem ⊢
      obtain old | new := List.mem_append.mp mem
      · exact .inl old
      · obtain rfl := List.mem_singleton.mp new
        cases of
        exact .inr rfl
  | audits => exact .inl mem

theorem audit_delete (t : Tables) (actor userId : Nat) :
    (t.deletePlatformUserRole actor userId).1.audit = t.audit := by
  obtain kept | deleted := delete_cases t actor userId
  · rw [kept]
  · rw [deleted]

/-- The log keeps its rows, and gets the row its handler is about to write. -/
theorem Does.audit {h : Handler} {t' : Tables} {stage : Stage} (does : Does env t h t' stage)
    {row : AuditRow} (mem : row ∈ t.audit ∨ h.stage = .audit row) : row ∈ t'.audit := by
  obtain old | here := mem
  · cases does with
    | stays => exact old
    | bootstraps => exact old
    | grants => exact old
    | revokes => rwa [audit_delete]
    | audits => exact List.mem_append_left _ old
  · cases does with
    | stays pending => exact absurd here (pending row)
    | bootstraps _ pending => exact absurd here (pending row)
    | grants at_ => cases at_.symm.trans here
    | revokes at_ => cases at_.symm.trans here
    | audits at_ =>
      cases at_.symm.trans here
      exact List.mem_append_right _ List.mem_cons_self

theorem audited_step {e : Event} (audited : Audited w) : Audited (step env w e) := by
  cases e with
  | signUp email =>
    unfold step
    dsimp only
    split <;> exact audited
  | receive auth request =>
    intro event mem row of
    obtain written | ⟨h, here, at_⟩ := audited event mem row of
    · exact .inl written
    · exact .inr ⟨h, List.mem_append_left _ here, at_⟩
  | next handler =>
    unfold step
    dsimp only
    split
    · exact audited
    next h found =>
    have does := advance_does env w.tables h
    intro event mem row of
    obtain old | new := does.added mem of
    · obtain written | ⟨other, here, at_⟩ := audited event old row of
      · exact .inl (does.audit (.inl written))
      · obtain ⟨k, there⟩ := List.getElem?_of_mem here
        by_cases same : handler = k
        · subst same
          obtain rfl := Option.some.inj (found.symm.trans there)
          exact .inl (does.audit (.inr at_))
        · refine .inr ⟨other, ?_, at_⟩
          have kept : (w.handlers.set handler
              { h with stage := (advance env w.tables h).2 })[k]? = some other := by
            rw [List.getElem?_set_ne same, there]
          exact List.mem_of_getElem? kept
    · refine .inr ⟨{ h with stage := (advance env w.tables h).2 }, ?_, new⟩
      exact List.mem_set (List.getElem?_eq_some_iff.mp found).1 _

/-- Who gives the role to another or takes it from him is in the audit log with it, once no handler
stands before its entry. -/
theorem events_audited (reached : Reached env w)
    (settled : ∀ h ∈ w.handlers, h.stage.isAudit = false) :
    ∀ event ∈ w.tables.events, ∀ row ∈ auditOf event, row ∈ w.tables.audit := by
  have audited : Audited w := by
    refine History.Reached.invariant Audited (fun _ _ audited _ => audited_step audited) ?_ reached
    exact nofun
  intro event mem row of
  obtain written | ⟨h, here, at_⟩ := audited event mem row of
  · exact written
  · have waits := settled h here
    rw [at_] at waits
    cases waits

end theorems

/-! ### Ann and Bob -/

def annListed : Env where
  allowlist := some " ann@x.org,"
  toLowerCase := id

/-- Ann is on the list; she makes Bob an administrator. -/
def annGrants : List Event :=
  [.signUp "ann@x.org", .signUp "bob@x.org",
    .receive ⟨0, "ann@x.org"⟩ (.grant (some ⟨none, some "bob@x.org"⟩)),
    .next 0, .next 0, .next 0, .next 0, .next 0]

def afterGrant : World :=
  (History.run (step annListed) Meets noUsers annGrants).getD noUsers

theorem reached_afterGrant : Reached annListed afterGrant := by
  have ran : History.run (step annListed) Meets noUsers annGrants = some afterGrant := rfl
  exact History.reached_of_run ran

theorem admins_rooted_bob : Rooted annListed afterGrant.tables 1 :=
  admins_rooted reached_afterGrant (by decide)

theorem events_audited_afterGrant :
    ({ actorUserId := 0, action := .granted, targetId := 1 } : AuditRow) ∈
      afterGrant.tables.audit :=
  events_audited reached_afterGrant (by decide) (.granted (some 0) 1) (by decide) _ rfl

/-- Bob takes the role from Ann. -/
def bobRevokes : List Event :=
  [.receive ⟨1, "bob@x.org"⟩ (.revoke (some ⟨some 0, none⟩)),
    .next 1, .next 1, .next 1, .next 1, .next 1]

def afterRevoke : World :=
  (History.run (step annListed) (fun w e => Meets w e ∧ InTurn w e) afterGrant bobRevokes).getD
    noUsers

/-- Ann and Bob revoke each other's role at the same time. -/
example : ((History.run (step annListed) Meets afterGrant
    [.receive ⟨0, "ann@x.org"⟩ (.revoke (some ⟨some 1, none⟩)),
      .receive ⟨1, "bob@x.org"⟩ (.revoke (some ⟨some 0, none⟩)),
      .next 1, .next 1, .next 2, .next 1, .next 2, .next 1, .next 2, .next 1, .next 2]).map
    (·.tables.roles)) = some [] := rfl

end Vespid.Api.SystemAdmins
