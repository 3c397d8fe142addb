import Vespid.Lib.System
import Vespid.Workflow.Dsl
import Mathlib.Data.List.Basic

/-!
# Presence of clients

The two tables in which an edge keeps its client sockets: who has joined a session, and which
session a socket has joined. A join waits for the database before it writes them.
-/

namespace Vespid.Edge.Presence

open Interleaving Workflow

structure ClientContext where
  organizationId : String
  userId : String
  deriving DecidableEq

structure ClientState where
  organizationId : String
  userId : String
  joinedSessionId : Option Uuid
  deriving DecidableEq

inductive Socket where
  | unopened
  | «open» (context : ClientContext)
  /-- Its close has been handled. -/
  | closed
  deriving DecidableEq

/-- The set of a session stands in the order in which sockets were added. -/
structure Tables where
  sockets : Nat → Socket
  clientStateByWs : Nat → Option ClientState
  sessionClientsBySessionId : Uuid → Option (List Nat)

namespace Tables

def empty : Tables :=
  { sockets := fun _ => .unopened, clientStateByWs := fun _ => none
    sessionClientsBySessionId := fun _ => none }

variable (st : Tables)

/-- The sockets in the set of a session. -/
def clients (sessionId : Uuid) : List Nat := (st.sessionClientsBySessionId sessionId).getD []

def joined (ws : Nat) : Option Uuid := (st.clientStateByWs ws).bind (·.joinedSessionId)

def addClientToSession (sessionId : Uuid) (ws : Nat) : Tables :=
  let set := st.clients sessionId
  { st with
    sessionClientsBySessionId := Function.update st.sessionClientsBySessionId sessionId
      (some (if ws ∈ set then set else set ++ [ws])) }

def removeClientFromSession (sessionId : Uuid) (ws : Nat) : Tables :=
  match st.sessionClientsBySessionId sessionId with
  | none => st
  | some set =>
    let rest := set.filter (· ≠ ws)
    { st with
      sessionClientsBySessionId := Function.update st.sessionClientsBySessionId sessionId
        (if rest.isEmpty then none else some rest) }

def setState (ws : Nat) (state : Option ClientState) : Tables :=
  { st with clientStateByWs := Function.update st.clientStateByWs ws state }

def setSocket (ws : Nat) (socket : Socket) : Tables :=
  { st with sockets := Function.update st.sockets ws socket }

def removeJoined (ws : Nat) : Tables :=
  match st.joined ws with
  | some sessionId => st.removeClientFromSession sessionId ws
  | none => st

/-- What `joinSessionForClient` does once the session is found. -/
def enterSession (ws : Nat) (context : ClientContext) (sessionId : Uuid) : Tables :=
  ((st.removeJoined ws).setState ws (some
    { organizationId := context.organizationId, userId := context.userId
      joinedSessionId := some sessionId })).addClientToSession sessionId ws

/-- `wireClientSocket` -/
def connect (ws : Nat) (context : ClientContext) : Tables :=
  (st.setSocket ws (.open context)).setState ws (some
    { organizationId := context.organizationId, userId := context.userId, joinedSessionId := none })

def leaveSession (ws : Nat) (sessionId : Uuid) : Tables :=
  let removed := st.removeClientFromSession sessionId ws
  match removed.clientStateByWs ws with
  | some state =>
    if state.joinedSessionId = some sessionId then
      removed.setState ws (some { state with joinedSessionId := none })
    else removed
  | none => removed

def close (ws : Nat) : Tables := ((st.removeJoined ws).setState ws none).setSocket ws .closed

end Tables

/-! ### Handlers -/

inductive Lookup where
  | found | missing | failed
  deriving DecidableEq

inductive PresenceOp where
  | getAgentSessionById (organizationId : String) (sessionId : Uuid)
  | enterSession (ws : Nat) (context : ClientContext) (sessionId : Uuid)
  | sadd (sessionId : Uuid)
  | expire (sessionId : Uuid)
  | listAgentSessionEventsTail (organizationId : String) (sessionId : Uuid)

abbrev PresenceOp.Reply : PresenceOp → Type
  | getAgentSessionById .. => Lookup
  | sadd _ => Bool
  | _ => Unit

abbrev PresenceOps : Interface where
  Op := PresenceOp
  Reply := PresenceOp.Reply

abbrev PresenceProgram := Program PresenceOps

abbrev ask (op : PresenceOp) : PresenceProgram op.Reply := Program.issue (I := PresenceOps) op

def joinSessionForClient (ws : Nat) (context : ClientContext) (sessionId : Uuid) :
    PresenceProgram Unit := do
  let existing : Lookup ← ask (.getAgentSessionById context.organizationId sessionId)
  match existing with
  | .found => do
    ask (.enterSession ws context sessionId)
    let added : Bool ← ask (.sadd sessionId)
    if added then ask (.expire sessionId)
    ask (.listAgentSessionEventsTail context.organizationId sessionId)
  | _ => return ()

/-- `z.string().uuid()` of a message -/
def parseSessionId (text : String) : Option Uuid :=
  if valid : isUuid text = true then some ⟨text, valid⟩ else none

/-- A `session_join` that arrives on an open socket. -/
structure JoinMessage where
  ws : Nat
  context : ClientContext
  sessionId : String

/-- What the edge handles without waiting. -/
inductive SocketEvent where
  | connect (ws : Nat) (context : ClientContext)
  | sessionLeave (ws : Nat) (sessionId : String)
  | close (ws : Nat)

structure Choice where
  lookup : Lookup
  /-- Redis answers. -/
  redis : Bool

def performPresence (st : Tables) (choice : Choice) : (op : PresenceOp) → op.Reply × Tables
  | .getAgentSessionById _ _ => (choice.lookup, st)
  | .enterSession ws context sessionId => ((), st.enterSession ws context sessionId)
  | .sadd _ => (choice.redis, st)
  | .expire _ => ((), st)
  | .listAgentSessionEventsTail _ _ => ((), st)

def handleEvent (st : Tables) : SocketEvent → Option Tables
  | .connect ws context =>
    if st.sockets ws = .unopened then some (st.connect ws context) else none
  | .sessionLeave ws sessionId =>
    match st.sockets ws with
    | .open _ => some (match parseSessionId sessionId with
      | some sessionId => st.leaveSession ws sessionId
      | none => st)
    | _ => none
  | .close ws =>
    match st.sockets ws with
    | .open _ => some (st.close ws)
    | _ => none

/-- One edge with any number of client sockets. -/
abbrev presenceSystem : System PresenceOps where
  Store := Tables
  Launch := JoinMessage
  Loop := Empty
  Outcome := Unit
  Choice := Choice
  Tick := SocketEvent
  perform op st choice := some (performPresence st choice op)
  launch message st :=
    if st.sockets message.ws = .open message.context then some st else none
  entry message := .inr <$> match parseSessionId message.sessionId with
    | some sessionId => joinSessionForClient message.ws message.context sessionId
    | none => return ()
  body _ loop := nomatch loop
  finish _ _ st := st
  tick event st := handleEvent st event

def nobody : presenceSystem.State := { store := .empty, process := fun _ => none }

/-! ### The tables agree -/

/-- A socket is in the set of a session exactly if its state names the session, and no empty set is
kept. -/
structure Tables.Agree (st : Tables) : Prop where
  joined : ∀ ws sessionId, ws ∈ st.clients sessionId ↔ st.joined ws = some sessionId
  filled : ∀ sessionId, st.sessionClientsBySessionId sessionId ≠ some []

/-- A socket whose close has been handled is in neither table. -/
def Tables.Gone (st : Tables) : Prop :=
  ∀ ws, st.sockets ws = .closed →
    st.clientStateByWs ws = none ∧ ∀ sessionId, ws ∉ st.clients sessionId

structure Consistent (st : Tables) : Prop where
  agree : st.Agree
  gone : st.Gone

namespace Tables
variable {st : Tables} {ws other : Nat} {sessionId session : Uuid} {state : Option ClientState}

@[simp] theorem setState_clients : (st.setState ws state).clients session = st.clients session := rfl

@[simp] theorem setSocket_clients (socket : Socket) :
    (st.setSocket ws socket).clients session = st.clients session := rfl

@[simp] theorem setSocket_joined (socket : Socket) :
    (st.setSocket ws socket).joined other = st.joined other := rfl

@[simp] theorem addClient_joined :
    (st.addClientToSession sessionId ws).joined other = st.joined other := rfl

theorem removeClient_frame : (st.removeClientFromSession sessionId ws).sockets = st.sockets ∧
    (st.removeClientFromSession sessionId ws).clientStateByWs = st.clientStateByWs := by
  unfold removeClientFromSession
  split <;> exact ⟨rfl, rfl⟩

theorem removeJoined_frame : (st.removeJoined ws).sockets = st.sockets ∧
    (st.removeJoined ws).clientStateByWs = st.clientStateByWs := by
  unfold removeJoined
  split
  · exact removeClient_frame
  · exact ⟨rfl, rfl⟩

theorem addClient_clients_self : (st.addClientToSession sessionId ws).clients sessionId =
    if ws ∈ st.clients sessionId then st.clients sessionId else st.clients sessionId ++ [ws] :=
  congrArg (fun set : Option (List Nat) => set.getD [])
    (Function.update_self sessionId _ st.sessionClientsBySessionId)

theorem addClient_clients_other (apart : session ≠ sessionId) :
    (st.addClientToSession sessionId ws).clients session = st.clients session :=
  congrArg (fun set : Option (List Nat) => set.getD [])
    (Function.update_of_ne apart _ st.sessionClientsBySessionId)

theorem mem_addClient : other ∈ (st.addClientToSession sessionId ws).clients session ↔
    session = sessionId ∧ other = ws ∨ other ∈ st.clients session := by
  by_cases same : session = sessionId
  · subst same
    rw [addClient_clients_self]
    split
    · next present =>
      constructor
      · exact .inr
      · rintro (⟨-, rfl⟩ | mem)
        · exact present
        · exact mem
    · simp [or_comm]
  · rw [addClient_clients_other same]
    simp [same]

theorem mem_removeClient : other ∈ (st.removeClientFromSession sessionId ws).clients session ↔
    other ∈ st.clients session ∧ ¬(session = sessionId ∧ other = ws) := by
  unfold removeClientFromSession
  cases present : st.sessionClientsBySessionId sessionId with
  | none =>
    simp only [iff_self_and, not_and]
    rintro mem rfl
    simp [clients, present] at mem
  | some set =>
    by_cases same : session = sessionId
    · subst same
      simp only [clients, Function.update_self, present, Option.getD_some, true_and]
      by_cases empty : (set.filter (· ≠ ws)).isEmpty = true
      · rw [if_pos empty]
        have none_left := List.filter_eq_nil_iff.mp (List.isEmpty_iff.mp empty)
        simp only [decide_not, Bool.not_eq_true, Bool.not_eq_false', decide_eq_true_eq] at none_left
        simpa using none_left other
      · rw [if_neg empty]
        simp
    · simp [clients, same]

theorem addClient_filled (filled : ∀ sessionId, st.sessionClientsBySessionId sessionId ≠ some []) :
    (st.addClientToSession sessionId ws).sessionClientsBySessionId session ≠ some [] := by
  by_cases same : session = sessionId
  · subst same
    simp only [addClientToSession, Function.update_self, ne_eq, Option.some.injEq]
    split
    · next present => exact List.ne_nil_of_mem present
    · simp
  · simpa [addClientToSession, Function.update_of_ne same] using filled session

theorem removeClient_filled
    (filled : ∀ sessionId, st.sessionClientsBySessionId sessionId ≠ some []) :
    (st.removeClientFromSession sessionId ws).sessionClientsBySessionId session ≠ some [] := by
  unfold removeClientFromSession
  split
  · exact filled session
  · by_cases same : session = sessionId
    · subst same
      simp only [Function.update_self]
      split
      · simp
      · next some_ =>
        intro empty
        exact some_ (by rw [Option.some.inj empty]; rfl)
    · simpa [Function.update_of_ne same] using filled session

theorem setState_joined : (st.setState ws state).joined other =
    if other = ws then state.bind (·.joinedSessionId) else st.joined other := by
  unfold joined setState
  dsimp only
  by_cases same : other = ws
  · rw [if_pos same, same, Function.update_self]
  · rw [if_neg same, Function.update_of_ne same]

/-- A socket taken out of its session is in none. -/
theorem mem_removeJoined (agree : st.Agree) :
    other ∈ (st.removeJoined ws).clients session ↔ other ≠ ws ∧ st.joined other = some session := by
  unfold removeJoined
  cases joined : st.joined ws with
  | none =>
    simp only [agree.joined]
    constructor
    · intro here
      refine ⟨?_, here⟩
      rintro rfl
      rw [joined] at here
      cases here
    · exact And.right
  | some old =>
    simp only [mem_removeClient, agree.joined]
    constructor
    · intro ⟨here, apart⟩
      refine ⟨?_, here⟩
      rintro rfl
      exact apart ⟨Option.some.inj (here.symm.trans joined), rfl⟩
    · intro ⟨apart, here⟩
      exact ⟨here, fun same => apart same.2⟩

theorem removeJoined_filled
    (filled : ∀ sessionId, st.sessionClientsBySessionId sessionId ≠ some []) :
    (st.removeJoined ws).sessionClientsBySessionId session ≠ some [] := by
  unfold removeJoined
  split
  · exact removeClient_filled filled
  · exact filled session

theorem removeJoined_joined : (st.removeJoined ws).joined other = st.joined other := by
  unfold joined
  rw [removeJoined_frame.2]

theorem agree_enterSession (agree : st.Agree) (context : ClientContext) :
    (st.enterSession ws context sessionId).Agree := by
  constructor
  · intro other session
    unfold enterSession
    rw [mem_addClient, setState_clients, mem_removeJoined agree, addClient_joined, setState_joined,
      removeJoined_joined]
    by_cases same : other = ws
    · subst same
      simp [eq_comm]
    · simp [same]
  · intro session
    exact addClient_filled fun _ => removeJoined_filled agree.filled

theorem agree_connect (agree : st.Agree) (context : ClientContext) (new : st.joined ws = none) :
    (st.connect ws context).Agree := by
  constructor
  · intro other session
    unfold connect
    rw [setState_clients, setSocket_clients, setState_joined, setSocket_joined, agree.joined]
    by_cases same : other = ws
    · simp [same, new]
    · simp [same]
  · exact agree.filled

theorem agree_leaveSession (agree : st.Agree) : (st.leaveSession ws sessionId).Agree := by
  have member {other : Nat} {session : Uuid} :
      other ∈ (st.removeClientFromSession sessionId ws).clients session ↔
        st.joined other = some session ∧ ¬(session = sessionId ∧ other = ws) := by
    rw [mem_removeClient, agree.joined]
  have kept {other : Nat} :
      (st.removeClientFromSession sessionId ws).joined other = st.joined other := by
    unfold joined
    rw [removeClient_frame.2]
  have stays (elsewhere : st.joined ws ≠ some sessionId) :
      (st.removeClientFromSession sessionId ws).Agree := by
    refine ⟨fun other session => ?_, fun session => removeClient_filled agree.filled⟩
    rw [member, kept]
    constructor
    · exact And.left
    · intro here
      refine ⟨here, ?_⟩
      rintro ⟨rfl, rfl⟩
      exact elsewhere here
  have state : (st.removeClientFromSession sessionId ws).clientStateByWs ws =
      st.clientStateByWs ws := by
    rw [removeClient_frame.2]
  unfold leaveSession
  simp only [state]
  cases known : st.clientStateByWs ws with
  | none => exact stays (by simp [joined, known])
  | some state =>
    have joined : st.joined ws = state.joinedSessionId := by simp [joined, known]
    simp only
    split
    · next here =>
      refine ⟨fun other session => ?_, fun session => removeClient_filled agree.filled⟩
      rw [setState_clients, member, setState_joined, kept]
      by_cases same : other = ws
      · subst same
        rw [joined, here]
        simp [eq_comm]
      · simp [same]
    · next elsewhere => exact stays (joined ▸ elsewhere)

theorem agree_close (agree : st.Agree) : (st.close ws).Agree := by
  constructor
  · intro other session
    unfold close
    rw [setSocket_clients, setState_clients, mem_removeJoined agree, setSocket_joined,
      setState_joined, removeJoined_joined]
    by_cases same : other = ws
    · simp [same]
    · simp [same]
  · intro session
    exact removeJoined_filled agree.filled

def Absent (st : Tables) (phase : Socket) : Prop :=
  ∀ ws, st.sockets ws = phase → st.clientStateByWs ws = none

theorem joined_of_absent (absent : st.clientStateByWs ws = none) : st.joined ws = none := by
  rw [joined, absent]
  rfl

/-- A socket without a state is in no set, since the tables agree. -/
theorem gone_iff (agree : st.Agree) : st.Gone ↔ st.Absent .closed := by
  constructor
  · intro gone ws closed
    exact (gone ws closed).1
  · intro absent ws closed
    refine ⟨absent ws closed, fun session mem => ?_⟩
    rw [agree.joined, joined_of_absent (absent ws closed)] at mem
    cases mem

theorem enterSession_sockets (context : ClientContext) :
    (st.enterSession ws context sessionId).sockets = st.sockets := removeJoined_frame.1

theorem enterSession_state (context : ClientContext) :
    (st.enterSession ws context sessionId).clientStateByWs other =
      if other = ws then some { organizationId := context.organizationId
                                userId := context.userId, joinedSessionId := some sessionId }
      else st.clientStateByWs other := by
  unfold enterSession addClientToSession setState
  dsimp only
  rw [removeJoined_frame.2, Function.update_apply]

/-- A join gives its socket a state, in whatever phase the socket is. -/
theorem absent_enterSession_iff {phase : Socket} (absent : st.Absent phase)
    (context : ClientContext) :
    (st.enterSession ws context sessionId).Absent phase ↔ st.sockets ws ≠ phase := by
  constructor
  · intro after here
    have state := after ws (by rw [enterSession_sockets, here])
    rw [enterSession_state, if_pos rfl] at state
    cases state
  · intro elsewhere other here
    rw [enterSession_sockets] at here
    rw [enterSession_state, if_neg (by rintro rfl; exact elsewhere here)]
    exact absent other here

theorem leaveSession_sockets : (st.leaveSession ws sessionId).sockets = st.sockets := by
  unfold leaveSession
  dsimp only
  split
  · split <;> exact removeClient_frame.1
  · exact removeClient_frame.1

theorem leaveSession_state (absent : st.clientStateByWs other = none) :
    (st.leaveSession ws sessionId).clientStateByWs other = none := by
  have kept : (st.removeClientFromSession sessionId ws).clientStateByWs other = none := by
    rwa [removeClient_frame.2]
  unfold leaveSession
  dsimp only
  split
  · next state known =>
    split
    · have apart : other ≠ ws := by
        rintro rfl
        rw [kept] at known
        cases known
      unfold setState
      dsimp only
      rwa [Function.update_of_ne apart]
    · exact kept
  · exact kept

end Tables

/-- What one event of a socket keeps. -/
structure EventKeeps (st st' : Tables) : Prop where
  agree : st'.Agree
  fresh : st'.Absent .unopened
  gone : st.Absent .closed → st'.Absent .closed
  opened : ∀ ws, st.sockets ws ≠ .unopened → st'.sockets ws ≠ .unopened

section events
variable {st st' : Tables} {ws : Nat}

theorem eventKeeps_connect (agree : st.Agree) (fresh : st.Absent .unopened)
    (context : ClientContext) (unopened : st.sockets ws = .unopened) :
    EventKeeps st (st.connect ws context) := by
  have sockets (other : Nat) : (st.connect ws context).sockets other =
      if other = ws then .open context else st.sockets other := Function.update_apply ..
  have states {other : Nat} (apart : other ≠ ws) :
      (st.connect ws context).clientStateByWs other = st.clientStateByWs other :=
    Function.update_of_ne apart ..
  have absent {phase : Socket} (before : st.Absent phase) (shut : phase ≠ .open context) :
      (st.connect ws context).Absent phase := by
    intro other here
    rw [sockets] at here
    split at here
    · exact absurd here.symm shut
    · next apart => exact (states apart).trans (before other here)
  refine ⟨Tables.agree_connect agree context (Tables.joined_of_absent (fresh ws unopened)),
    absent fresh nofun, fun gone => absent gone nofun, ?_⟩
  intro other opened
  rw [sockets]
  split
  · exact nofun
  · exact opened

theorem eventKeeps_leave (agree : st.Agree) (fresh : st.Absent .unopened) (sessionId : Uuid) :
    EventKeeps st (st.leaveSession ws sessionId) := by
  have absent {phase : Socket} (before : st.Absent phase) :
      (st.leaveSession ws sessionId).Absent phase := by
    intro other here
    rw [Tables.leaveSession_sockets] at here
    exact Tables.leaveSession_state (before other here)
  refine ⟨Tables.agree_leaveSession agree, absent fresh, absent, ?_⟩
  intro other opened
  rwa [Tables.leaveSession_sockets]

theorem eventKeeps_close (agree : st.Agree) (fresh : st.Absent .unopened) :
    EventKeeps st (st.close ws) := by
  have sockets (other : Nat) : (st.close ws).sockets other =
      if other = ws then .closed else st.sockets other := by
    unfold Tables.close Tables.setSocket Tables.setState
    dsimp only
    rw [Tables.removeJoined_frame.1, Function.update_apply]
  have states (other : Nat) : (st.close ws).clientStateByWs other =
      if other = ws then none else st.clientStateByWs other := by
    unfold Tables.close Tables.setSocket Tables.setState
    dsimp only
    rw [Tables.removeJoined_frame.2, Function.update_apply]
  have absent {phase : Socket} (before : st.Absent phase) : (st.close ws).Absent phase := by
    intro other here
    rw [states]
    split
    · rfl
    · next apart =>
      rw [sockets, if_neg apart] at here
      exact before other here
  refine ⟨Tables.agree_close agree, absent fresh, absent, ?_⟩
  intro other opened
  rw [sockets]
  split
  · exact nofun
  · exact opened

theorem eventKeeps {event : SocketEvent} (agree : st.Agree) (fresh : st.Absent .unopened)
    (handled : handleEvent st event = some st') : EventKeeps st st' := by
  cases event with
  | connect ws context =>
    simp only [handleEvent] at handled
    split at handled
    · next unopened =>
      cases handled
      exact eventKeeps_connect agree fresh context unopened
    · cases handled
  | sessionLeave ws sessionId =>
    simp only [handleEvent] at handled
    split at handled
    · cases handled
      split
      · exact eventKeeps_leave agree fresh _
      · exact ⟨agree, fresh, id, fun _ => id⟩
    · cases handled
  | close ws =>
    simp only [handleEvent] at handled
    split at handled
    · cases handled
      exact eventKeeps_close agree fresh
    · cases handled

end events

/-! ### Runs -/

/-- The socket that an operation puts into the tables. -/
def PresenceOp.enters : PresenceOp → Option Nat
  | enterSession ws _ _ => some ws
  | _ => none

/-- The socket that a step puts into the tables. -/
def entering (s : presenceSystem.State) : presenceSystem.Action → Option Nat
  | .call id _ => (s.process id).bind fun p =>
    match p.program with
    | .call op _ => PresenceOp.enters op
    | .done _ => none
  | _ => none

/-- A join comes back from the database after the close of its socket has been handled. -/
def LateJoin (s : presenceSystem.State) (a : presenceSystem.Action) : Prop :=
  ∃ ws ∈ entering s a, s.store.sockets ws = .closed

instance (s : presenceSystem.State) (a : presenceSystem.Action) : Decidable (LateJoin s a) :=
  inferInstanceAs (Decidable (∃ ws ∈ entering s a, s.store.sockets ws = .closed))

/-- A handler puts the socket of its message into the tables and no other. -/
def Enters (message : JoinMessage) (op : PresenceOp) : Prop := ∀ ws ∈ op.enters, ws = message.ws

structure PresenceInv (s : presenceSystem.State) : Prop where
  agree : s.store.Agree
  fresh : s.store.Absent .unopened
  handlers : ∀ id p, s.process id = some p →
    s.store.sockets p.launch.ws ≠ .unopened ∧ p.program.Only (Enters p.launch)

theorem entry_enters (message : JoinMessage) :
    (presenceSystem.entry message).Only (Enters message) := by
  dsimp only
  cases parseSessionId message.sessionId with
  | none => trivial
  | some sessionId =>
    refine ⟨nofun, fun existing => ?_⟩
    cases existing with
    | found =>
      refine ⟨?_, fun _ => ⟨nofun, fun added => ?_⟩⟩
      · rintro ws ⟨⟩
        rfl
      · cases added with
        | true => exact ⟨nofun, fun _ => ⟨nofun, fun _ => trivial⟩⟩
        | false => exact ⟨nofun, fun _ => trivial⟩
    | _ => trivial

theorem presenceInv_nobody : PresenceInv nobody := by
  constructor
  · constructor
    · intro ws sessionId
      exact ⟨nofun, nofun⟩
    · intro sessionId
      exact nofun
  · intro ws _
    rfl
  · intro id p here
    cases here

section runs
variable {s t : presenceSystem.State} {a : presenceSystem.Action}

/-- After a step of handler `id`, that leaves the phases of the sockets. -/
theorem presenceInv_update {st : Tables} {id : Nat} {p : Option presenceSystem.Process}
    (inv : PresenceInv s) (agree : st.Agree) (fresh : st.Absent .unopened)
    (same : st.sockets = s.store.sockets)
    (after : ∀ q, p = some q →
      s.store.sockets q.launch.ws ≠ .unopened ∧ q.program.Only (Enters q.launch)) :
    PresenceInv (s.update st id p) := by
  refine ⟨agree, fresh, ?_⟩
  intro i q here
  rw [System.State.update_store, same]
  by_cases here_ : i = id
  · subst here_
    rw [System.State.update_process_self] at here
    exact after q here
  · rw [System.State.update_process_other _ _ _ here_] at here
    exact inv.handlers i q here

theorem presenceInv_step (inv : PresenceInv s) (stepped : System.Stepped s a t) :
    PresenceInv t := by
  cases stepped with
  | launch free launched =>
    simp only [ite_eq_iff, Option.some.injEq, reduceCtorEq, and_false, or_false] at launched
    obtain ⟨opened, rfl⟩ := launched
    refine presenceInv_update inv inv.agree inv.fresh rfl ?_
    rintro q ⟨⟩
    rw [opened]
    exact ⟨nofun, entry_enters _⟩
  | @call id choice l history op next reply store here performed =>
    obtain ⟨opened, only⟩ := inv.handlers _ _ here
    obtain ⟨enters, rest⟩ := only
    have after : ∀ q : presenceSystem.Process,
        some { launch := l, history := history ++ [⟨op, reply⟩], program := next reply } = some q →
        s.store.sockets q.launch.ws ≠ .unopened ∧ q.program.Only (Enters q.launch) := by
      rintro q ⟨⟩
      exact ⟨opened, rest reply⟩
    cases op with
    | enterSession ws context sessionId =>
      obtain ⟨rfl, rfl⟩ := Prod.mk.inj (Option.some.inj performed)
      obtain rfl : ws = l.ws := enters ws rfl
      exact presenceInv_update inv (Tables.agree_enterSession inv.agree context)
        ((Tables.absent_enterSession_iff inv.fresh context).mpr opened)
        (Tables.enterSession_sockets context) after
    | _ =>
      obtain ⟨rfl, rfl⟩ := Prod.mk.inj (Option.some.inj performed)
      exact presenceInv_update inv inv.agree inv.fresh rfl after
  | @loop id l history loop here => exact nomatch loop
  | finish here =>
    refine presenceInv_update inv inv.agree inv.fresh rfl ?_
    rintro q ⟨⟩
  | tick ticked =>
    have keeps := eventKeeps inv.agree inv.fresh ticked
    refine ⟨keeps.agree, keeps.fresh, ?_⟩
    intro i q here
    obtain ⟨opened, only⟩ := inv.handlers i q here
    exact ⟨keeps.opened _ opened, only⟩

theorem presenceInv_steps (run : System.Steps (fun _ _ => True) nobody s) : PresenceInv s :=
  run.invariant PresenceInv (fun _ _ _ inv _ stepped => presenceInv_step inv stepped)
    presenceInv_nobody

/-- Gone sockets stay gone in every step but a late join. -/
theorem gone_step_iff (inv : PresenceInv s) (gone : s.store.Absent .closed)
    (stepped : System.Stepped s a t) : t.store.Absent .closed ↔ ¬LateJoin s a := by
  have early (silent : entering s a = none) : ¬LateJoin s a := by
    rintro ⟨ws, enters, -⟩
    rw [silent] at enters
    cases enters
  cases stepped with
  | launch free launched =>
    simp only [ite_eq_iff, Option.some.injEq, reduceCtorEq, and_false, or_false] at launched
    obtain ⟨-, rfl⟩ := launched
    exact iff_of_true gone (early rfl)
  | @call id choice l history op next reply store here performed =>
    have enters : entering s (.call id choice) = op.enters := by
      simp [entering, here]
    cases op with
    | enterSession ws context sessionId =>
      obtain ⟨rfl, rfl⟩ := Prod.mk.inj (Option.some.inj performed)
      refine (Tables.absent_enterSession_iff gone context).trans (not_congr ?_)
      constructor
      · intro closed
        exact ⟨ws, enters, closed⟩
      · rintro ⟨other, there, closed⟩
        rw [enters] at there
        cases there
        exact closed
    | _ =>
      obtain ⟨rfl, rfl⟩ := Prod.mk.inj (Option.some.inj performed)
      exact iff_of_true gone (early enters)
  | @loop id l history loop here => exact nomatch loop
  | finish here => exact iff_of_true gone (early rfl)
  | tick ticked =>
    exact iff_of_true ((eventKeeps inv.agree inv.fresh ticked).gone gone) (early rfl)

end runs

/-- The tables agree in every run; a socket that is gone stays out of them as long as no join comes
back after the close, and no longer. -/
theorem presence_consistent (s : presenceSystem.State) :
    (System.Steps (fun s a => ¬LateJoin s a) nobody s → Consistent s.store) ∧
    (System.Steps (fun _ _ => True) nobody s → s.store.Agree) ∧
    (System.Steps (fun _ _ => True) nobody s → Consistent s.store → ∀ a t,
      System.step s a = some t → (Consistent t.store ↔ ¬LateJoin s a)) := by
  refine ⟨fun run => ?_, fun run => (presenceInv_steps run).agree, ?_⟩
  · have inv := run.invariant (fun s => PresenceInv s ∧ s.store.Absent .closed)
      (fun s a t inv early stepped =>
        ⟨presenceInv_step inv.1 stepped, (gone_step_iff inv.1 inv.2 stepped).mpr early⟩)
      ⟨presenceInv_nobody, fun _ _ => rfl⟩
    exact ⟨inv.1.agree, (Tables.gone_iff inv.1.agree).mpr inv.2⟩
  · intro run consistent a t stepped
    have inv := presenceInv_steps run
    have stepped := System.step_cases stepped
    have agree := (presenceInv_step inv stepped).agree
    rw [← gone_step_iff inv ((Tables.gone_iff consistent.agree).mp consistent.gone) stepped,
      ← Tables.gone_iff agree]
    constructor
    · exact Consistent.gone
    · intro gone
      exact ⟨agree, gone⟩

/-! ### A join that comes back late -/

namespace Sample

def visitor : ClientContext := { organizationId := "o", userId := "u" }

def sessionText : String := "00000000-0000-0000-0000-000000000000"

def sessionId : Uuid := ⟨sessionText, by decide +kernel⟩

def join : JoinMessage := { ws := 0, context := visitor, sessionId := sessionText }

def found : Choice := { lookup := .found, redis := true }

end Sample

/-- A client joins, its second join waits for the database, and it leaves; it stays in the tables as
far as it should. -/
theorem presence_consistent_joined : ∃ s,
    System.Steps (fun s a => ¬LateJoin s a) nobody s ∧
      s.store.joined 0 = some Sample.sessionId ∧ Consistent s.store := by
  have ended : (System.exec (fun s a => ¬LateJoin s a) nobody
      [.tick (.connect 0 Sample.visitor), .launch 0 Sample.join, .call 0 Sample.found,
        .call 0 Sample.found, .launch 1 Sample.join, .tick (.sessionLeave 0 Sample.sessionText),
        .call 1 Sample.found, .call 1 Sample.found]).map (fun s => s.store.joined 0) =
      some (some Sample.sessionId) := by decide +kernel
  obtain ⟨s, ran, joined⟩ := Option.map_eq_some_iff.mp ended
  have run := System.steps_of_exec ran
  exact ⟨s, run, joined, (presence_consistent s).1 run⟩

/-- The socket closes while its join waits for the database: the join then enters it. -/
theorem closed_socket_joins :
    ¬∀ s, System.Steps (fun _ _ => True) nobody s → Consistent s.store := by
  intro claim
  have ended : (System.exec (fun _ _ => True) nobody
      [.tick (.connect 0 Sample.visitor), .launch 0 Sample.join, .call 0 Sample.found,
        .tick (.close 0), .call 0 Sample.found]).map
          (fun s => (s.store.sockets 0, s.store.joined 0)) =
      some (.closed, some Sample.sessionId) := by decide +kernel
  obtain ⟨s, ran, same⟩ := Option.map_eq_some_iff.mp ended
  obtain ⟨closed, joined⟩ := Prod.mk.inj same
  have gone := ((claim s (System.steps_of_exec ran)).gone 0 closed).1
  rw [Tables.joined_of_absent gone] at joined
  cases joined

end Vespid.Edge.Presence
