import Vespid.Lib.Protocol
import Mathlib.Data.List.Basic

/-!
# Clients of a session

The clients that have joined one session on any number of edges, the set of edges kept in Redis
for it, and what edges and brains append and send. Events are named by their sequence numbers.
-/

namespace Vespid.Edge

open Interleaving

/-- The events from `oldest` on are the client's to see; it is settled once its tail is read. -/
structure Joined where
  oldest : Nat
  settled : Bool
  deriving DecidableEq

/-- `edges` is what stands under `sessionEdgesKey`, a client is a socket. -/
structure ClientStore where
  events : Nat
  joined : Nat → Option Joined
  edges : List String
  streams : String → List Nat
  sent : Nat → List Nat

inductive ClientOp where
  | getAgentSessionById
  /-- The client is entered in the edge's table, and the join is acknowledged. -/
  | addClientToSession (client : Nat)
  | sadd (edge : String)
  | expire
  | listAgentSessionEventsTail (client : Nat)
  | sendTail (client : Nat) (events : List Nat)
  /-- By an edge's `session_send`, or by a brain. -/
  | appendAgentSessionEvent (edge : Option String)
  | sendLocal (edge : String) (event : Nat)
  | smembers
  | clientBroadcast (edge : String) (event : Nat)
  deriving DecidableEq

abbrev ClientOp.Reply : ClientOp → Type
  | getAgentSessionById => Bool
  | listAgentSessionEventsTail _ => List Nat
  | appendAgentSessionEvent _ => Nat
  | smembers => List String
  | _ => Unit

abbrev ClientOps : Interface where
  Op := ClientOp
  Reply := ClientOp.Reply

abbrev ClientProgram := Program ClientOps

abbrev askFor (op : ClientOp) : ClientProgram op.Reply := Program.issue (I := ClientOps) op

def tailLimit : Nat := 200

section handlers
-- the edge a socket is open on
variable (edgeOf : Nat → String)

def joinSessionForClient (client : Nat) : ClientProgram Unit := do
  let existing : Bool ← askFor .getAgentSessionById
  if !existing then return ()
  else do
    askFor (.addClientToSession client)
    askFor (.sadd (edgeOf client))
    askFor .expire
    let tail : List Nat ← askFor (.listAgentSessionEventsTail client)
    askFor (.sendTail client tail)

/-- A `session_send` of a client: the event goes to the clients of its own edge. -/
def sessionSend (edge : String) : ClientProgram Unit := do
  let existing : Bool ← askFor .getAgentSessionById
  if !existing then return ()
  else do
    let event : Nat ← askFor (.appendAgentSessionEvent (some edge))
    askFor (.sendLocal edge event)

def broadcastTo (event : Nat) : List String → ClientProgram Unit
  | [] => return ()
  | edge :: rest => do
    askFor (.clientBroadcast edge event)
    broadcastTo event rest

/-- What a brain's handlers do with an event. -/
def appendAndBroadcast : ClientProgram Unit := do
  let event : Nat ← askFor (.appendAgentSessionEvent none)
  let edges : List String ← askFor .smembers
  broadcastTo event edges

end handlers

inductive ClientLaunch where
  | join (client : Nat)
  | sessionSend (edge : String)
  | brain

inductive ClientTick where
  /-- The client joins another session or its socket closes. -/
  | leave (client : Nat)
  /-- An edge takes a broadcast off its stream. -/
  | deliver (edge : String)
  | expireEdges
  deriving DecidableEq

structure ClientChoice where
  found : Bool
  /-- The event an idempotency key was used for before. -/
  existing : Option Nat

namespace ClientStore

def empty : ClientStore :=
  { events := 0, joined := fun _ => none, edges := [], streams := fun _ => [], sent := fun _ => [] }

variable (st : ClientStore) (edgeOf : Nat → String)

def add (client : Nat) : ClientStore :=
  match st.joined client with
  | some _ => st
  | none => { st with joined := Function.update st.joined client (some
      { oldest := st.events, settled := false }) }

def tail : List Nat := (List.range st.events).drop (st.events - tailLimit)

def readTail (client : Nat) : ClientStore :=
  match st.joined client with
  | none => st
  | some j => { st with joined := Function.update st.joined client (some
      { oldest := min j.oldest (st.events - tailLimit), settled := true }) }

def sendTo (client : Nat) (events : List Nat) : ClientStore :=
  { st with sent := Function.update st.sent client (st.sent client ++ events) }

/-- Send to every client of the session on an edge. -/
def sendLocal (edge : String) (event : Nat) : ClientStore :=
  { st with sent := fun client =>
      if edgeOf client = edge ∧ (st.joined client).isSome then st.sent client ++ [event]
      else st.sent client }

end ClientStore

def performClient (edgeOf : Nat → String) (st : ClientStore) (choice : ClientChoice) :
    (op : ClientOp) → Option (op.Reply × ClientStore)
  | .getAgentSessionById => some (choice.found, st)
  | .addClientToSession client => some ((), st.add client)
  | .sadd edge => some ((), { st with edges := st.edges.insert edge })
  | .expire => some ((), st)
  | .listAgentSessionEventsTail client => some (st.tail, st.readTail client)
  | .sendTail client events => some ((), st.sendTo client events)
  | .appendAgentSessionEvent _ =>
    match choice.existing with
    | some event => if event < st.events then some (event, st) else none
    | none => some (st.events, { st with events := st.events + 1 })
  | .sendLocal edge event => some ((), st.sendLocal edgeOf edge event)
  | .smembers => some (st.edges, st)
  | .clientBroadcast edge event =>
    some ((), { st with streams := Function.update st.streams edge (st.streams edge ++ [event]) })

def tickClient (edgeOf : Nat → String) (st : ClientStore) : ClientTick → Option ClientStore
  | .leave client => some { st with joined := Function.update st.joined client none }
  | .deliver edge =>
    match st.streams edge with
    | [] => none
    | event :: rest =>
      some { st.sendLocal edgeOf edge event with streams := Function.update st.streams edge rest }
  | .expireEdges => some { st with edges := [] }

/-- Edges and brains over one session. -/
abbrev clientSystem (edgeOf : Nat → String) : System ClientOps where
  Store := ClientStore
  Launch := ClientLaunch
  Loop := Empty
  Outcome := Unit
  Choice := ClientChoice
  Tick := ClientTick
  perform op st choice := performClient edgeOf st choice op
  launch _ st := some st
  entry l := .inr <$> match l with
    | .join client => joinSessionForClient edgeOf client
    | .sessionSend edge => sessionSend edge
    | .brain => appendAndBroadcast
  body _ loop := nomatch loop
  finish _ _ st := st
  tick t st := tickClient edgeOf st t

def noClients (edgeOf : Nat → String) : (clientSystem edgeOf).State :=
  { store := .empty, process := fun _ => none }

/-! ### What a handler still has to send -/

inductive ClientStage where
  | begun
  /-- The client is joined, its tail is not read. -/
  | reading (client : Nat)
  | tail (client : Nat) (events : List Nat)
  | appended (edge : String) (event : Nat)
  | telling (event : Nat)
  | sending (event : Nat) (edges : List String)
  deriving DecidableEq

namespace ClientStage

def permits (stage : ClientStage) : ClientOp → Prop
  | .addClientToSession _ | .appendAgentSessionEvent _ => stage = begun
  | .listAgentSessionEventsTail client => stage = reading client
  | .sendTail client events => stage = tail client events
  | .sendLocal edge event => stage = appended edge event
  | .smembers => ∃ event, stage = telling event
  | .clientBroadcast edge event => ∃ rest, stage = sending event (edge :: rest)
  | _ => True

def observe : ClientStage → (op : ClientOp) → op.Reply → ClientStage
  | _, .addClientToSession client, _ => reading client
  | _, .listAgentSessionEventsTail client, events => tail client events
  | _, .sendTail .., _ => begun
  | _, .appendAgentSessionEvent (some edge), event => appended edge event
  | _, .appendAgentSessionEvent none, event => telling event
  | _, .sendLocal .., _ => begun
  | telling event, .smembers, edges => sending event edges
  | sending event edges, .clientBroadcast .., _ => sending event edges.tail
  | stage, _, _ => stage

/-- Nothing is left to send. -/
def Owing : ClientStage → Prop
  | begun => False
  | sending _ edges => edges ≠ []
  | _ => True

/-- An event that the handler is going to send to a client. -/
def Carries (edgeOf : Nat → String) (client event : Nat) : ClientStage → Prop
  | tail client' events => client' = client ∧ event ∈ events
  | appended edge event' => edge = edgeOf client ∧ event' = event
  | telling event' => event' = event
  | sending event' edges => event' = event ∧ edgeOf client ∈ edges
  | _ => False

end ClientStage

def clientProtocol : Protocol ClientOps ClientStage where
  permits := ClientStage.permits
  expects _ _ := True
  observe := ClientStage.observe

theorem joinSession_follows (edgeOf : Nat → String) (client : Nat) :
    (joinSessionForClient edgeOf client).wp clientProtocol (fun _ stage => ¬stage.Owing) .begun := by
  simp only [joinSessionForClient, askFor, Program.issue_eq, Program.call_bind, Program.done_bind,
    Program.wp_call]
  refine ⟨trivial, fun existing _ => ?_⟩
  split
  · exact id
  · exact ⟨rfl, fun _ _ => ⟨trivial, fun _ _ => ⟨trivial, fun _ _ => ⟨rfl, fun _ _ =>
      ⟨rfl, fun _ _ => id⟩⟩⟩⟩⟩

theorem sessionSend_follows (edge : String) :
    (sessionSend edge).wp clientProtocol (fun _ stage => ¬stage.Owing) .begun := by
  simp only [sessionSend, askFor, Program.issue_eq, Program.call_bind, Program.done_bind,
    Program.wp_call]
  refine ⟨trivial, fun existing _ => ?_⟩
  split
  · exact id
  · exact ⟨rfl, fun _ _ => ⟨rfl, fun _ _ => id⟩⟩

theorem broadcastTo_follows (event : Nat) (edges : List String) :
    (broadcastTo event edges).wp clientProtocol (fun _ stage => ¬stage.Owing)
      (.sending event edges) := by
  induction edges with
  | nil => exact fun owing => owing rfl
  | cons edge rest ih => exact ⟨⟨rest, rfl⟩, fun _ _ => ih⟩

theorem appendAndBroadcast_follows :
    appendAndBroadcast.wp clientProtocol (fun _ stage => ¬stage.Owing) .begun :=
  ⟨rfl, fun event _ => ⟨⟨event, rfl⟩, fun edges _ => broadcastTo_follows event edges⟩⟩

def clientCertified (edgeOf : Nat → String) : Certified (clientSystem edgeOf) clientProtocol where
  start _ := .begun
  looping _ loop _ := nomatch loop
  ended _ _ stage := ¬stage.Owing
  entry_follows l := by
    cases l with
    | join client =>
      exact Program.wp_seq (joinSession_follows edgeOf client) fun _ _ ended => ended
    | sessionSend edge => exact Program.wp_seq (sessionSend_follows edge) fun _ _ ended => ended
    | brain => exact Program.wp_seq appendAndBroadcast_follows fun _ _ ended => ended
  body_follows _ loop := nomatch loop
  replies _ _ _ _ _ _ := trivial

/-! ### Every event reaches its clients -/

/-- A brain that asks for the edges finds those of all settled clients, an edge that appends an
event has all settled clients itself, and a tail reaches back to the join. -/
def CoveredOp (edgeOf : Nat → String) (st : ClientStore) : ClientOp → Prop
  | .smembers =>
    ∀ client j, st.joined client = some j → j.settled = true → edgeOf client ∈ st.edges
  | .appendAgentSessionEvent (some edge) =>
    ∀ client j, st.joined client = some j → j.settled = true → edgeOf client = edge
  | .listAgentSessionEventsTail client => ∀ j, st.joined client = some j → j.settled = false →
    st.events ≤ j.oldest + tailLimit
  | _ => True

def Covered (edgeOf : Nat → String) (s : (clientSystem edgeOf).State)
    (a : (clientSystem edgeOf).Action) : Prop :=
  (clientCertified edgeOf).Performing (fun _ op => CoveredOp edgeOf s.store op) s a

/-- Sent, on its way to the client's edge, or still in the hands of a handler. -/
def OnTheWay (edgeOf : Nat → String) (st : ClientStore)
    (crew : Nat → Option (ClientLaunch × ClientStage)) (client event : Nat) : Prop :=
  event ∈ st.sent client ∨ event ∈ st.streams (edgeOf client) ∨
    ∃ id q, crew id = some q ∧ q.2.Carries edgeOf client event

structure ClientInv (edgeOf : Nat → String) (st : ClientStore)
    (crew : Nat → Option (ClientLaunch × ClientStage)) : Prop where
  covered : ∀ client j, st.joined client = some j → j.settled = true →
    ∀ event, j.oldest ≤ event → event < st.events → OnTheWay edgeOf st crew client event
  reading : ∀ client j, st.joined client = some j → j.settled = false →
    ∃ id q, crew id = some q ∧ q.2 = .reading client

section step
variable {edgeOf : Nat → String} {st st' : ClientStore}
  {crew : Nat → Option (ClientLaunch × ClientStage)} {id : Nat} {l : ClientLaunch}
  {stage stage' : ClientStage}

/-- Another handler goes on as it was, and this one's stage is `stage'`. -/
theorem found_update {P : ClientStage → Prop} (here : crew id = some (l, stage))
    {new : Option (ClientLaunch × ClientStage)} (there : ∃ i q, crew i = some q ∧ P q.2)
    (own : P stage → ∃ q, new = some q ∧ P q.2) :
    ∃ i q, Function.update crew id new i = some q ∧ P q.2 := by
  obtain ⟨i, q, found, holds⟩ := there
  by_cases same : i = id
  · subst same
    rw [here] at found
    cases found
    obtain ⟨q, is, holds⟩ := own holds
    exact ⟨i, q, by rw [Function.update_self]; exact is, holds⟩
  · exact ⟨i, q, by rw [Function.update_of_ne same]; exact found, holds⟩

theorem found_self {P : ClientStage → Prop} (holds : P stage') :
    ∃ i q, Function.update crew id (some (l, stage')) i = some q ∧ P q.2 :=
  ⟨id, (l, stage'), Function.update_self .., holds⟩

/-- A step that does not change who is joined or what there is to see. -/
theorem clientInv_pass (inv : ClientInv edgeOf st crew) (here : crew id = some (l, stage))
    {new : Option (ClientLaunch × ClientStage)} (joined : st'.joined = st.joined)
    (events : st'.events = st.events)
    (sent : ∀ client event, event ∈ st.sent client → event ∈ st'.sent client)
    (streams : ∀ edge event, event ∈ st.streams edge → event ∈ st'.streams edge)
    (moved : ∀ client j event, st.joined client = some j → j.settled = true →
      stage.Carries edgeOf client event →
        event ∈ st'.sent client ∨ event ∈ st'.streams (edgeOf client) ∨
          ∃ q, new = some q ∧ q.2.Carries edgeOf client event)
    (reading : ∀ client, stage ≠ .reading client ∨ ∃ q, new = some q ∧ q.2 = .reading client) :
    ClientInv edgeOf st' (Function.update crew id new) := by
  refine ⟨?_, ?_⟩
  · intro client j here' settled event old bound
    rw [joined] at here'
    rw [events] at bound
    rcases inv.covered client j here' settled event old bound with was | was | ⟨i, q, found, carries⟩
    · exact .inl (sent client event was)
    · exact .inr (.inl (streams _ event was))
    · by_cases same : i = id
      · subst same
        rw [here] at found
        cases found
        rcases moved client j event here' settled carries with now | now | ⟨q, is, now⟩
        · exact .inl now
        · exact .inr (.inl now)
        · exact .inr (.inr ⟨i, q, by rw [Function.update_self]; exact is, now⟩)
      · exact .inr (.inr ⟨i, q, by rw [Function.update_of_ne same]; exact found, carries⟩)
  · intro client j here' unsettled
    rw [joined] at here'
    refine found_update (P := fun stage => stage = .reading client) here
      (inv.reading client j here' unsettled) fun is => ?_
    rcases reading client with other | found
    · exact absurd is other
    · exact found

theorem clientInv_add (inv : ClientInv edgeOf st crew) (here : crew id = some (l, .begun))
    (client : Nat) :
    ClientInv edgeOf (st.add client)
      (Function.update crew id (some (l, .reading client))) := by
  have others : ClientInv edgeOf st (Function.update crew id (some (l, .reading client))) :=
    clientInv_pass inv here rfl rfl (fun _ _ mem => mem) (fun _ _ mem => mem)
      (fun _ _ _ _ _ carries => carries.elim) fun _ => .inl nofun
  unfold ClientStore.add
  split
  · exact others
  · refine ⟨?_, ?_⟩
    · intro client' j joined settled
      by_cases same : client' = client
      · subst same
        dsimp only at joined
        rw [Function.update_self] at joined
        cases joined
        cases settled
      · dsimp only at joined
        rw [Function.update_of_ne same] at joined
        exact others.covered client' j joined settled
    · intro client' j joined unsettled
      by_cases same : client' = client
      · subst same
        exact found_self (P := fun stage => stage = .reading client') rfl
      · dsimp only at joined
        rw [Function.update_of_ne same] at joined
        exact others.reading client' j joined unsettled

theorem mem_tail {event : Nat} (recent : st.events - tailLimit ≤ event) (bound : event < st.events) :
    event ∈ st.tail := by
  unfold ClientStore.tail
  rw [List.mem_iff_getElem?]
  refine ⟨event - (st.events - tailLimit), ?_⟩
  rw [List.getElem?_drop, Nat.add_sub_cancel' recent]
  simp [bound]

theorem clientInv_tail (inv : ClientInv edgeOf st crew) {client : Nat}
    (here : crew id = some (l, .reading client))
    (reaches : ∀ j, st.joined client = some j → j.settled = false →
      st.events ≤ j.oldest + tailLimit) :
    ClientInv edgeOf (st.readTail client)
      (Function.update crew id (some (l, .tail client st.tail))) := by
  have told {event : Nat} (recent : st.events - tailLimit ≤ event) (bound : event < st.events)
      (store : ClientStore) : OnTheWay edgeOf store
        (Function.update crew id (some (l, .tail client st.tail))) client event :=
    .inr (.inr (found_self (P := fun stage => stage.Carries edgeOf client event)
      ⟨rfl, mem_tail recent bound⟩))
  have kept {client' event : Nat} (was : OnTheWay edgeOf st crew client' event) : OnTheWay edgeOf st
      (Function.update crew id (some (l, .tail client st.tail))) client' event := by
    rcases was with was | was | was
    · exact .inl was
    · exact .inr (.inl was)
    · exact .inr (.inr (found_update (P := fun stage => stage.Carries edgeOf client' event) here was
        fun carries => carries.elim))
  have same_reading {client' : Nat} (other : client' ≠ client)
      (was : ∃ i q, crew i = some q ∧ q.2 = .reading client') :
      ∃ i q, Function.update crew id (some (l, .tail client st.tail)) i = some q ∧
        q.2 = .reading client' := by
    refine found_update (P := fun stage => stage = .reading client') here was fun is => ?_
    cases is
    exact absurd rfl other
  unfold ClientStore.readTail
  cases joins : st.joined client with
  | none =>
    refine ⟨fun client' j joined settled event old bound =>
      kept (inv.covered client' j joined settled event old bound), ?_⟩
    intro client' j joined unsettled
    refine same_reading ?_ (inv.reading client' j joined unsettled)
    rintro rfl
    rw [joins] at joined
    cases joined
  | some j₀ =>
    refine ⟨?_, ?_⟩
    · intro client' j joined settled event old bound
      by_cases same : client' = client
      · subst same
        dsimp only at joined
        rw [Function.update_self] at joined
        cases joined
        by_cases recent : st.events - tailLimit ≤ event
        · exact told recent bound _
        · -- older events are owed to a client that was settled before
          have was : j₀.settled = true := by
            by_contra unsettled
            have limit := reaches j₀ joins (by simpa using unsettled)
            dsimp only at old
            omega
          exact kept (inv.covered client' j₀ joins was event (by dsimp only at old; omega) bound)
      · dsimp only at joined
        rw [Function.update_of_ne same] at joined
        exact kept (inv.covered client' j joined settled event old bound)
    · intro client' j joined unsettled
      by_cases same : client' = client
      · subst same
        dsimp only at joined
        rw [Function.update_self] at joined
        cases joined
        cases unsettled
      · dsimp only at joined
        rw [Function.update_of_ne same] at joined
        exact same_reading same (inv.reading client' j joined unsettled)

/-- A new event is carried by the handler that has appended it. -/
theorem clientInv_append (inv : ClientInv edgeOf st crew) (here : crew id = some (l, .begun))
    (carries : ∀ client j, st.joined client = some j → j.settled = true →
      stage'.Carries edgeOf client st.events) :
    ClientInv edgeOf { st with events := st.events + 1 }
      (Function.update crew id (some (l, stage'))) := by
  refine ⟨?_, ?_⟩
  · intro client j joined settled event old bound
    by_cases new : event = st.events
    · subst new
      exact .inr (.inr (found_self (P := fun stage => stage.Carries edgeOf client st.events)
        (carries client j joined settled)))
    · have before : event < st.events := by
        dsimp only at bound
        omega
      rcases inv.covered client j joined settled event old before with was | was | was
      · exact .inl was
      · exact .inr (.inl was)
      · exact .inr (.inr (found_update (P := fun stage => stage.Carries edgeOf client event) here was
          fun carries => carries.elim))
  · intro client j joined unsettled
    exact found_update (P := fun stage => stage = .reading client) here
      (inv.reading client j joined unsettled) fun is => by cases is

theorem mem_sendLocal {client event event' : Nat} {edge : String}
    (was : event ∈ st.sent client) : event ∈ (st.sendLocal edgeOf edge event').sent client := by
  show event ∈ if _ then _ else _
  split
  · exact List.mem_append_left _ was
  · exact was

theorem sendLocal_mem {client event : Nat} {edge : String} {j : Joined} (on : edgeOf client = edge)
    (joined : st.joined client = some j) : event ∈ (st.sendLocal edgeOf edge event).sent client := by
  show event ∈ if _ then _ else _
  rw [if_pos ⟨on, by rw [joined]; rfl⟩]
  exact List.mem_append_right _ List.mem_cons_self

theorem clientInv_call (inv : ClientInv edgeOf st crew) (here : crew id = some (l, stage))
    {op : ClientOp} {choice : ClientChoice} {reply : op.Reply} (permitted : stage.permits op)
    (covered : CoveredOp edgeOf st op)
    (performed : performClient edgeOf st choice op = some (reply, st')) :
    ClientInv edgeOf st' (Function.update crew id (some (l, stage.observe op reply))) := by
  have unchanged (is : st' = st) (quiet : stage.observe op reply = stage) :
      ClientInv edgeOf st' (Function.update crew id (some (l, stage.observe op reply))) := by
    subst is
    rw [quiet]
    exact clientInv_pass inv here rfl rfl (fun _ _ mem => mem) (fun _ _ mem => mem)
      (fun _ _ _ _ _ carries => .inr (.inr ⟨_, rfl, carries⟩)) fun client => by
        by_cases is : stage = .reading client
        · exact .inr ⟨_, rfl, is⟩
        · exact .inl is
  cases op with
  | getAgentSessionById =>
    obtain ⟨-, rfl⟩ := Prod.mk.inj (Option.some.inj performed)
    exact unchanged rfl (by cases stage <;> rfl)
  | expire =>
    obtain ⟨-, rfl⟩ := Prod.mk.inj (Option.some.inj performed)
    exact unchanged rfl (by cases stage <;> rfl)
  | sadd edge =>
    obtain ⟨-, rfl⟩ := Prod.mk.inj (Option.some.inj performed)
    have quiet : stage.observe (.sadd edge) reply = stage := by cases stage <;> rfl
    rw [quiet]
    refine clientInv_pass inv here rfl rfl (fun _ _ mem => mem) (fun _ _ mem => mem)
      (fun _ _ _ _ _ carries => .inr (.inr ⟨_, rfl, carries⟩)) fun client => ?_
    by_cases is : stage = .reading client
    · exact .inr ⟨_, rfl, is⟩
    · exact .inl is
  | addClientToSession client =>
    obtain ⟨-, rfl⟩ := Prod.mk.inj (Option.some.inj performed)
    obtain rfl : stage = .begun := permitted
    exact clientInv_add inv here client
  | listAgentSessionEventsTail client =>
    obtain ⟨rfl, rfl⟩ := Prod.mk.inj (Option.some.inj performed)
    obtain rfl : stage = .reading client := permitted
    exact clientInv_tail inv here covered
  | sendTail client events =>
    obtain ⟨-, rfl⟩ := Prod.mk.inj (Option.some.inj performed)
    obtain rfl : stage = .tail client events := permitted
    have grows (client' event : Nat) (was : event ∈ st.sent client') :
        event ∈ (st.sendTo client events).sent client' := by
      by_cases same : client' = client
      · subst same
        exact (by simp [ClientStore.sendTo, was])
      · simpa [ClientStore.sendTo, Function.update_of_ne same] using was
    refine clientInv_pass inv here rfl rfl grows (fun _ _ mem => mem) ?_ fun _ => .inl nofun
    rintro client' j event - - ⟨rfl, mem⟩
    exact .inl (by simp [ClientStore.sendTo, mem])
  | appendAgentSessionEvent edge =>
    obtain rfl : stage = .begun := permitted
    simp only [performClient] at performed
    split at performed
    · -- the event was there before, and is only told again
      split at performed
      · obtain ⟨-, rfl⟩ := Prod.mk.inj (Option.some.inj performed)
        exact clientInv_pass inv here rfl rfl (fun _ _ mem => mem) (fun _ _ mem => mem)
          (fun _ _ _ _ _ carries => carries.elim) fun _ => .inl nofun
      · cases performed
    · obtain ⟨rfl, rfl⟩ := Prod.mk.inj (Option.some.inj performed)
      cases edge with
      | none => exact clientInv_append inv here fun _ _ _ _ => rfl
      | some edge =>
        exact clientInv_append inv here fun client j joined settled =>
          ⟨(covered client j joined settled).symm, rfl⟩
  | sendLocal edge event =>
    obtain ⟨-, rfl⟩ := Prod.mk.inj (Option.some.inj performed)
    obtain rfl : stage = .appended edge event := permitted
    refine clientInv_pass inv here rfl rfl (fun _ _ => mem_sendLocal) (fun _ _ mem => mem) ?_
      fun _ => .inl nofun
    rintro client j _ joined - ⟨rfl, rfl⟩
    exact .inl (sendLocal_mem rfl joined)
  | smembers =>
    obtain ⟨rfl, rfl⟩ := Prod.mk.inj (Option.some.inj performed)
    obtain ⟨event, rfl⟩ : ∃ event, stage = .telling event := permitted
    refine clientInv_pass inv here rfl rfl (fun _ _ mem => mem) (fun _ _ mem => mem) ?_
      fun _ => .inl nofun
    rintro client j _ joined settled rfl
    exact .inr (.inr ⟨_, rfl, rfl, covered client j joined settled⟩)
  | clientBroadcast edge event =>
    obtain ⟨-, rfl⟩ := Prod.mk.inj (Option.some.inj performed)
    obtain ⟨rest, rfl⟩ : ∃ rest, stage = .sending event (edge :: rest) := permitted
    have grows (edge' : String) (event' : Nat) (was : event' ∈ st.streams edge') :
        event' ∈ Function.update st.streams edge (st.streams edge ++ [event]) edge' := by
      by_cases same : edge' = edge
      · subst same
        rw [Function.update_self]
        exact List.mem_append_left _ was
      · rwa [Function.update_of_ne same]
    refine clientInv_pass inv here rfl rfl (fun _ _ mem => mem) grows ?_ fun _ => .inl nofun
    rintro client j _ - - ⟨rfl, mem⟩
    rcases List.mem_cons.mp mem with rfl | mem
    · refine .inr (.inl ?_)
      dsimp only
      rw [Function.update_self]
      exact List.mem_append_right _ List.mem_cons_self
    · exact .inr (.inr ⟨_, rfl, rfl, mem⟩)

theorem clientInv_tick (inv : ClientInv edgeOf st crew) {t : ClientTick}
    (ticked : tickClient edgeOf st t = some st') : ClientInv edgeOf st' crew := by
  cases t with
  | expireEdges =>
    obtain rfl := Option.some.inj ticked
    exact ⟨inv.covered, inv.reading⟩
  | leave client =>
    obtain rfl := Option.some.inj ticked
    have still {client' : Nat} {j : Joined}
        (joined : Function.update st.joined client none client' = some j) :
        st.joined client' = some j := by
      by_cases same : client' = client
      · subst same
        rw [Function.update_self] at joined
        cases joined
      · rwa [Function.update_of_ne same] at joined
    exact ⟨fun client' j joined => inv.covered client' j (still joined),
      fun client' j joined => inv.reading client' j (still joined)⟩
  | deliver edge =>
    simp only [tickClient] at ticked
    split at ticked
    · cases ticked
    · rename_i event rest streams
      obtain rfl := Option.some.inj ticked
      refine ⟨?_, inv.reading⟩
      intro client j joined settled event' old bound
      rcases inv.covered client j joined settled event' old bound with was | was | was
      · exact .inl (mem_sendLocal was)
      · by_cases same : edgeOf client = edge
        · rw [same, streams] at was
          rcases List.mem_cons.mp was with rfl | was
          · exact .inl (sendLocal_mem same joined)
          · refine .inr (.inl ?_)
            show event' ∈ Function.update st.streams edge rest (edgeOf client)
            rw [same, Function.update_self]
            exact was
        · refine .inr (.inl ?_)
          show event' ∈ Function.update st.streams edge rest (edgeOf client)
          rwa [Function.update_of_ne same]
      · exact .inr (.inr was)

theorem clientInv_launch (inv : ClientInv edgeOf st crew) (free : crew id = none) :
    ClientInv edgeOf st (Function.update crew id (some (l, .begun))) := by
  have still {P : ClientStage → Prop} (there : ∃ i q, crew i = some q ∧ P q.2) :
      ∃ i q, Function.update crew id (some (l, .begun)) i = some q ∧ P q.2 := by
    obtain ⟨i, q, found, holds⟩ := there
    have other : i ≠ id := by
      rintro rfl
      rw [free] at found
      cases found
    exact ⟨i, q, by rw [Function.update_of_ne other]; exact found, holds⟩
  refine ⟨?_, fun client j joined unsettled => ?_⟩
  · intro client j joined settled event old bound
    rcases inv.covered client j joined settled event old bound with was | was | was
    · exact .inl was
    · exact .inr (.inl was)
    · exact .inr (.inr (@still (fun stage => stage.Carries edgeOf client event) was))
  · exact @still (fun stage => stage = .reading client) (inv.reading client j joined unsettled)

theorem carries_owing {client event : Nat} (carries : stage.Carries edgeOf client event) :
    stage.Owing := by
  cases stage with
  | begun => exact carries
  | sending event' edges =>
    intro none_left
    subst none_left
    cases carries.2
  | _ => trivial

theorem clientInv_finish (inv : ClientInv edgeOf st crew) (here : crew id = some (l, stage))
    (ended : ¬stage.Owing) : ClientInv edgeOf st (Function.update crew id none) := by
  refine clientInv_pass inv here rfl rfl (fun _ _ mem => mem) (fun _ _ mem => mem)
    (fun _ _ _ _ _ carries => (ended (carries_owing carries)).elim) fun client => .inl ?_
  rintro rfl
  exact ended trivial

end step

theorem clientInv_empty (edgeOf : Nat → String) : ClientInv edgeOf .empty fun _ => none where
  covered _ _ joined := by cases joined
  reading _ _ joined := by cases joined

theorem clientInv_step {edgeOf : Nat → String} {s t : (clientSystem edgeOf).State}
    {a : (clientSystem edgeOf).Action} (all : (clientCertified edgeOf).AllFollow s)
    (inv : ClientInv edgeOf s.store ((clientCertified edgeOf).crew s)) (covered : Covered edgeOf s a)
    (stepped : System.Stepped s a t) :
    ClientInv edgeOf t.store ((clientCertified edgeOf).crew t) := by
  have happened := Certified.happened all stepped
  generalize (clientCertified edgeOf).crew t = crew at happened ⊢
  generalize t.store = store at happened ⊢
  cases happened with
  | launch free launched =>
    obtain rfl := Option.some.inj launched
    exact clientInv_launch inv free
  | call here issues permitted performed =>
    exact clientInv_call inv here permitted (covered _ issues) performed
  | loop => exact inv
  | finish here ended => exact clientInv_finish inv here ended
  | tick ticked => exact clientInv_tick inv ticked

theorem clientInv_run {edgeOf : Nat → String} {s : (clientSystem edgeOf).State}
    (run : System.Steps (Covered edgeOf) (noClients edgeOf) s) :
    ClientInv edgeOf s.store ((clientCertified edgeOf).crew s) :=
  ((clientCertified edgeOf).invariant
    (fun s => ClientInv edgeOf s.store ((clientCertified edgeOf).crew s)) (fun _ => rfl)
    (clientInv_empty edgeOf)
    (fun _ _ _ all inv covered stepped => clientInv_step all inv covered stepped) run).2

/-- Once nothing is under way to it, a joined client has been sent all events since its join was
acknowledged and the last ones its tail had. -/
theorem clients_see_events {edgeOf : Nat → String} {s : (clientSystem edgeOf).State}
    (run : System.Steps (Covered edgeOf) (noClients edgeOf) s)
    (idle : ∀ id, s.process id = none) (client : Nat) (j : Joined)
    (joined : s.store.joined client = some j) (drained : s.store.streams (edgeOf client) = []) :
    j.settled = true ∧
      ∀ event, j.oldest ≤ event → event < s.store.events → event ∈ s.store.sent client := by
  have inv := clientInv_run run
  have nobody (id : Nat) : (clientCertified edgeOf).crew s id = none := by
    simp [Certified.crew, idle id]
  have settled : j.settled = true := by
    by_contra unsettled
    obtain ⟨id, q, found, -⟩ := inv.reading client j joined (by simpa using unsettled)
    rw [nobody] at found
    cases found
  refine ⟨settled, fun event old bound => ?_⟩
  rcases inv.covered client j joined settled event old bound with was | was | ⟨id, q, found, -⟩
  · exact was
  · rw [drained] at was
    cases was
  · rw [nobody] at found
    cases found

/-! ### A client on another edge -/

namespace Sample

def answered : ClientChoice := { found := true, existing := none }

variable (edgeOf : Nat → String)

/-- A client of edge b joins. -/
def joins : List (clientSystem edgeOf).Action :=
  [.launch 0 (.join 1)] ++ List.replicate 6 (.call 0 answered) ++ [.finish 0]

/-- A brain appends an event, and edge b takes it off its stream. -/
def told : List (clientSystem edgeOf).Action :=
  [.launch 0 .brain, .call 0 answered, .call 0 answered, .call 0 answered, .finish 0,
    .tick (.deliver "b")]

/-- A client of edge a sends a message to the session. -/
def sends : List (clientSystem edgeOf).Action :=
  [.launch 0 (.sessionSend "a"), .call 0 answered, .call 0 answered, .call 0 answered, .finish 0]

end Sample

def OnEdgeB (st : ClientStore) : ClientOp → Bool
  | .smembers => "b" ∈ st.edges
  | .appendAgentSessionEvent (some edge) => edge = "b"
  | .listAgentSessionEventsTail _ => st.events ≤ tailLimit
  | _ => true

theorem covered_of_onEdgeB {s : (clientSystem fun _ => "b").State}
    {a : (clientSystem fun _ => "b").Action}
    (all : (clientCertified fun _ => "b").Performing (fun _ op => OnEdgeB s.store op = true) s a) :
    Covered (fun _ => "b") s a := by
  rintro ⟨stage, op⟩ issues
  have on : OnEdgeB s.store op = true := all _ issues
  cases op with
  | smembers => exact fun _ _ _ _ => of_decide_eq_true on
  | appendAgentSessionEvent edge =>
    cases edge with
    | none => trivial
    | some edge => exact fun _ _ _ _ => (of_decide_eq_true on).symm
  | listAgentSessionEventsTail client =>
    exact fun j _ _ => Nat.le_add_left_of_le (of_decide_eq_true on)
  | _ => trivial

theorem clients_see_events_told : ∃ s : (clientSystem fun _ => "b").State,
    s.store.joined 1 = some { oldest := 0, settled := true } ∧ s.store.events = 1 ∧
      0 ∈ s.store.sent 1 := by
  have ran : (System.exec (fun s a => (clientCertified fun _ => "b").Performing
      (fun _ op => OnEdgeB s.store op = true) s a) (noClients fun _ => "b")
        (Sample.joins _ ++ Sample.told _)).any (fun s =>
      s.store.joined 1 = some { oldest := 0, settled := true } && s.store.events = 1 &&
        s.store.streams "b" = [] && (s.process 0).isNone) := by decide +kernel
  obtain ⟨s, run, facts⟩ := (Option.any_eq_true _ _).mp ran
  simp only [Bool.and_eq_true, decide_eq_true_eq, Option.isNone_iff_eq_none] at facts
  obtain ⟨⟨⟨joined, events⟩, drained⟩, ended⟩ := facts
  have idle := System.idle_of_exec 1 (fun _ => rfl) (by decide) run (by simpa using ended)
  have steps := (System.steps_of_exec run).mono fun _ _ => covered_of_onEdgeB
  have seen := (clients_see_events steps idle 1 _ joined drained).2 0 (Nat.zero_le _)
    (by rw [events]; decide)
  exact ⟨s, joined, events, seen⟩

/-- What a client sends on one edge is not sent to the clients of another. -/
theorem client_misses_event : ¬∀ (edgeOf : Nat → String) (s : (clientSystem edgeOf).State),
    System.Steps (fun _ _ => True) (noClients edgeOf) s → (∀ id, s.process id = none) →
      ∀ client j, s.store.joined client = some j → s.store.streams (edgeOf client) = [] →
        ∀ event, j.oldest ≤ event → event < s.store.events → event ∈ s.store.sent client := by
  intro seen
  let edgeOf : Nat → String := fun client => if client = 0 then "a" else "b"
  have ran : (System.exec (fun _ _ => True) (noClients edgeOf)
      (Sample.joins edgeOf ++ Sample.sends edgeOf)).any (fun s =>
      s.store.joined 1 = some { oldest := 0, settled := true } && s.store.events = 1 &&
        s.store.streams "b" = [] && s.store.sent 1 = [] && (s.process 0).isNone) := by
    decide +kernel
  obtain ⟨s, run, facts⟩ := (Option.any_eq_true _ _).mp ran
  simp only [Bool.and_eq_true, decide_eq_true_eq, Option.isNone_iff_eq_none] at facts
  obtain ⟨⟨⟨⟨joined, events⟩, drained⟩, nothing⟩, ended⟩ := facts
  have idle := System.idle_of_exec 1 (fun _ => rfl) (by decide) run (by simpa using ended)
  have sent := seen edgeOf s (System.steps_of_exec run) idle 1 _ joined drained 0 (Nat.zero_le _)
    (by rw [events]; decide)
  rw [nothing] at sent
  cases sent

end Vespid.Edge
