import Vespid.Brain.Turns
import Vespid.Edge.Isolation

/-!
# The events of a turn

What an executor tells of a turn while it runs goes onto the stream to the brains; the reply to
the turn does not. A brain handles what it has read one record after the other, and waits for the
reply while it is at the send. So it is the stream's order that its log keeps.
-/

namespace Vespid.Brain.TurnEvents

open Interleaving NodeAgent Edge

/-- `session_turn_event`, as the edge makes it of a `turn_event` or a `turn_delta`. -/
structure TurnEvent where
  requestId : String
  organizationId : String
  sessionId : String
  event : RemoteExecutionEvent

namespace TurnEvent
variable (e : TurnEvent)

def streamKind : SessionStreamKind := normalizeSessionStreamKind e.event.kind

def streamMessage : SessionEffect :=
  .stream e.sessionId e.requestId e.event.seq e.streamKind (normalizeEventLevel e.event.level)
    e.event.message e.event.payload e.event.ts

def row (eventType : String) : SessionEffect :=
  .append e.organizationId e.sessionId eventType
    (if e.streamKind = .turnCanceled then "info" else normalizeEventLevel e.event.level)
    ("stream:" ++ e.requestId ++ ":" ++ e.streamKind.name ++ ":" ++ toString e.event.seq)
    (if e.streamKind = .turnCanceled then some "session_turn_canceled" else none) e.requestId
    e.event

/-- What a brain is to make of it. -/
def effects (sessionStreamV1Enabled : Bool) : List SessionEffect :=
  handleReport sessionStreamV1Enabled
    (.sessionTurnEvent e.requestId e.organizationId e.sessionId e.event)

theorem effects_enabled : e.effects true =
    e.streamMessage :: (persistedType e.streamKind).toList.map e.row := rfl

end TurnEvent

inductive StreamMessage where
  | request (request : EdgeToBrainRequest)
  | sessionTurnEvent (event : TurnEvent)

/-- A record of the stream; `id` is its place. -/
structure StreamRecord where
  id : Nat
  message : StreamMessage

/-! ### Operations -/

/-- Each with the record it is for. -/
inductive StreamOp where
  | xreadGroup
  | brain (id : Nat) (op : BrainOp)
  | broadcastRaw (id : Nat) (message : SessionEffect)
  | appendEvent (id : Nat) (row : SessionEffect)
  | broadcastRow (id : Nat) (row : SessionEffect)
  | xack (id : Nat)

abbrev StreamOp.Reply : StreamOp → Type
  | xreadGroup => List StreamRecord
  | brain _ op => op.Reply
  | broadcastRaw .. | appendEvent .. | broadcastRow .. | xack _ => Unit

abbrev StreamOps : Interface where
  Op := StreamOp
  Reply := StreamOp.Reply

abbrev StreamProgram := Program StreamOps

abbrev ask (op : StreamOp) : StreamProgram op.Reply := Program.issue (I := StreamOps) op

structure StreamEnv where
  brain : BrainEnv
  sessionStreamV1Enabled : Bool

/-- A brain's program for a record. -/
def during {α : Type} (id : Nat) : BrainProgram α → StreamProgram α
  | .done value => .done value
  | .call op next => .call (I := StreamOps) (.brain id op) fun reply => during id (next reply)

def handleSessionTurnEvent (env : StreamEnv) (id : Nat) (msg : TurnEvent) : StreamProgram Unit :=
  if !env.sessionStreamV1Enabled then return ()
  else do
    ask (.broadcastRaw id msg.streamMessage)
    match persistedType msg.streamKind with
    | none => return ()
    | some eventType =>
      ask (.appendEvent id (msg.row eventType))
      ask (.broadcastRow id (msg.row eventType))

def handleRecord (env : StreamEnv) (record : StreamRecord) : StreamProgram Unit :=
  match record.message with
  | .request request => during record.id (handleRequest env.brain request)
  | .sessionTurnEvent msg => handleSessionTurnEvent env record.id msg

def handleRecords (env : StreamEnv) : List StreamRecord → StreamProgram Unit
  | [] => return ()
  | record :: rest => do
    handleRecord env record
    ask (.xack record.id)
    handleRecords env rest

/-- One turn of the brain's loop, which goes on. -/
def streamRound (env : StreamEnv) : StreamProgram (Unit ⊕ Empty) := do
  let records ← ask .xreadGroup
  handleRecords env records
  return .inl ()

/-! ### The stream -/

/-- What was put on the stream and how much of it has been read; of the events of turns, those
sent before the reply to their turn. -/
structure StreamStore where
  brains : SessionStore
  stream : List StreamMessage
  delivered : Nat
  early : List Nat

namespace StreamStore

def empty : StreamStore := { brains := .empty, stream := [], delivered := 0, early := [] }

variable (st : StreamStore)

/-- Whether it is an event of a turn that has had no reply. -/
def isEarly : StreamMessage → Bool
  | .sessionTurnEvent e => e.requestId ∉ st.brains.replied
  | .request _ => false

def post (message : StreamMessage) : StreamStore :=
  { st with
    stream := st.stream ++ [message]
    early := if st.isEarly message then st.stream.length :: st.early else st.early }

/-- The next records, at most `count` of them. -/
def batch (count : Nat) : List StreamRecord :=
  ((st.stream.zipIdx.drop st.delivered).take count).map fun entry =>
    { id := entry.2, message := entry.1 }

def deliver (count : Nat) : StreamStore :=
  { st with delivered := st.delivered + (st.batch count).length }

end StreamStore

inductive StreamTick where
  | post (message : StreamMessage)
  /-- Whatever else happens to the executors and the locks. -/
  | session (tick : SessionTick)

structure StreamChoice where
  count : Nat
  brain : (op : BrainOp) → op.Reply

def performStream (maxTurns : String → Nat) (st : StreamStore) (choice : StreamChoice) :
    (op : StreamOp) → Option (op.Reply × StreamStore)
  | .xreadGroup => some (st.batch (min 25 choice.count), st.deliver (min 25 choice.count))
  | .brain _ op => (performSession maxTurns op st.brains choice.brain).map fun (reply, brains) =>
      (reply, { st with brains })
  | .broadcastRaw .. | .appendEvent .. | .broadcastRow .. | .xack _ => some ((), st)

/-- Any number of brains. -/
abbrev streamSystem (maxTurns : String → Nat) : System StreamOps where
  Store := StreamStore
  Launch := StreamEnv
  Loop := Unit
  Outcome := Empty
  Choice := StreamChoice
  Tick := StreamTick
  perform op st choice := performStream maxTurns st choice op
  launch _ st := some st
  entry env := streamRound env
  body env _ := streamRound env
  finish _ outcome _ := nomatch outcome
  tick t st := match t with
    | .post message => some (st.post message)
    | .session tick => (sessionTick st.brains tick).map fun brains => { st with brains }

def noStream (maxTurns : String → Nat) : (streamSystem maxTurns).State :=
  { store := .empty, process := fun _ => none }

/-! ### What a brain has done -/

/-- What a brain does about a record: its effects if it is an event; the outcome it appends for a
send, and what keeps it from appending one. -/
inductive Deed where
  | effect (effect : SessionEffect)
  | outcome (requester : String) (event : SessionEvent)
  | excused

def isOutcome : SessionEvent → Bool
  | .error .. | .sessionTurnCanceled _ | .agentFinal _ => true
  | _ => false

/-- The lock is taken, the session is not found or its active turn is found canceled. -/
def deed? : (op : BrainOp) → op.Reply → Option Deed
  | .appendAgentSessionEvent requester _ event, _ =>
    if isOutcome event then some (.outcome requester event) else none
  | .setSessionBrain .., (lockOk : Bool) => if lockOk then none else some .excused
  | .getAgentSessionById .., (session : Option AgentSession) =>
    if session.isNone then some .excused else none
  | .getActiveTurn .., (current : Option ActiveSessionTurn) =>
    if current.any (·.canceled) then some .excused else none
  | _, _ => none

def done? : Event StreamOps → Option (Nat × Deed)
  | ⟨.brain id op, reply⟩ => (deed? op reply).map fun deed => (id, deed)
  | ⟨.broadcastRaw id message, _⟩ => some (id, .effect message)
  | ⟨.appendEvent id row, _⟩ => some (id, .effect row)
  | _ => none

/-- The records a brain has read. -/
def read? : Event StreamOps → List StreamRecord
  | ⟨.xreadGroup, batch⟩ => batch
  | _ => []

/-- The requests for which an outcome is appended. -/
def outcomes (deeds : List Deed) : List String :=
  deeds.filterMap fun deed => match deed with
    | .outcome requester _ => some requester
    | _ => none

/-- What is done about a record: a send gets one outcome, or none if it is excused; another request
gets none; an event has its effects. -/
def Complete (env : StreamEnv) (message : StreamMessage) (deeds : List Deed) : Prop :=
  match message with
  | .request (.sessionSend msg) =>
    outcomes deeds = [msg.requestId] ∨ (outcomes deeds = [] ∧ .excused ∈ deeds)
  | .request _ => outcomes deeds = []
  | .sessionTurnEvent e => deeds = (e.effects env.sessionStreamV1Enabled).map .effect

/-- What has been done so far about a record. -/
def Begun (message : StreamMessage) (deeds : List Deed) : Prop :=
  match message with
  | .request (.sessionSend msg) => outcomes deeds = [msg.requestId] ∨ outcomes deeds = []
  | .request _ => outcomes deeds = []
  | .sessionTurnEvent e => deeds <+: (e.effects true).map .effect

/-! ### The outcome of a send -/

/-- An outcome is appended for the request at hand, and once. -/
def requestProtocol (request : EdgeToBrainRequest) : Protocol BrainOps (List Deed) where
  permits here op := match op with
    | .appendAgentSessionEvent requester _ event => isOutcome event = true →
        (∃ msg, request.send? = some msg ∧ requester = msg.requestId) ∧ outcomes here = []
    | _ => True
  expects _ _ := True
  observe here op reply := here ++ (deed? op reply).toList

/-- Anything but appending an outcome. -/
def plain : BrainOp → Prop
  | .appendAgentSessionEvent _ _ event => isOutcome event = false
  | _ => True

section handlers
variable {request : EdgeToBrainRequest} {msg : SessionSend} {here : List Deed}

theorem outcomes_append (first rest : List Deed) :
    outcomes (first ++ rest) = outcomes first ++ outcomes rest := List.filterMap_append

theorem permits_plain {op : BrainOp} (is : plain op) :
    (requestProtocol request).permits here op := by
  cases op with
  | appendAgentSessionEvent requester sessionId event =>
    intro outcome
    rw [show isOutcome event = false from is] at outcome
    cases outcome
  | _ => trivial

theorem outcomes_plain {op : BrainOp} (is : plain op) (reply : op.Reply) :
    outcomes (deed? op reply).toList = [] := by
  cases op with
  | appendAgentSessionEvent requester sessionId event =>
    show outcomes (if isOutcome event then some (Deed.outcome requester event)
      else none).toList = []
    rw [show isOutcome event = false from is]
    rfl
  | setSessionBrain sessionId brainId => cases reply <;> rfl
  | getAgentSessionById organizationId sessionId => cases reply <;> rfl
  | getActiveTurn brainId sessionId =>
    unfold deed?
    dsimp only
    split <;> rfl
  | _ => rfl

/-- What a plain program leaves of the deeds. -/
def Kept (here after : List Deed) : Prop := outcomes after = outcomes here ∧ here ⊆ after

theorem kept_observe {before : List Deed} {op : BrainOp} (kept : Kept here before) (is : plain op)
    (reply : op.Reply) : Kept here ((requestProtocol request).observe before op reply) := by
  refine ⟨?_, fun deed mem => List.mem_append_left _ (kept.2 mem)⟩
  show outcomes (before ++ (deed? op reply).toList) = outcomes here
  rw [outcomes_append, outcomes_plain is, List.append_nil, kept.1]

theorem wp_plain {α : Type} {p : BrainProgram α} (only : p.Only plain) :
    p.wp (requestProtocol request) (fun _ after => Kept here after) here := by
  apply Program.wp_of_only (Kept here) only
  · intro g op _ is
    exact permits_plain is
  · intro g op reply kept is
    exact kept_observe kept is reply
  · exact ⟨rfl, List.Subset.refl _⟩

theorem plain_of_selecting {op : BrainOp} (part : selecting op) : plain op := by
  unfold selecting at part
  split at part <;> first | exact False.elim part | trivial

theorem plain_of_pinning {op : BrainOp} (part : pinning op) : plain op := by
  unfold pinning at part
  split at part <;> first | exact False.elim part | trivial

theorem plain_of_forgetting {op : BrainOp} (part : forgetting op) : plain op := by
  unfold forgetting at part
  split at part <;> first | exact False.elim part | trivial

theorem plain_of_releasing {op : BrainOp} (part : releasing op) : plain op := by
  unfold releasing at part
  split at part <;> first | exact False.elim part | trivial

theorem plain_of_canceling {op : BrainOp} (part : canceling op) : plain op := by
  unfold canceling at part
  split at part <;> first | exact False.elim part | trivial

/-- A send's outcome, or the excuse for having none. -/
def Answered (msg : SessionSend) (deeds : List Deed) : Prop :=
  outcomes deeds = [msg.requestId] ∨ (outcomes deeds = [] ∧ .excused ∈ deeds)

/-- The program answers the send wherever it has no outcome yet. -/
def Answers {α : Type} (msg : SessionSend) (p : BrainProgram α) : Prop :=
  ∀ here, outcomes here = [] →
    p.wp (requestProtocol (.sessionSend msg)) (fun _ after => Answered msg after) here

theorem answered_kept {after : List Deed} (answered : Answered msg here) (kept : Kept here after) :
    Answered msg after := by
  obtain one | ⟨none_, excused⟩ := answered
  · exact .inl (kept.1.trans one)
  · exact .inr ⟨kept.1.trans none_, kept.2 excused⟩

theorem answers_tell {event : SessionEvent} (outcome : isOutcome event = true) :
    Answers msg
      (await (.appendAgentSessionEvent msg.requestId msg.sessionId event) : BrainProgram Unit) := by
  intro here none_
  refine ⟨fun _ => ⟨⟨msg, rfl, rfl⟩, none_⟩, fun reply _ => .inl ?_⟩
  show outcomes (here ++ (if isOutcome event then
    some (Deed.outcome msg.requestId event) else none).toList) = [msg.requestId]
  rw [outcomes_append, none_, outcome]
  rfl

theorem answers_call {α : Type} {op : BrainOp} {next : op.Reply → BrainProgram α} (is : plain op)
    (rest : ∀ reply, Answers msg (next reply)) :
    Answers msg (Program.call (I := BrainOps) op next) := by
  intro here none_
  refine ⟨permits_plain is, fun reply _ => rest reply _ ?_⟩
  show outcomes (here ++ (deed? op reply).toList) = []
  rw [outcomes_append, outcomes_plain is, none_, List.append_nil]

theorem answers_after {α β : Type} {p : BrainProgram α} {f : α → BrainProgram β}
    (first : p.Only plain) (rest : ∀ a, Answers msg (f a)) : Answers msg (p >>= f) := by
  intro here none_
  refine Program.wp_seq (wp_plain first) fun a after kept => ?_
  exact rest a after (kept.1.trans none_)

theorem answers_then {α β : Type} {p : BrainProgram α} {f : α → BrainProgram β}
    (first : Answers msg p) (rest : ∀ a, (f a).Only plain) : Answers msg (p >>= f) := by
  intro here none_
  refine Program.wp_seq (first here none_) fun a after answered => ?_
  exact Program.wp_mono (fun _ _ kept => answered_kept answered kept) (wp_plain (rest a))

theorem settleTurn_answers (env : BrainEnv) (msg : SessionSend) (reply : TurnReply) :
    Answers msg (settleTurn env msg reply) := by
  intro here none_
  simp only [settleTurn, await, Program.issue_eq, Program.call_bind, Program.done_bind]
  refine ⟨trivial, fun current _ => ?_⟩
  have still : outcomes (here ++
      (deed? (.getActiveTurn env.brainId msg.sessionId) current).toList) = [] := by
    rw [outcomes_append, outcomes_plain (by trivial), none_, List.append_nil]
  cases reply.status with
  | failed =>
    dsimp only
    split
    · exact answers_tell rfl _ still
    · exact answers_tell rfl _ still
  | succeeded =>
    dsimp only
    split
    · next canceled =>
      refine .inr ⟨still, List.mem_append_right _ ?_⟩
      have seen : Option.any (·.canceled) current = true := by
        cases current with
        | none => cases canceled
        | some turn => exact (Bool.and_eq_true_iff.mp canceled).2
      unfold deed?
      dsimp only
      rw [if_pos seen]
      exact List.mem_singleton_self _
    · refine answers_call (by trivial) (fun _ => ?_) _ still
      exact answers_tell rfl

theorem runOnExecutor_answers (env : BrainEnv) (msg : SessionSend) (session : AgentSession)
    (executor : SelectedExecutor) : Answers msg (runOnExecutor env msg session executor) := by
  refine answers_call (by trivial) fun _ => answers_call (by trivial) fun opened => ?_
  show Answers msg (if !Option.any (·.ok) opened then _ else _)
  split
  · exact answers_tell rfl
  · refine answers_call (by trivial) fun _ => answers_call (by trivial) fun _ =>
      answers_call (by trivial) fun reply => ?_
    match reply with
    | none => exact answers_tell rfl
    | some reply => exact settleTurn_answers env msg reply

theorem turnOnExecutor_answers (env : BrainEnv) (msg : SessionSend) (session : AgentSession)
    (executor : SelectedExecutor) : Answers msg (turnOnExecutor env msg session executor) := by
  refine answers_after (Program.only_mono (fun _ => plain_of_pinning)
    (persistPin_pinning msg session executor)) fun persisted => ?_
  split
  · exact answers_tell rfl
  · split
    · exact answers_tell rfl
    · exact runOnExecutor_answers env msg persisted executor

theorem trySessionSend_answers (env : BrainEnv) (msg : SessionSend) :
    Answers msg (trySessionSend env msg) := by
  intro here none_
  refine ⟨trivial, fun session _ => ?_⟩
  match session with
  | none =>
    refine .inr ⟨?_, List.mem_append_right _ (List.mem_singleton_self _)⟩
    show outcomes (here ++ _) = []
    rw [outcomes_append, none_]
    rfl
  | some session =>
    have still : outcomes (here ++ []) = [] := by rw [List.append_nil, none_]
    refine answers_call (by trivial) (fun orgMaxInFlight => ?_) (here ++ []) still
    show Answers msg (if sessionEngineId session ∉ gatewayEngines then _ else _)
    split
    · exact answers_then (answers_tell rfl) fun _ => trivial
    · refine answers_after (Program.only_mono (fun _ => plain_of_selecting)
        (selectForSession_selecting ..)) fun selected => ?_
      cases selected with
      | error failure => exact answers_then (answers_tell rfl) fun _ => trivial
      | ok executor =>
        exact answers_then (turnOnExecutor_answers env msg session executor) fun _ => trivial

theorem handleSessionSend_answers (env : BrainEnv) (msg : SessionSend) :
    Answers msg (handleSessionSend env msg) := by
  intro here none_
  refine ⟨trivial, fun lockOk _ => ?_⟩
  cases lockOk with
  | false =>
    refine .inr ⟨?_, List.mem_append_right _ (List.mem_singleton_self _)⟩
    show outcomes (here ++ _) = []
    rw [outcomes_append, none_]
    rfl
  | true =>
    have still : outcomes (here ++ []) = [] := by rw [List.append_nil, none_]
    refine answers_then (trySessionSend_answers env msg) (fun selected => ?_) (here ++ []) still
    refine Program.only_bind (Program.only_mono (fun _ => plain_of_forgetting)
      (forgetTurn_forgetting env msg)) fun _ => ?_
    refine Program.only_bind (Program.only_mono (fun _ => plain_of_releasing)
      (releaseSelected_releasing msg selected)) fun _ => ?_
    exact ⟨trivial, fun _ => trivial⟩

/-- A request is handled with one outcome or an excuse if it is a send, and with none otherwise. -/
theorem handleRequest_completes (env : StreamEnv) (request : EdgeToBrainRequest) :
    (handleRequest env.brain request).wp (requestProtocol request)
      (fun _ after => Complete env (.request request) after) [] := by
  cases request with
  | sessionSend msg => exact handleSessionSend_answers env.brain msg [] rfl
  | sessionCancel msg =>
    refine Program.wp_mono (fun _ _ kept => ?_) (wp_plain (Program.only_mono
      (fun _ => plain_of_canceling) (handleSessionCancel_canceling env.brain msg)))
    exact kept.1
  | other => exact ⟨trivial, fun _ _ => rfl⟩

end handlers

/-! ### What a brain knows -/

/-- The records a brain is done with and what it did about each, those it has still to handle, and
what it has done about the first of these. -/
structure BrainView where
  env : StreamEnv
  past : List (StreamRecord × List Deed)
  pending : List StreamRecord
  here : List Deed

namespace BrainView
variable (v : BrainView)

def permits : StreamOp → Prop
  | .xreadGroup => v.pending = []
  | .brain id op => ∃ head rest request, v.pending = head :: rest ∧ head.id = id ∧
      head.message = .request request ∧ (requestProtocol request).permits v.here op
  | .broadcastRaw id message => ∃ head rest e, v.pending = head :: rest ∧ head.id = id ∧
      head.message = .sessionTurnEvent e ∧ message = e.streamMessage ∧ v.here = []
  | .appendEvent id row => ∃ head rest e type, v.pending = head :: rest ∧ head.id = id ∧
      head.message = .sessionTurnEvent e ∧ persistedType e.streamKind = some type ∧
      row = e.row type ∧ v.here = [.effect e.streamMessage]
  | .broadcastRow .. => True
  | .xack id => ∃ head rest, v.pending = head :: rest ∧ head.id = id ∧
      Complete v.env head.message v.here

def acked : BrainView :=
  match v.pending with
  | [] => v
  | head :: rest => { v with past := v.past ++ [(head, v.here)], pending := rest, here := [] }

def observe : (op : StreamOp) → op.Reply → BrainView
  | .xreadGroup, (batch : List StreamRecord) => { v with pending := v.pending ++ batch }
  | .brain _ op, reply => { v with here := v.here ++ (deed? op reply).toList }
  | .broadcastRaw _ message, _ => { v with here := v.here ++ [.effect message] }
  | .appendEvent _ row, _ => { v with here := v.here ++ [.effect row] }
  | .broadcastRow .., _ => v
  | .xack _, _ => v.acked

/-- What was done about the record at hand. -/
def current : List (Nat × Deed) :=
  match v.pending with
  | [] => []
  | head :: _ => v.here.map fun deed => (head.id, deed)

def deeds : List (Nat × Deed) :=
  v.past.flatMap (fun entry => entry.2.map fun deed => (entry.1.id, deed)) ++ v.current

def read : List StreamRecord := v.past.map (·.1) ++ v.pending

end BrainView

def streamProtocol : Protocol StreamOps BrainView where
  permits := BrainView.permits
  expects _ _ := True
  observe := BrainView.observe

def ready (env : StreamEnv) : BrainView := { env, past := [], pending := [], here := [] }

section programs
variable {v : BrainView} {env : StreamEnv} {record : StreamRecord} {rest : List StreamRecord}

theorem wp_during {α : Type} {request : EdgeToBrainRequest} {post : α → List Deed → Prop}
    {p : BrainProgram α} (pending : v.pending = record :: rest)
    (message : record.message = .request request)
    (follows : p.wp (requestProtocol request) post v.here) :
    (during record.id p).wp streamProtocol (fun value after =>
      ∃ here, after = { v with here } ∧ post value here) v := by
  induction p generalizing v with
  | done value => exact ⟨v.here, rfl, follows⟩
  | call op next ih =>
    refine ⟨⟨record, rest, request, pending, rfl, message, follows.1⟩, fun reply _ => ?_⟩
    refine Program.wp_mono ?_ (ih reply pending (follows.2 reply trivial))
    rintro value after ⟨here, rfl, holds⟩
    exact ⟨here, rfl, holds⟩

theorem handleSessionTurnEvent_completes {e : TurnEvent} (pending : v.pending = record :: rest)
    (message : record.message = .sessionTurnEvent e) (fresh : v.here = []) :
    (handleSessionTurnEvent v.env record.id e).wp streamProtocol (fun _ after =>
      ∃ here, after = { v with here } ∧ Complete v.env (.sessionTurnEvent e) here) v := by
  unfold handleSessionTurnEvent Complete
  cases enabled : v.env.sessionStreamV1Enabled with
  | false => exact ⟨v.here, rfl, fresh⟩
  | true =>
    refine ⟨⟨record, rest, e, pending, rfl, message, rfl, fresh⟩, fun _ _ => ?_⟩
    show Program.wp _ _ (match persistedType e.streamKind with
      | none => _
      | some eventType => _) _
    cases type : persistedType e.streamKind with
    | none =>
      refine ⟨_, rfl, ?_⟩
      show v.here ++ [_] = (e.effects true).map _
      rw [fresh, e.effects_enabled, type]
      rfl
    | some eventType =>
      refine ⟨⟨record, rest, e, eventType, pending, rfl, message, type, rfl, ?_⟩, fun _ _ => ?_⟩
      · show v.here ++ [_] = _
        rw [fresh]
        rfl
      · refine ⟨trivial, fun _ _ => ⟨_, rfl, ?_⟩⟩
        show v.here ++ [_] ++ [_] = (e.effects true).map _
        rw [fresh, e.effects_enabled, type]
        rfl

theorem handleRecord_completes (pending : v.pending = record :: rest) (fresh : v.here = []) :
    (handleRecord v.env record).wp streamProtocol (fun _ after =>
      ∃ here, after = { v with here } ∧ Complete v.env record.message here) v := by
  unfold handleRecord
  split
  · next request message =>
    rw [message]
    apply wp_during pending message
    rw [fresh]
    exact handleRequest_completes v.env request
  · next e message =>
    rw [message]
    exact handleSessionTurnEvent_completes pending message fresh

theorem handleRecords_follows (records : List StreamRecord) (is : v.env = env)
    (pending : v.pending = records) (fresh : v.here = []) :
    (handleRecords env records).wp streamProtocol
      (fun _ after => after.env = env ∧ after.pending = [] ∧ after.here = []) v := by
  induction records generalizing v with
  | nil => exact ⟨is, pending, fresh⟩
  | cons record rest ih =>
    subst is
    refine Program.wp_seq (handleRecord_completes pending fresh) ?_
    rintro _ _ ⟨here, rfl, complete⟩
    refine ⟨⟨record, rest, pending, rfl, complete⟩, fun _ _ => ?_⟩
    show Program.wp _ _ (handleRecords v.env rest) (BrainView.acked { v with here })
    have acked : BrainView.acked { v with here } =
        { v with past := v.past ++ [(record, here)], pending := rest, here := [] } := by
      unfold BrainView.acked
      rw [pending]
    rw [acked]
    exact ih rfl rfl rfl

theorem streamRound_follows (here : v.env = env) (pending : v.pending = []) (fresh : v.here = []) :
    (streamRound env).wp streamProtocol (fun value after => value = .inl () ∧
      after.env = env ∧ after.pending = [] ∧ after.here = []) v := by
  subst here
  refine ⟨pending, fun records _ => ?_⟩
  show Program.wp _ _ (handleRecords v.env records >>= fun _ => pure (Sum.inl ()))
    (v.observe .xreadGroup records)
  refine Program.wp_seq (handleRecords_follows records rfl ?_ fresh) ?_
  · show v.pending ++ records = records
    rw [pending, List.nil_append]
  · rintro _ after ended
    exact ⟨rfl, ended⟩

end programs

def streamCertified (maxTurns : String → Nat) :
    Certified (streamSystem maxTurns) streamProtocol where
  start := ready
  looping env _ v := v.env = env ∧ v.pending = [] ∧ v.here = []
  ended _ outcome _ := nomatch outcome
  entry_follows env := by
    refine Program.wp_mono ?_ (streamRound_follows (v := ready env) rfl rfl rfl)
    rintro _ after ⟨rfl, ended⟩
    exact ended
  body_follows env _ v fits := by
    refine Program.wp_mono ?_ (streamRound_follows fits.1 fits.2.1 fits.2.2)
    rintro _ after ⟨rfl, ended⟩
    exact ended
  replies _ _ _ _ _ _ := trivial

/-! ### Histories -/

/-- What is known of a brain's past and of the record at hand. -/
structure Sound (v : BrainView) : Prop where
  tidy : v.pending = [] → v.here = []
  past : ∀ entry ∈ v.past, Complete v.env entry.1.message entry.2
  begun : ∀ head rest, v.pending = head :: rest → Begun head.message v.here

section views
variable {v : BrainView} {op : StreamOp}

theorem begun_nil (message : StreamMessage) : Begun message [] := by
  unfold Begun
  split
  · exact .inr rfl
  · rfl
  · exact List.nil_prefix

theorem sound_ready (env : StreamEnv) : Sound (ready env) where
  tidy _ := rfl
  past _ mem := by cases mem
  begun _ _ pending := by cases pending

/-- The record at hand goes on being handled. -/
theorem sound_here (sound : Sound v) {head : StreamRecord} {rest : List StreamRecord}
    (pending : v.pending = head :: rest) {here : List Deed} (begun : Begun head.message here) :
    Sound { v with here } where
  tidy none_ := by rw [pending] at none_; cases none_
  past := sound.past
  begun head' rest' pending' := by
    rw [pending] at pending'
    cases pending'
    exact begun

theorem begun_request {request : EdgeToBrainRequest} {here : List Deed} {op : BrainOp}
    (begun : Begun (.request request) here) (permitted : (requestProtocol request).permits here op)
    (reply : op.Reply) : Begun (.request request) (here ++ (deed? op reply).toList) := by
  by_cases is : plain op
  · have same : outcomes (here ++ (deed? op reply).toList) = outcomes here := by
      rw [outcomes_append, outcomes_plain is, List.append_nil]
    cases request with
    | sessionSend msg =>
      show outcomes _ = _ ∨ outcomes _ = []
      rw [same]
      exact begun
    | sessionCancel msg => exact same.trans begun
    | other => exact same.trans begun
  · cases op with
    | appendAgentSessionEvent requester sessionId event =>
      have outcome : isOutcome event = true := by
        simpa [plain] using is
      obtain ⟨⟨msg, send, rfl⟩, none_⟩ := permitted outcome
      have one : outcomes (here ++ (if isOutcome event then
          some (Deed.outcome msg.requestId event) else none).toList) = [msg.requestId] := by
        rw [outcomes_append, none_, outcome]
        rfl
      cases request with
      | sessionSend own =>
        cases send
        exact .inl one
      | _ => cases send
    | _ => exact absurd trivial is

theorem sound_observe (sound : Sound v) (permitted : streamProtocol.permits v op)
    (reply : op.Reply) : Sound (streamProtocol.observe v op reply) := by
  cases op with
  | xreadGroup =>
    have none_ : v.pending = [] := permitted
    have fresh := sound.tidy none_
    exact ⟨fun _ => fresh, sound.past, fun head _ _ => fresh ▸ begun_nil head.message⟩
  | brain id op =>
    obtain ⟨head, rest, request, pending, -, message, permitted⟩ := permitted
    have begun := sound.begun head rest pending
    refine sound_here sound pending ?_
    rw [message] at begun ⊢
    exact begun_request begun permitted reply
  | broadcastRaw id message =>
    obtain ⟨head, rest, e, pending, -, is, rfl, fresh⟩ := permitted
    refine sound_here sound pending ?_
    rw [is, fresh]
    exact ⟨_, rfl⟩
  | appendEvent id row =>
    obtain ⟨head, rest, e, type, pending, -, is, persisted, rfl, fresh⟩ := permitted
    refine sound_here sound pending ?_
    rw [is, fresh]
    show [Deed.effect e.streamMessage] ++ [Deed.effect (e.row type)] <+:
      (e.effects true).map .effect
    rw [e.effects_enabled, persisted]
    exact List.prefix_refl _
  | broadcastRow id row => exact sound
  | xack id =>
    obtain ⟨head, rest, pending, -, complete⟩ := permitted
    have acked : v.acked =
        { v with past := v.past ++ [(head, v.here)], pending := rest, here := [] } := by
      unfold BrainView.acked
      rw [pending]
    show Sound v.acked
    rw [acked]
    refine ⟨fun _ => rfl, fun entry mem => ?_, fun head _ _ => begun_nil head.message⟩
    obtain mem | mem := List.mem_append.mp mem
    · exact sound.past entry mem
    · rw [List.mem_singleton.mp mem]
      exact complete

theorem current_of_pending {head : StreamRecord} {rest : List StreamRecord}
    (pending : v.pending = head :: rest) :
    v.current = v.here.map fun deed => (head.id, deed) := by
  unfold BrainView.current
  rw [pending]

theorem deeds_here {head : StreamRecord} {rest : List StreamRecord}
    (pending : v.pending = head :: rest) (more : List Deed) :
    ({ v with here := v.here ++ more } : BrainView).deeds =
      v.deeds ++ more.map fun deed => (head.id, deed) := by
  have after := current_of_pending (v := { v with here := v.here ++ more }) pending
  unfold BrainView.deeds
  rw [after, current_of_pending pending, List.map_append, List.append_assoc]

theorem deeds_observe (sound : Sound v) (permitted : streamProtocol.permits v op)
    (reply : op.Reply) : (streamProtocol.observe v op reply).deeds =
      v.deeds ++ (done? ⟨op, reply⟩).toList := by
  cases op with
  | xreadGroup =>
    have none_ : v.pending = [] := permitted
    have fresh := sound.tidy none_
    have before : v.current = [] := by
      unfold BrainView.current
      rw [none_]
    have after : (v.observe .xreadGroup reply).current = [] := by
      unfold BrainView.current
      split
      · rfl
      · show v.here.map _ = []
        rw [fresh]
        rfl
    show v.past.flatMap _ ++ (v.observe .xreadGroup reply).current =
      v.past.flatMap _ ++ v.current ++ []
    rw [before, after, List.append_nil, List.append_nil]
  | brain id op =>
    obtain ⟨head, rest, request, pending, rfl, -, -⟩ := permitted
    refine (deeds_here pending _).trans ?_
    show v.deeds ++ (deed? op reply).toList.map _ = v.deeds ++ ((deed? op reply).map _).toList
    cases deed? op reply <;> rfl
  | broadcastRaw id message =>
    obtain ⟨head, rest, e, pending, rfl, -⟩ := permitted
    exact deeds_here pending _
  | appendEvent id row =>
    obtain ⟨head, rest, e, type, pending, rfl, -⟩ := permitted
    exact deeds_here pending _
  | broadcastRow id row => exact (List.append_nil _).symm
  | xack id =>
    obtain ⟨head, rest, pending, -, -⟩ := permitted
    show v.acked.deeds = v.deeds ++ []
    have nothing : (BrainView.current
        { v with past := v.past ++ [(head, v.here)], pending := rest, here := [] }) = [] := by
      unfold BrainView.current
      split <;> rfl
    unfold BrainView.acked BrainView.deeds
    rw [pending]
    dsimp only
    rw [nothing, current_of_pending pending]
    simp

theorem reads_observe (permitted : streamProtocol.permits v op) (reply : op.Reply) :
    (streamProtocol.observe v op reply).read = v.read ++ read? ⟨op, reply⟩ := by
  cases op with
  | xreadGroup => exact (List.append_assoc ..).symm
  | xack id =>
    obtain ⟨head, rest, pending, -, -⟩ := permitted
    show v.acked.read = v.read ++ []
    unfold BrainView.acked BrainView.read
    rw [pending]
    simp
  | _ => exact (List.append_nil _).symm

theorem env_observe (op : StreamOp) (reply : op.Reply) :
    (streamProtocol.observe v op reply).env = v.env := by
  cases op with
  | xack id =>
    show v.acked.env = v.env
    unfold BrainView.acked
    split <;> rfl
  | _ => rfl

theorem env_after (history : List (Event StreamOps)) :
    (streamProtocol.after v history).env = v.env := by
  induction history generalizing v with
  | nil => rfl
  | cons event history ih => exact ih.trans (env_observe event.op event.reply)

/-- What a history that follows the protocol amounts to. -/
theorem after_history {history : List (Event StreamOps)} (sound : Sound v)
    (permitted : streamProtocol.Permitted v history) :
    Sound (streamProtocol.after v history) ∧
      (streamProtocol.after v history).deeds = v.deeds ++ history.filterMap done? ∧
      (streamProtocol.after v history).read = v.read ++ history.flatMap read? := by
  induction history generalizing v with
  | nil => exact ⟨sound, (List.append_nil _).symm, (List.append_nil _).symm⟩
  | cons event history ih =>
    obtain ⟨op, reply⟩ := event
    obtain ⟨last, deeds, read⟩ := ih (sound_observe sound permitted.1 reply) permitted.2
    refine ⟨last, deeds.trans ?_, read.trans ?_⟩
    · rw [deeds_observe sound permitted.1 reply, List.filterMap_cons, List.append_assoc]
      cases done? ⟨op, reply⟩ <;> rfl
    · rw [reads_observe permitted.1 reply, List.flatMap_cons, List.append_assoc]

end views

/-! ### The stream and its readers -/

section stream
variable {maxTurns : String → Nat}

def reads (p : (streamSystem maxTurns).Process) : List StreamRecord := p.history.flatMap read?

def deeds (p : (streamSystem maxTurns).Process) : List (Nat × Deed) := p.history.filterMap done?

/-- A brain has read records of the stream in its order. It is done with the first of them one
after the other, has begun the next, and has done nothing about the others. -/
structure InOrder (st : StreamStore) (p : (streamSystem maxTurns).Process) : Prop where
  account : ∃ v : BrainView, v.env = p.launch ∧ reads p = v.read ∧ deeds p = v.deeds ∧ Sound v
  ascending : ((reads p).map (·.id)).Pairwise (· < ·)
  stored : ∀ record ∈ reads p, st.stream[record.id]? = some record.message

structure StreamInv (s : (streamSystem maxTurns).State) : Prop where
  permitted : ∀ id p, s.process id = some p → streamProtocol.Permitted (ready p.launch) p.history
  ascending : ∀ id p, s.process id = some p → ((reads p).map (·.id)).Pairwise (· < ·)
  stored : ∀ id p, s.process id = some p → ∀ record ∈ reads p,
    record.id < s.store.delivered ∧ s.store.stream[record.id]? = some record.message
  apart : ∀ id id' p p', s.process id = some p → s.process id' = some p' → id ≠ id' →
    ∀ record ∈ reads p, ∀ other ∈ reads p', record.id ≠ other.id

theorem mem_batch {st : StreamStore} {count : Nat} {record : StreamRecord}
    (mem : record ∈ st.batch count) : st.delivered ≤ record.id ∧
      record.id < (st.deliver count).delivered ∧ st.stream[record.id]? = some record.message := by
  obtain ⟨⟨message, n⟩, taken, rfl⟩ := List.mem_map.mp mem
  obtain ⟨k, small, same⟩ := List.mem_take_iff_getElem.mp taken
  have length : k < (st.batch count).length := by
    unfold StreamStore.batch
    rwa [List.length_map, List.length_take]
  have here : st.stream[n]? = some message :=
    List.mem_zipIdx_iff_getElem?.mp (List.mem_of_mem_drop (List.mem_of_mem_take taken))
  have place : n = st.delivered + k := by
    rw [List.getElem_drop, List.getElem_zipIdx] at same
    obtain ⟨-, same⟩ := Prod.mk.inj same
    omega
  subst place
  exact ⟨Nat.le_add_right .., Nat.add_lt_add_left length _, here⟩

theorem batch_ascending (st : StreamStore) (count : Nat) :
    ((st.batch count).map (·.id)).Pairwise (· < ·) := by
  have ids : (st.batch count).map (·.id) =
      (((st.stream.zipIdx.map Prod.snd).drop st.delivered).take count) := by
    unfold StreamStore.batch
    rw [List.map_map, List.map_take, List.map_drop]
    rfl
  rw [ids, List.zipIdx_map_snd]
  exact List.Pairwise.sublist ((List.take_sublist _ _).trans (List.drop_sublist _ _))
    List.pairwise_lt_range'

theorem streamInv_empty : StreamInv (noStream maxTurns) where
  permitted _ _ here := by cases here
  ascending _ _ here := by cases here
  stored _ _ here := by cases here
  apart _ _ _ _ here := by cases here

section steps
variable {s : (streamSystem maxTurns).State} {store : StreamStore} {id : Nat}
  {q : (streamSystem maxTurns).Process}

/-- The stream grows, and a brain reads what no brain has read. -/
theorem streamInv_update (inv : StreamInv s) (more : s.store.delivered ≤ store.delivered)
    (kept : ∀ (n : Nat) (m : StreamMessage), s.store.stream[n]? = some m →
      store.stream[n]? = some m)
    (permitted : streamProtocol.Permitted (ready q.launch) q.history)
    (ascending : ((reads q).map (·.id)).Pairwise (· < ·))
    (stored : ∀ record ∈ reads q,
      record.id < store.delivered ∧ store.stream[record.id]? = some record.message)
    (new : ∀ record ∈ reads q, (∃ p, s.process id = some p ∧ record ∈ reads p) ∨
      s.store.delivered ≤ record.id) : StreamInv (s.update store id (some q)) := by
  have cases_ {i : Nat} {p : (streamSystem maxTurns).Process}
      (here : (s.update store id (some q)).process i = some p) :
      (i = id ∧ p = q) ∨ (i ≠ id ∧ s.process i = some p) := by
    by_cases same : i = id
    · subst same
      rw [System.State.update_process_self] at here
      exact .inl ⟨rfl, (Option.some.inj here).symm⟩
    · exact .inr ⟨same, by rwa [System.State.update_process_other s store _ same] at here⟩
  have apart {i : Nat} {p : (streamSystem maxTurns).Process} (other : i ≠ id)
      (there : s.process i = some p) : ∀ record ∈ reads q, ∀ r ∈ reads p, record.id ≠ r.id := by
    intro record mem r mem'
    obtain ⟨before, here, had⟩ | fresh := new record mem
    · exact inv.apart id i before p here there other.symm record had r mem'
    · have small := (inv.stored i p there r mem').1
      omega
  refine ⟨fun i p here => ?_, fun i p here => ?_, fun i p here => ?_, fun i j p r here there => ?_⟩
  · obtain ⟨-, rfl⟩ | ⟨-, here⟩ := cases_ here
    · exact permitted
    · exact inv.permitted i p here
  · obtain ⟨-, rfl⟩ | ⟨-, here⟩ := cases_ here
    · exact ascending
    · exact inv.ascending i p here
  · obtain ⟨-, rfl⟩ | ⟨-, here⟩ := cases_ here
    · exact stored
    · intro record mem
      obtain ⟨small, message⟩ := inv.stored i p here record mem
      exact ⟨Nat.lt_of_lt_of_le small more, kept _ _ message⟩
  · intro different record mem other mem'
    obtain ⟨one, rfl⟩ | ⟨away, had⟩ := cases_ here
    · obtain ⟨two, -⟩ | ⟨away, had⟩ := cases_ there
      · exact absurd (one.trans two.symm) different
      · exact apart away had record mem other mem'
    · obtain ⟨-, rfl⟩ | ⟨-, had'⟩ := cases_ there
      · exact (apart away had other mem' record mem).symm
      · exact inv.apart i j p r had had' different record mem other mem'

theorem streamInv_call (inv : StreamInv s) {l : StreamEnv} {history : List (Event StreamOps)}
    {op : StreamOp} {program next : StreamProgram (Unit ⊕ Empty)} {choice : StreamChoice}
    {reply : op.Reply}
    (here : s.process id = some { launch := l, history, program })
    (permitted : streamProtocol.permits (streamProtocol.after (ready l) history) op)
    (performed : performStream maxTurns s.store choice op = some (reply, store)) :
    StreamInv (s.update store id (some {
      launch := l, history := history ++ [⟨op, reply⟩], program := next })) := by
  have follows : streamProtocol.Permitted (ready l) (history ++ [⟨op, reply⟩]) :=
    Protocol.permitted_append (inv.permitted id _ here) ⟨permitted, trivial⟩
  have before := inv.stored id _ here
  have sorted := inv.ascending id _ here
  have grown : (history ++ [(⟨op, reply⟩ : Event StreamOps)]).flatMap read? =
      history.flatMap read? ++ read? ⟨op, reply⟩ := by
    rw [List.flatMap_append, List.flatMap_singleton]
  have quiet (nothing : read? ⟨op, reply⟩ = []) (delivered : store.delivered = s.store.delivered)
      (stream : store.stream = s.store.stream) : StreamInv (s.update store id (some {
        launch := l, history := history ++ [⟨op, reply⟩], program := next })) := by
    rw [nothing, List.append_nil] at grown
    refine streamInv_update inv (Nat.le_of_eq delivered.symm) (fun n m at_ => by rwa [stream])
      follows ?_ ?_ ?_
    · unfold reads
      rw [grown]
      exact sorted
    · unfold reads
      rw [grown, delivered, stream]
      exact before
    · intro record mem
      unfold reads at mem
      rw [grown] at mem
      exact .inl ⟨_, here, mem⟩
  cases op with
  | xreadGroup =>
    cases performed
    refine streamInv_update inv (Nat.le_add_right ..) (fun n m at_ => at_) follows ?_ ?_ ?_
    · unfold reads
      rw [grown, List.map_append, List.pairwise_append]
      refine ⟨sorted, batch_ascending _ _, fun m mem n mem' => ?_⟩
      obtain ⟨record, old, rfl⟩ := List.mem_map.mp mem
      obtain ⟨fresh, new, rfl⟩ := List.mem_map.mp mem'
      exact Nat.lt_of_lt_of_le (before record old).1 (mem_batch new).1
    · intro record mem
      unfold reads at mem
      rw [grown] at mem
      obtain mem | mem := List.mem_append.mp mem
      · obtain ⟨small, message⟩ := before record mem
        exact ⟨Nat.lt_of_lt_of_le small (Nat.le_add_right ..), message⟩
      · exact (mem_batch mem).2
    · intro record mem
      unfold reads at mem
      rw [grown] at mem
      obtain mem | mem := List.mem_append.mp mem
      · exact .inl ⟨_, here, mem⟩
      · exact .inr (mem_batch mem).1
  | brain n op =>
    obtain ⟨answer, -, same⟩ := Option.map_eq_some_iff.mp performed
    cases same
    exact quiet rfl rfl rfl
  | _ =>
    cases performed
    exact quiet rfl rfl rfl

/-- What is put on the stream goes behind what is there. -/
theorem streamInv_tick (inv : StreamInv s) (delivered : store.delivered = s.store.delivered)
    (kept : ∀ (n : Nat) (m : StreamMessage), s.store.stream[n]? = some m →
      store.stream[n]? = some m) : StreamInv { s with store } where
  permitted := inv.permitted
  ascending := inv.ascending
  stored i p here record mem := by
    obtain ⟨small, message⟩ := inv.stored i p here record mem
    exact ⟨delivered ▸ small, kept _ _ message⟩
  apart := inv.apart

theorem streamInv_step {t : (streamSystem maxTurns).State} {a : (streamSystem maxTurns).Action}
    (all : (streamCertified maxTurns).AllFollow s) (inv : StreamInv s)
    (stepped : System.Stepped s a t) : StreamInv t := by
  cases stepped with
  | launch free launched =>
    cases launched
    exact streamInv_update inv (Nat.le_refl _) (fun _ _ at_ => at_) trivial .nil
      (fun record mem => by cases mem) fun record mem => by cases mem
  | call here performed => exact streamInv_call inv here (Certified.permitted all here) performed
  | loop here =>
    have permitted := inv.permitted _ _ here
    have ascending := inv.ascending _ _ here
    have stored := inv.stored _ _ here
    exact streamInv_update inv (Nat.le_refl _) (fun _ _ at_ => at_) permitted ascending stored
      fun record mem => .inl ⟨_, here, mem⟩
  | finish here =>
    rename_i outcome
    cases outcome
  | tick ticked =>
    rename_i tick store
    cases tick with
    | post message =>
      cases ticked
      refine streamInv_tick inv rfl fun n m at_ => ?_
      show (s.store.stream ++ [message])[n]? = some m
      rw [List.getElem?_append_left (List.getElem?_eq_some_iff.mp at_).1, at_]
    | session tick =>
      obtain ⟨brains, -, rfl⟩ := Option.map_eq_some_iff.mp ticked
      exact streamInv_tick inv rfl fun _ _ at_ => at_

end steps

/-- Each brain goes through the records it has read in the order of the stream, and no record is
read by two of them. -/
theorem turn_events_in_order {s : (streamSystem maxTurns).State}
    (run : System.Steps (fun _ _ => True) (noStream maxTurns) s) :
    (∀ id p, s.process id = some p → InOrder s.store p) ∧
      ∀ id id' p p', s.process id = some p → s.process id' = some p' → id ≠ id' →
        ∀ record ∈ reads p, ∀ other ∈ reads p', record.id ≠ other.id := by
  have inv := ((streamCertified maxTurns).invariant StreamInv (fun _ => rfl) streamInv_empty
    (fun _ _ _ all inv _ stepped => streamInv_step all inv stepped) run).2
  refine ⟨fun id p here => ⟨?_, inv.ascending id p here, fun record mem =>
    (inv.stored id p here record mem).2⟩, inv.apart⟩
  obtain ⟨sound, done, read⟩ := after_history (sound_ready p.launch) (inv.permitted id p here)
  refine ⟨_, ?_, read.symm, done.symm, sound⟩
  exact env_after p.history

end stream

/-! ### An event behind the send of its turn -/

/-- What was sent of a turn before its reply has been broadcast once the outcome of the turn is in
the log, if every brain passes events on. -/
def StreamFirst {maxTurns : String → Nat} (s : (streamSystem maxTurns).State) : Prop :=
  (∀ id p, s.process id = some p → p.launch.sessionStreamV1Enabled = true) →
  ∀ id p n requestId event, s.process id = some p →
    (n, .outcome requestId event) ∈ deeds p →
    ∀ m ∈ s.store.early, ∀ e, s.store.stream[m]? = some (.sessionTurnEvent e) →
      e.requestId = requestId →
      ∃ id' p', s.process id' = some p' ∧ (m, .effect e.streamMessage) ∈ deeds p'

namespace Sample
open Brain.Sample

def toolCall : TurnEvent :=
  { requestId := "r", organizationId := "org", sessionId := "s"
    event := { seq := 1, ts := 0, kind := "tool_call", level := "info", message := none
               payload := none } }

def streaming : StreamEnv := { brain := env, sessionStreamV1Enabled := true }

abbrev goesOn (n : Nat) : List (streamSystem oneTurn).Action :=
  List.replicate n (.call 0 { count := 25, brain := sessionAnswers (sendOf "r") })

/-- One brain takes a send up; the executor tells of a tool call and answers. -/
def answered : List (streamSystem oneTurn).Action :=
  [.tick (.post (.request (.sessionSend (sendOf "r")))), .launch 0 streaming] ++ goesOn 8 ++
    [.tick (.session (.receive 0))] ++ goesOn 3 ++ [.tick (.session (.receive 0)),
      .tick (.post (.sessionTurnEvent toolCall)),
      .tick (.session (.finishTurn "node" 0 (.ok "hello")))] ++ goesOn 9

def answers (requestId : String) : Nat × Deed → Bool
  | (_, .outcome requester _) => requester = requestId
  | _ => false

def affects : Nat × Deed → Bool
  | (_, .effect _) => true
  | _ => false

/-- The first brain has answered the request, and whether it has passed on an event. -/
def hasAnswered (requestId : String) (affected : Bool) (s : (streamSystem oneTurn).State) : Bool :=
  (s.process 0).any fun p => p.launch.sessionStreamV1Enabled && (deeds p).any (answers requestId) &&
    (deeds p).any affects == affected

end Sample

theorem turn_events_in_order_tool_call : ∃ s : (streamSystem Brain.Sample.oneTurn).State,
    Sample.hasAnswered "r" true s = true ∧ (∀ id p, s.process id = some p → InOrder s.store p) ∧
      ∀ id id' p p', s.process id = some p → s.process id' = some p' → id ≠ id' →
        ∀ record ∈ reads p, ∀ other ∈ reads p', record.id ≠ other.id := by
  have ran : (System.exec (fun _ _ => True) (noStream Brain.Sample.oneTurn)
      (Sample.answered ++ Sample.goesOn 1 ++ [.loop 0] ++ Sample.goesOn 5)).map
        (Sample.hasAnswered "r" true) = some true := by decide +kernel
  obtain ⟨s, run, shown⟩ := Option.map_eq_some_iff.mp ran
  exact ⟨s, shown, turn_events_in_order (System.steps_of_exec run)⟩

/-- The only brain has the answer in the log and has not read the event, which came before it. -/
theorem outcome_first : ¬∀ (maxTurns : String → Nat) (s : (streamSystem maxTurns).State),
    System.Steps (fun _ _ => True) (noStream maxTurns) s → StreamFirst s := by
  intro claim
  have ran : (System.exec (fun _ _ => True) (noStream Brain.Sample.oneTurn) Sample.answered).map
      (fun s => (Sample.hasAnswered "r" false s, s.store.early, (s.store.stream[1]?).any fun m =>
        match m with
        | .sessionTurnEvent e => e.requestId = "r"
        | .request _ => false)) = some (true, [1], true) := by decide +kernel
  obtain ⟨s, run, same⟩ := Option.map_eq_some_iff.mp ran
  simp only [Prod.mk.injEq] at same
  obtain ⟨shown, early, posted⟩ := same
  have below : ∀ a ∈ Sample.answered, ∀ id ∈ a.handler, id < 1 := by decide
  have alone (id : Nat) (other : id ≠ 0) : s.process id = none := by
    rw [System.exec_process_other (fun a mem same => ?_) run]
    · rfl
    · have small := below a mem id (by simp [same])
      omega
  have first := claim _ s (System.steps_of_exec run)
  unfold Sample.hasAnswered at shown
  obtain ⟨p, here, shown⟩ := (Option.any_eq_true _ _).mp shown
  simp only [Bool.and_eq_true, beq_iff_eq] at shown
  obtain ⟨⟨enabled, answered⟩, silent⟩ := shown
  obtain ⟨⟨n, deed⟩, done, answers⟩ := List.any_eq_true.mp answered
  obtain ⟨message, stored, event⟩ := (Option.any_eq_true _ _).mp posted
  have only {id : Nat} {q : (streamSystem Brain.Sample.oneTurn).Process}
      (there : s.process id = some q) : q = p := by
    by_cases zero : id = 0
    · rw [zero, here] at there
      exact (Option.some.inj there).symm
    · rw [alone id zero] at there
      cases there
  cases deed with
  | outcome requester outcome =>
    cases message with
    | request request => cases event
    | sessionTurnEvent e =>
      have own : requester = "r" := of_decide_eq_true answers
      have turn : e.requestId = "r" := of_decide_eq_true event
      have sent : 1 ∈ s.store.early := by
        rw [early]
        exact List.mem_singleton_self _
      obtain ⟨id, q, there, told⟩ := first (fun id q there => only there ▸ enabled) 0 p n requester
        outcome here done 1 sent e stored (turn.trans own.symm)
      rw [only there] at told
      rw [List.any_eq_false] at silent
      exact silent _ told rfl
  | _ => cases answers

end Vespid.Brain.TurnEvents
