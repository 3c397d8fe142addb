import Vespid.Brain.Session
import Vespid.Lib.Protocol
import Vespid.NodeAgent.Sessions

/-!
# Brains, edges and executors over sessions

The stream to the brains, of which each message goes to one of them, the commands on their way
to the executors, the executors' session maps, and the replies. A message may overtake others.
-/

namespace Vespid.Brain

open Interleaving NodeAgent

/-- A turn that was begun: its prompt, and the messages of the turns that had succeeded. -/
structure BegunTurn where
  prompt : List Message
  memory : List Message

/-- What an executor has done for a session. -/
structure SessionRecord where
  turns : List BegunTurn
  memory : List Message

/-- The bus, the executors, the brains' memory and the session events, each event with the
request it was appended for. `dispatched` are the turns sent, `replied` those that have had a
reply, `canceled` those with a cancel added in between. -/
structure SessionStore where
  toBrain : List EdgeToBrainRequest
  toExecutor : List (String × SessionPayload)
  locks : String → Option String
  nodes : String → NodeSessions
  opened : String → Option OpenedReply
  replies : String → Option TurnReply
  activeTurns : String × String → Option ActiveSessionTurn
  busy : String → Bool
  events : List (String × SessionEvent)
  dispatched : List (String × String)
  replied : List String
  canceled : List String
  records : String × String → SessionRecord

namespace SessionStore

def empty : SessionStore :=
  { toBrain := [], toExecutor := [], locks := fun _ => none, nodes := fun _ => .empty
    opened := fun _ => none, replies := fun _ => none, activeTurns := fun _ => none
    busy := fun _ => false, events := [], dispatched := [], replied := [], canceled := []
    records := fun _ => { turns := [], memory := [] } }

def openTurns (st : SessionStore) (sessionId : String) : List String :=
  (st.dispatched.filter fun turn => turn.2 = sessionId ∧ turn.1 ∉ st.replied).map (·.1)

/-- An edge puts a message on the stream to the brains. -/
def post (st : SessionStore) (msg : EdgeToBrainRequest) : SessionStore :=
  { st with
    toBrain := st.toBrain ++ [msg]
    canceled := st.canceled ++ match msg with
      | .sessionCancel cancel => st.openTurns cancel.sessionId
      | _ => [] }

/-- A brain sends a command to an executor. -/
def send (st : SessionStore) (executorId : String) (payload : SessionPayload) : SessionStore :=
  { st with
    toExecutor := st.toExecutor ++ [(executorId, payload)]
    dispatched := st.dispatched ++ match payload with
      | .sessionTurn requestId _ sessionId _ => [(requestId, sessionId)]
      | _ => [] }

def writeReply (st : SessionStore) (requestId : String) (reply : TurnReply) : SessionStore :=
  { st with replies := Function.update st.replies requestId (some reply)
            replied := st.replied ++ [requestId] }

def writeOpened (st : SessionStore) (requestId : String) (reply : OpenedReply) : SessionStore :=
  { st with opened := Function.update st.opened requestId (some reply) }

def failedReply (failure : TurnFailure) : TurnReply :=
  { status := .failed, content := none, error := some failure.message, code := some failure.code }

def setNode (st : SessionStore) (executorId : String) (node : NodeSessions) : SessionStore :=
  { st with nodes := Function.update st.nodes executorId node }

def record (st : SessionStore) (key : String × String) (entry : SessionRecord) : SessionStore :=
  { st with records := Function.update st.records key entry }

/-- The executor has begun a turn: its history is the prompt. -/
def recordTurn (st : SessionStore) (key : String × String) (prompt : List Message) : SessionStore :=
  let entry := st.records key
  st.record key { entry with turns := entry.turns ++ [{ prompt, memory := entry.memory }] }

/-- The executor has answered a turn. -/
def recordAnswer (st : SessionStore) (key : String × String) (turn : RunningTurn)
    (content : String) : SessionStore :=
  let entry := st.records key
  st.record key { entry with
    memory := entry.memory ++ [turn.message, { role := .assistant, content }] }

/-- An executor gets a command. -/
def receive (st : SessionStore) (executorId : String) : SessionPayload → SessionStore
  | .sessionOpen requestId _ sessionId _ system instructions maxTurns _ =>
    (st.setNode executorId
      (openSession (st.nodes executorId) { sessionId, system, instructions, maxTurns })).writeOpened
      requestId { ok := true, error := none }
  | .sessionTurn requestId _ sessionId message =>
    -- the schema wants a message
    if message = "" then st
    else match runTurn (st.nodes executorId) { requestId, sessionId, message } with
      | .error failure => st.writeReply requestId (failedReply failure)
      | .ok (context, ctx) =>
        (st.setNode executorId ((st.nodes executorId).setContext context ctx)).recordTurn
          (executorId, sessionId) ctx.history
  -- a cancel aborts the engine, whose result is free anyway
  | .sessionCancel .. => st

/-- The edge has no connection to the executor. -/
def refuse (st : SessionStore) : SessionPayload → SessionStore
  | .sessionOpen requestId .. =>
    st.writeOpened requestId { ok := false, error := some "PINNED_AGENT_OFFLINE" }
  | .sessionTurn requestId .. => st.writeReply requestId
      { status := .failed, content := none, error := some "PINNED_AGENT_OFFLINE", code := none }
  | .sessionCancel requestId .. => st.writeReply requestId
      { status := .failed, content := none, error := some "PINNED_AGENT_OFFLINE", code := none }

/-- The turn that runs in a context ends, and its reply is stored. -/
def finishTurn (st : SessionStore) (executorId : String) (context : Nat)
    (result : Except TurnFailure String) : Option SessionStore :=
  ((st.nodes executorId).contexts context).bind fun ctx => ctx.activeTurn.map fun turn =>
    let ended := st.setNode executorId
      ((st.nodes executorId).setContext context (endTurn ctx result))
    match result with
    | .ok content => (ended.recordAnswer (executorId, ctx.sessionId) turn content).writeReply
        turn.requestId
        { status := .succeeded, content := some content, error := none, code := none }
    | .error failure => ended.writeReply turn.requestId (failedReply failure)

end SessionStore

inductive SessionTick where
  | post (msg : EdgeToBrainRequest)
  | receive (index : Nat)
  | refuse (index : Nat)
  | drop (index : Nat)
  | finishTurn (executorId : String) (context : Nat) (result : Except TurnFailure String)
  | expireLock (sessionId : String)
  | expireReply (requestId : String)

/-- Take a command off its way. -/
def SessionStore.take (st : SessionStore) (index : Nat) :
    Option ((String × SessionPayload) × SessionStore) :=
  st.toExecutor[index]?.map fun command =>
    (command, { st with toExecutor := st.toExecutor.eraseIdx index })

def sessionTick (st : SessionStore) : SessionTick → Option SessionStore
  | .post msg => some (st.post msg)
  | .receive index => (st.take index).map fun (command, st) => st.receive command.1 command.2
  | .refuse index => (st.take index).map fun (command, st) => st.refuse command.2
  | .drop index => (st.take index).map (·.2)
  | .finishTurn executorId context result => st.finishTurn executorId context result
  | .expireLock sessionId => some { st with locks := Function.update st.locks sessionId none }
  | .expireReply requestId =>
    some { st with replies := Function.update st.replies requestId none
                   opened := Function.update st.opened requestId none }

/-- The row of a session, whose limit of turns does not change. -/
def AgentSession.hasLimit (maxTurns : String → Nat) (sessionId : String)
    (session : Option AgentSession) : Bool :=
  session.all fun session => sessionMaxTurns session = maxTurns sessionId

def performSession (maxTurns : String → Nat) (op : BrainOp) (st : SessionStore)
    (answer : (op : BrainOp) → op.Reply) : Option (op.Reply × SessionStore) :=
  match op with
  | .xreadGroup brainId =>
    let batch : List EdgeToBrainRequest := answer (.xreadGroup brainId)
    if batch <+: st.toBrain then
      some (batch, { st with toBrain := st.toBrain.drop batch.length })
    else none
  | .setSessionBrain sessionId brainId =>
    match st.locks sessionId with
    | some _ => some (false, st)
    | none => some (true, { st with locks := Function.update st.locks sessionId (some brainId) })
  | .delSessionBrain sessionId =>
    some ((), { st with locks := Function.update st.locks sessionId none })
  | .getAgentSessionById organizationId sessionId =>
    let session : Option AgentSession := answer (.getAgentSessionById organizationId sessionId)
    if AgentSession.hasLimit maxTurns sessionId session then some (session, st) else none
  | .setAgentSessionPinnedAgent organizationId sessionId executorId pool =>
    let session : Option AgentSession :=
      answer (.setAgentSessionPinnedAgent organizationId sessionId executorId pool)
    if AgentSession.hasLimit maxTurns sessionId session then some (session, st) else none
  | .appendAgentSessionEvent requester _ event =>
    some ((), { st with events := st.events ++ [(requester, event)] })
  | .executorSession _ executorId payload => some ((), st.send executorId payload)
  | .waitForOpened requestId timeoutMs =>
    let taken : Option OpenedReply := answer (.waitForOpened requestId timeoutMs)
    match taken, st.opened requestId with
    | none, _ => some ((none : Option OpenedReply), st)
    | some _, some reply => some (some reply, st)
    | some _, none => none
  | .waitForTurnReply requestId timeoutMs =>
    let taken : Option TurnReply := answer (.waitForTurnReply requestId timeoutMs)
    match taken, st.replies requestId with
    | none, _ => some ((none : Option TurnReply), st)
    | some _, some reply => some (some reply, st)
    | some _, none => none
  | .getActiveTurn brainId sessionId => some (st.activeTurns (brainId, sessionId), st)
  | .setActiveTurn brainId sessionId turn =>
    some ((), { st with activeTurns := Function.update st.activeTurns (brainId, sessionId) (some turn) })
  | .deleteActiveTurn brainId sessionId =>
    some ((), { st with activeTurns := Function.update st.activeTurns (brainId, sessionId) none })
  | op => some (answer op, st)

/-- Brains over sessions: one handler is one round of a brain's loop, and a brain runs one
round at a time. -/
abbrev sessionBrains (maxTurns : String → Nat) : System BrainOps where
  Store := SessionStore
  Launch := BrainEnv
  Loop := Empty
  Outcome := Unit
  Choice := (op : BrainOp) → op.Reply
  Tick := SessionTick
  perform := performSession maxTurns
  launch env st :=
    if st.busy env.brainId then none
    else some { st with busy := Function.update st.busy env.brainId true }
  entry env := .inr <$> brainRound env
  body _ loop := nomatch loop
  finish env _ st := { st with busy := Function.update st.busy env.brainId false }
  tick t st := sessionTick st t

def noSessions (maxTurns : String → Nat) : (sessionBrains maxTurns).State :=
  { store := .empty, process := fun _ => none }

/-! ### What a brain knows of an answer -/

/-- The request whose turn was answered with success, from when a brain has taken the reply. -/
abbrev AnsweredStage := Option String

def permitsAnswered (maxTurns : String → Nat) (answered : AnsweredStage) : BrainOp → Prop
  | .executorSession _ _ (.sessionOpen _ _ sessionId _ _ _ limit _) =>
    limit = maxTurns sessionId ∧ 1 ≤ limit
  | .appendAgentSessionEvent requester _ (.agentFinal _) => answered = some requester
  | _ => True

def observeAnswered : AnsweredStage → (op : BrainOp) → op.Reply → AnsweredStage
  | answered, .waitForTurnReply requestId _, reply =>
    match (reply : Option TurnReply) with
    | some { status := .succeeded, .. } => some requestId
    | _ => answered
  | answered, _, _ => answered

def sessionProtocol (maxTurns : String → Nat) : Protocol BrainOps AnsweredStage where
  permits := permitsAnswered maxTurns
  expects op reply := match op, reply with
    | .getAgentSessionById _ sessionId, session => AgentSession.hasLimit maxTurns sessionId session
    | .setAgentSessionPinnedAgent _ sessionId .., session =>
      AgentSession.hasLimit maxTurns sessionId session
    | _, _ => True
  observe := observeAnswered

/-- Operations that any stage permits and that leave it as it is. -/
def uninformed : BrainOp → Prop
  | .executorSession _ _ (.sessionOpen ..) | .appendAgentSessionEvent _ _ (.agentFinal _)
  | .waitForTurnReply .. => False
  | _ => True

variable {maxTurns : String → Nat} {answered : AnsweredStage}

theorem wp_uninformed {α : Type} {p : BrainProgram α} (only : p.Only uninformed) :
    p.wp (sessionProtocol maxTurns) (fun _ after => after = answered) answered := by
  induction p with
  | done value => rfl
  | call op next ih =>
    obtain ⟨apart, rest⟩ := only
    have permitted : permitsAnswered maxTurns answered op := by
      unfold permitsAnswered
      split
      · exact False.elim apart
      · exact False.elim apart
      · trivial
    have same (reply : op.Reply) : (sessionProtocol maxTurns).observe answered op reply = answered := by
      cases op <;> first | exact False.elim apart | rfl
    refine ⟨permitted, fun reply _ => ?_⟩
    rw [same]
    exact ih reply (rest reply)

theorem uninformed_of_selecting {op : BrainOp} (part : selecting op) : uninformed op := by
  unfold selecting at part
  split at part <;> first | exact False.elim part | trivial

theorem uninformed_of_pinning {op : BrainOp} (part : pinning op) : uninformed op := by
  unfold pinning at part
  split at part <;> first | exact False.elim part | trivial

theorem uninformed_of_forgetting {op : BrainOp} (part : forgetting op) : uninformed op := by
  unfold forgetting at part
  split at part <;> first | exact False.elim part | trivial

theorem uninformed_of_releasing {op : BrainOp} (part : releasing op) : uninformed op := by
  unfold releasing at part
  split at part <;> first | exact False.elim part | trivial

theorem uninformed_of_canceling {op : BrainOp} (part : canceling op) : uninformed op := by
  unfold canceling at part
  split at part <;> first | exact False.elim part | trivial

theorem failSession_uninformed (msg : SessionSend) (code message : String) :
    (failSession msg code message).Only uninformed := ⟨trivial, fun _ => trivial⟩

/-- The session a pin leaves has the session's limit. -/
theorem persistPin_follows (msg : SessionSend) {session : AgentSession} (executor : SelectedExecutor)
    (limited : sessionMaxTurns session = maxTurns msg.sessionId) :
    (persistPin msg session executor).wp (sessionProtocol maxTurns)
      (fun session after => sessionMaxTurns session = maxTurns msg.sessionId ∧ after = answered)
      answered := by
  have stored : (storePin msg session executor).wp (sessionProtocol maxTurns)
      (fun session after => sessionMaxTurns session = maxTurns msg.sessionId ∧ after = answered)
      answered := by
    unfold storePin
    split
    · refine ⟨trivial, fun updated fits => ⟨?_, rfl⟩⟩
      cases updated with
      | none => exact limited
      | some updated => exact of_decide_eq_true fits
    · exact ⟨limited, rfl⟩
  have told : (tellFailover msg session executor).Only uninformed :=
    Program.only_mono (fun _ => uninformed_of_pinning) (tellFailover_pinning msg session executor)
  refine Program.wp_seq stored ?_
  rintro persisted after ⟨kept, rfl⟩
  refine Program.wp_seq (wp_uninformed told) ?_
  rintro - after rfl
  exact ⟨kept, rfl⟩

theorem settleTurn_follows (env : BrainEnv) (msg : SessionSend) {reply : TurnReply}
    (known : reply.status = .succeeded → answered = some msg.requestId) :
    (settleTurn env msg reply).wp (sessionProtocol maxTurns) (fun _ _ => True) answered := by
  simp only [settleTurn, await, Program.issue_eq, Program.call_bind, Program.done_bind,
    Program.wp_call]
  refine ⟨trivial, fun current _ => ?_⟩
  cases status : reply.status with
  | failed =>
    dsimp only
    split
    · exact ⟨trivial, fun _ _ => trivial⟩
    · exact Program.wp_mono (fun _ _ _ => trivial) (wp_uninformed (failSession_uninformed ..))
  | succeeded =>
    dsimp only
    split
    · trivial
    · exact ⟨trivial, fun _ _ => ⟨known status, fun _ _ => trivial⟩⟩

theorem runOnExecutor_follows (env : BrainEnv) (msg : SessionSend) {session : AgentSession}
    (executor : SelectedExecutor) (limited : sessionMaxTurns session = maxTurns msg.sessionId) :
    (runOnExecutor env msg session executor).wp (sessionProtocol maxTurns) (fun _ _ => True)
      answered := by
  simp only [runOnExecutor, await, Program.issue_eq, Program.call_bind, Program.done_bind,
    Program.wp_call]
  refine ⟨⟨limited, sessionMaxTurns_pos session⟩, fun _ _ => ⟨trivial, fun opened _ => ?_⟩⟩
  split
  · exact Program.wp_mono (fun _ _ _ => trivial) (wp_uninformed (failSession_uninformed ..))
  · refine ⟨trivial, fun _ _ => ⟨trivial, fun _ _ => ⟨trivial, fun reply _ => ?_⟩⟩⟩
    cases reply with
    | none =>
      exact Program.wp_mono (fun _ _ _ => trivial) (wp_uninformed (failSession_uninformed ..))
    | some reply =>
      refine settleTurn_follows env msg fun succeeded => ?_
      obtain ⟨status, content, error, code⟩ := reply
      cases succeeded
      rfl

theorem turnOnExecutor_follows (env : BrainEnv) (msg : SessionSend) {session : AgentSession}
    (executor : SelectedExecutor) (limited : sessionMaxTurns session = maxTurns msg.sessionId) :
    (turnOnExecutor env msg session executor).wp (sessionProtocol maxTurns) (fun _ _ => True)
      answered := by
  refine Program.wp_seq (persistPin_follows msg executor limited) ?_
  rintro persisted after ⟨kept, rfl⟩
  split
  · exact Program.wp_mono (fun _ _ _ => trivial) (wp_uninformed (failSession_uninformed ..))
  split
  · exact Program.wp_mono (fun _ _ _ => trivial) (wp_uninformed (failSession_uninformed ..))
  · exact runOnExecutor_follows env msg executor kept

theorem trySessionSend_answers (env : BrainEnv) (msg : SessionSend) :
    (trySessionSend env msg).wp (sessionProtocol maxTurns) (fun _ _ => True) answered := by
  simp only [trySessionSend, await, Program.issue_eq, Program.call_bind, Program.done_bind,
    Program.wp_call]
  refine ⟨trivial, fun session limited => ?_⟩
  cases session with
  | none => trivial
  | some session =>
    have limited : sessionMaxTurns session = maxTurns msg.sessionId := of_decide_eq_true limited
    refine ⟨trivial, fun orgMaxInFlight _ => ?_⟩
    dsimp only
    split
    · exact Program.wp_seq (wp_uninformed (failSession_uninformed ..)) fun _ _ _ => trivial
    · refine Program.wp_seq (wp_uninformed (Program.only_mono
        (fun _ => uninformed_of_selecting) (selectForSession_selecting ..))) ?_
      rintro selected after rfl
      cases selected with
      | error failure =>
        exact Program.wp_seq (wp_uninformed (failSession_uninformed ..)) fun _ _ _ => trivial
      | ok executor =>
        exact Program.wp_seq (turnOnExecutor_follows env msg executor limited) fun _ _ _ => trivial

theorem handleSessionSend_answers (env : BrainEnv) (msg : SessionSend) :
    (handleSessionSend env msg).wp (sessionProtocol maxTurns) (fun _ _ => True) answered := by
  simp only [handleSessionSend, await, Program.issue_eq, Program.call_bind, Program.done_bind,
    Program.wp_call]
  refine ⟨trivial, fun lockOk _ => ?_⟩
  split
  · trivial
  have rest (selected : Option SelectedExecutor) :
      (do forgetTurn env msg; releaseSelected msg selected; await (.delSessionBrain msg.sessionId) :
        BrainProgram Unit).Only uninformed := by
    have forgotten : (forgetTurn env msg).Only uninformed :=
      Program.only_mono (fun _ => uninformed_of_forgetting) (forgetTurn_forgetting env msg)
    have released : (releaseSelected msg selected).Only uninformed :=
      Program.only_mono (fun _ => uninformed_of_releasing) (releaseSelected_releasing msg selected)
    exact Program.only_bind forgotten fun _ =>
      Program.only_bind released fun _ => ⟨trivial, fun _ => trivial⟩
  exact Program.wp_seq (trySessionSend_answers env msg) fun selected after _ =>
    Program.wp_mono (fun _ _ _ => trivial) (wp_uninformed (rest selected))

theorem handleAll_answers (env : BrainEnv) (records : List EdgeToBrainRequest) :
    (handleAll env records).wp (sessionProtocol maxTurns) (fun _ _ => True) answered := by
  induction records generalizing answered with
  | nil => trivial
  | cons msg rest ih =>
    have handled : (handleRequest env msg).wp (sessionProtocol maxTurns) (fun _ _ => True)
        answered := by
      cases msg with
      | sessionSend msg => exact handleSessionSend_answers env msg
      | sessionCancel msg =>
        exact Program.wp_mono (fun _ _ _ => trivial)
          (wp_uninformed (Program.only_mono (fun _ => uninformed_of_canceling)
            (handleSessionCancel_canceling env msg)))
      | other => exact ⟨trivial, fun _ _ => trivial⟩
    exact Program.wp_seq handled fun _ _ _ => ih

variable (maxTurns)

def sessionCertified : Certified (sessionBrains maxTurns) (sessionProtocol maxTurns) where
  start _ := none
  looping _ loop _ := nomatch loop
  ended _ _ _ := True
  entry_follows env := by
    have round : (brainRound env).wp (sessionProtocol maxTurns) (fun _ _ => True) none :=
      ⟨trivial, fun records _ => handleAll_answers env records⟩
    exact Program.wp_seq round fun _ _ _ => trivial
  body_follows _ loop := nomatch loop
  replies op st answer reply st' performed := by
    cases op <;> try trivial
    all_goals
      simp only [performSession] at performed
      split at performed
      · obtain ⟨rfl, -⟩ := Prod.mk.inj (Option.some.inj performed)
        assumption
      · cases performed

end Vespid.Brain
