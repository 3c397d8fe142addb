import Vespid.Brain.Turns
import Vespid.Scheduler.Cron

/-!
# Sending a message again

A message goes into the session's log under its idempotency key, and the request named after the
log entry goes to the brains, which answer it in the same log. A key that is in the log already
gives the entry it has, and its request is sent again.
-/

namespace Vespid.Brain

open Interleaving NodeAgent

inductive LogEvent where
  | userMessage (message : Option String)
  /-- An event a brain appends for a request. -/
  | answer (requester : String) (event : SessionEvent)
  | other (eventType : String)
  deriving DecidableEq

/-- A row of `agent_session_events`. -/
structure LogRow where
  sessionId : String
  seq : Nat
  idempotencyKey : Option String
  event : LogEvent
  deriving DecidableEq

/-- The request a row is answered under. -/
def LogRow.requestId (row : LogRow) : String := s!"{row.sessionId}:turn:{row.seq}"

/-- What a client, the API or a channel sends. -/
structure UserSend where
  organizationId : String
  sessionId : String
  message : Option String
  idempotencyKey : Option String

/-- The operations of the senders and the brains; a brain's are marked with the send they are for. -/
inductive SendsOp where
  | getAgentSessionById (organizationId sessionId : String)
  | selectByKey (sessionId idempotencyKey : String)
  /-- From the lock of the session's row to the commit. -/
  | insertRow (send : UserSend)
  | xaddJson (msg : SessionSend)
  | brain (current : Option SessionSend) (op : BrainOp)

abbrev SendsOp.Reply : SendsOp → Type
  | getAgentSessionById .. => Bool
  | selectByKey .. => Option LogRow
  | insertRow _ => Except String LogRow
  | xaddJson _ => Unit
  | brain _ op => op.Reply

abbrev SendsOps : Interface where
  Op := SendsOp
  Reply := SendsOp.Reply

abbrev SendsProgram := Program SendsOps

def appendUserMessage (send : UserSend) : SendsProgram (Except String LogRow) :=
  match send.idempotencyKey.filter fun key => !key.toList.all Scheduler.isSpace with
  | none => .call (I := SendsOps) (.insertRow send) .done
  | some key => .call (I := SendsOps) (.selectByKey send.sessionId key) fun existing =>
    match (existing : Option LogRow) with
    | some row => .done (.ok row)
    | none => .call (I := SendsOps) (.insertRow send) .done

def sendMessage (send : UserSend) (row : LogRow) : SessionSend :=
  { requestId := s!"{send.sessionId}:turn:{row.seq}"
    organizationId := send.organizationId
    sessionId := send.sessionId
    message := send.message }

/-- `session_send` of a client; the API does the same over an edge. -/
def sendUserMessage (send : UserSend) : SendsProgram Unit :=
  .call (I := SendsOps) (.getAgentSessionById send.organizationId send.sessionId) fun found =>
    match (found : Bool) with
    | false => .done ()
    | true => (appendUserMessage send).bind fun row =>
      match row with
      | .error _ => .done ()
      | .ok row => .call (I := SendsOps) (.xaddJson (sendMessage send row)) .done

/-- A brain's program for a send. -/
def within {α : Type} (current : Option SessionSend) : BrainProgram α → SendsProgram α
  | .done value => .done value
  | .call op next => .call (I := SendsOps) (.brain current op) fun reply => within current (next reply)

/-- `handleAll` -/
def handleEach (env : BrainEnv) : List EdgeToBrainRequest → SendsProgram Unit
  | [] => .done ()
  | record :: rest => (within record.send? (handleRequest env record)).bind fun _ => handleEach env rest

/-- `brainRound` -/
def sendsRound (env : BrainEnv) : SendsProgram Unit :=
  .call (I := SendsOps) (.brain none (.xreadGroup env.brainId)) fun records => handleEach env records

/-! ### The log, the stream and the executors -/

/-- `takenUp` are the requests for which a brain has got the lock. -/
structure SendsStore where
  brains : SessionStore
  log : List LogRow
  takenUp : List String

def nextSeq (log : List LogRow) (sessionId : String) : Nat :=
  match (log.filter (·.sessionId = sessionId)).getLast? with
  | some last => last.seq + 1
  | none => 0

/-- The unique index on the session and the key; rows without one never clash. -/
def clashes (log : List LogRow) (sessionId : String) (idempotencyKey : Option String) : Bool :=
  idempotencyKey.any fun key =>
    log.any fun row => row.sessionId = sessionId ∧ row.idempotencyKey = some key

namespace SendsStore

def empty : SendsStore := { brains := .empty, log := [], takenUp := [] }

variable (st : SendsStore)

def append (sessionId : String) (idempotencyKey : Option String) (event : LogEvent) : SendsStore :=
  { st with log := st.log ++
      [{ sessionId, seq := nextSeq st.log sessionId, idempotencyKey, event }] }

/-- What an operation of a brain adds besides its own store. -/
def witness (current : Option SessionSend) : (op : BrainOp) → op.Reply → SendsStore
  | .appendAgentSessionEvent requester sessionId event, _ =>
    st.append sessionId none (.answer requester event)
  | .setSessionBrain .., (lockOk : Bool) =>
    if lockOk then { st with takenUp := st.takenUp ++ current.toList.map (·.requestId) } else st
  | _, _ => st

end SendsStore

inductive SendsLaunch where
  | send (send : UserSend)
  | brain (env : BrainEnv)

inductive SendsTick where
  /-- Whatever else happens; only senders put a `session_send` on the stream. -/
  | session (tick : SessionTick)
  /-- Another event of the log, as of a stream, whose key is its own. -/
  | append (sessionId : String) (idempotencyKey : Option String) (eventType : String)

structure SendsChoice where
  found : Bool
  /-- Whether the message gets onto the stream. -/
  added : Bool
  brain : (op : BrainOp) → op.Reply

def performSends (maxTurns : String → Nat) (st : SendsStore) (choice : SendsChoice) :
    (op : SendsOp) → Option (op.Reply × SendsStore)
  | .getAgentSessionById .. => some (choice.found, st)
  | .selectByKey sessionId key => some
      (st.log.find? fun row => row.sessionId = sessionId ∧ row.idempotencyKey = some key, st)
  | .insertRow send =>
    if !choice.found then some (.error "AGENT_SESSION_NOT_FOUND", st)
    else if clashes st.log send.sessionId send.idempotencyKey then
      some (.error "agent_session_events_org_session_idempotency_unique", st)
    else
      let row : LogRow :=
        { sessionId := send.sessionId, seq := nextSeq st.log send.sessionId
          idempotencyKey := send.idempotencyKey, event := .userMessage send.message }
      some (.ok row, { st with log := st.log ++ [row] })
  | .xaddJson msg => some ((), if choice.added then
      { st with brains := st.brains.post (.sessionSend msg) } else st)
  | .brain current op =>
    (performSession maxTurns op st.brains choice.brain).map fun (reply, brains) =>
      (reply, { st with brains }.witness current op reply)

def tickSends (st : SendsStore) : SendsTick → Option SendsStore
  | .session (.post (.sessionSend _)) => none
  | .session tick => (sessionTick st.brains tick).map fun brains => { st with brains }
  | .append sessionId key eventType =>
    if clashes st.log sessionId key then none
    else some (st.append sessionId key (.other eventType))

/-- Senders, brains and executors over the sessions. -/
abbrev sendsSystem (maxTurns : String → Nat) : System SendsOps where
  Store := SendsStore
  Launch := SendsLaunch
  Loop := Empty
  Outcome := Unit
  Choice := SendsChoice
  Tick := SendsTick
  perform op st choice := performSends maxTurns st choice op
  launch l st := match l with
    | .send _ => some st
    | .brain env =>
      if st.brains.busy env.brainId then none
      else some { st with brains := { st.brains with
        busy := Function.update st.brains.busy env.brainId true } }
  entry l := .inr <$> match l with
    | .send send => sendUserMessage send
    | .brain env => sendsRound env
  body _ loop := nomatch loop
  finish l _ st := match l with
    | .send _ => st
    | .brain env => { st with brains := { st.brains with
        busy := Function.update st.brains.busy env.brainId false } }
  tick t st := tickSends st t

def noSends (maxTurns : String → Nat) : (sendsSystem maxTurns).State :=
  { store := .empty, process := fun _ => none }

/-! ### What a brain may still do for a request -/

/-- The request whose turn may be sent, and the one that may be answered. -/
structure SendsStage where
  turn : Option String
  final : Option String
  deriving DecidableEq

namespace SendsStage

def permits (stage : SendsStage) : SendsOp → Prop
  | .brain current (.setSessionBrain ..) => current.isSome
  | .brain _ (.executorSession _ _ (.sessionTurn requestId ..)) => stage.turn = some requestId
  | .brain _ (.appendAgentSessionEvent requester _ (.agentFinal _)) =>
    stage.final = some requester
  | _ => True

def observe (stage : SendsStage) : (op : SendsOp) → op.Reply → SendsStage
  | .brain current (.setSessionBrain ..), (lockOk : Bool) =>
    if lockOk then { turn := current.map (·.requestId), final := current.map (·.requestId) }
    else stage
  | .brain _ (.executorSession _ _ (.sessionTurn ..)), _ => { stage with turn := none }
  | .brain _ (.appendAgentSessionEvent _ _ (.agentFinal _)), _ => { stage with final := none }
  | _, _ => stage

end SendsStage

def sendsProtocol : Protocol SendsOps SendsStage where
  permits := SendsStage.permits
  expects _ _ := True
  observe := SendsStage.observe

/-- The protocol as a brain sees it while it is at a message. -/
def sendsProtocolAt (current : Option SessionSend) : Protocol BrainOps SendsStage where
  permits stage op := stage.permits (.brain current op)
  expects _ _ := True
  observe stage op reply := stage.observe (.brain current op) reply

variable {current : Option SessionSend} {stage : SendsStage}

theorem wp_within {α : Type} {p : BrainProgram α} {post : α → SendsStage → Prop}
    (follows : p.wp (sendsProtocolAt current) post stage) :
    (within current p).wp sendsProtocol post stage := by
  induction p generalizing stage with
  | done value => exact follows
  | call op next ih => exact ⟨follows.1, fun reply _ => ih reply (follows.2 reply trivial)⟩

/-- Operations that neither begin nor end a request, nor send its turn. -/
def neutral : BrainOp → Prop
  | .setSessionBrain .. | .executorSession _ _ (.sessionTurn ..)
  | .appendAgentSessionEvent _ _ (.agentFinal _) => False
  | _ => True

theorem permits_neutral {op : BrainOp} (plain : neutral op) :
    stage.permits (.brain current op) := by
  cases op with
  | setSessionBrain sessionId brainId => exact False.elim plain
  | executorSession edgeId executorId payload =>
    cases payload with
    | sessionTurn => exact False.elim plain
    | _ => trivial
  | appendAgentSessionEvent requester sessionId event =>
    cases event with
    | agentFinal message => exact False.elim plain
    | _ => trivial
  | _ => trivial

theorem observe_neutral {op : BrainOp} (plain : neutral op) (reply : op.Reply) :
    stage.observe (.brain current op) reply = stage := by
  cases op with
  | setSessionBrain sessionId brainId => exact False.elim plain
  | executorSession edgeId executorId payload =>
    cases payload with
    | sessionTurn => exact False.elim plain
    | _ => rfl
  | appendAgentSessionEvent requester sessionId event =>
    cases event with
    | agentFinal message => exact False.elim plain
    | _ => rfl
  | _ => rfl

theorem wp_neutral {α : Type} {p : BrainProgram α} (only : p.Only neutral) :
    p.wp (sendsProtocolAt current) (fun _ after => after = stage) stage := by
  apply Program.wp_of_only (· = stage) only
  · intro g op _ plain
    exact permits_neutral plain
  · rintro g op reply rfl plain
    exact observe_neutral plain reply
  · rfl

theorem neutral_of_selecting {op : BrainOp} (part : selecting op) : neutral op := by
  unfold selecting at part
  split at part <;> first | exact False.elim part | trivial

theorem neutral_of_pinning {op : BrainOp} (part : pinning op) : neutral op := by
  unfold pinning at part
  split at part <;> first | exact False.elim part | trivial

theorem neutral_of_forgetting {op : BrainOp} (part : forgetting op) : neutral op := by
  unfold forgetting at part
  split at part <;> first | exact False.elim part | trivial

theorem neutral_of_releasing {op : BrainOp} (part : releasing op) : neutral op := by
  unfold releasing at part
  split at part <;> first | exact False.elim part | trivial

theorem neutral_of_canceling {op : BrainOp} (part : canceling op) : neutral op := by
  unfold canceling at part
  split at part <;> first | exact False.elim part | trivial

theorem failSession_neutral (msg : SessionSend) (code message : String) :
    (failSession msg code message).Only neutral := ⟨trivial, fun _ => trivial⟩

/-- A program that stays within what it may do, whatever it leaves. -/
abbrev Follows {α : Type} (current : Option SessionSend) (stage : SendsStage)
    (p : BrainProgram α) : Prop :=
  p.wp (sendsProtocolAt current) (fun _ _ => True) stage

theorem follows_neutral {α : Type} {p : BrainProgram α} (only : p.Only neutral) :
    Follows current stage p :=
  Program.wp_mono (fun _ _ _ => trivial) (wp_neutral only)

theorem settleTurn_sends (env : BrainEnv) (msg : SessionSend) (reply : TurnReply)
    (may : stage.final = some msg.requestId) : Follows current stage (settleTurn env msg reply) := by
  simp only [settleTurn, await, Program.issue_eq, Program.call_bind, Program.done_bind]
  refine ⟨trivial, fun turn _ => ?_⟩
  cases reply.status with
  | failed =>
    dsimp only
    split
    · exact ⟨trivial, fun _ _ => trivial⟩
    · exact follows_neutral (failSession_neutral ..)
  | succeeded =>
    dsimp only
    split
    · trivial
    · exact ⟨trivial, fun _ _ => ⟨may, fun _ _ => trivial⟩⟩

theorem runOnExecutor_sends (env : BrainEnv) (msg : SessionSend) (session : AgentSession)
    (executor : SelectedExecutor) (turn : stage.turn = some msg.requestId)
    (final : stage.final = some msg.requestId) :
    Follows current stage (runOnExecutor env msg session executor) := by
  simp only [runOnExecutor, await, Program.issue_eq, Program.call_bind, Program.done_bind]
  refine ⟨trivial, fun _ _ => ⟨trivial, fun opened _ => ?_⟩⟩
  dsimp only
  split
  · exact follows_neutral (failSession_neutral ..)
  · refine ⟨trivial, fun _ _ => ⟨turn, fun _ _ => ⟨trivial, fun reply _ => ?_⟩⟩⟩
    cases reply with
    | none => exact follows_neutral (failSession_neutral ..)
    | some reply => exact settleTurn_sends env msg reply final

theorem turnOnExecutor_sends (env : BrainEnv) (msg : SessionSend) (session : AgentSession)
    (executor : SelectedExecutor) (turn : stage.turn = some msg.requestId)
    (final : stage.final = some msg.requestId) :
    Follows current stage (turnOnExecutor env msg session executor) := by
  refine Program.wp_seq (wp_neutral (Program.only_mono (fun _ => neutral_of_pinning)
    (persistPin_pinning ..))) ?_
  rintro persisted after rfl
  split
  · exact follows_neutral (failSession_neutral ..)
  split
  · exact follows_neutral (failSession_neutral ..)
  · exact runOnExecutor_sends env msg persisted executor turn final

theorem trySessionSend_sends (env : BrainEnv) (msg : SessionSend)
    (turn : stage.turn = some msg.requestId) (final : stage.final = some msg.requestId) :
    Follows current stage (trySessionSend env msg) := by
  simp only [trySessionSend, await, Program.issue_eq, Program.call_bind, Program.done_bind]
  refine ⟨trivial, fun session _ => ?_⟩
  cases session with
  | none => trivial
  | some session =>
    refine ⟨trivial, fun orgMaxInFlight _ => ?_⟩
    dsimp only
    split
    · exact Program.wp_seq (wp_neutral (failSession_neutral ..)) fun _ _ _ => trivial
    · refine Program.wp_seq (wp_neutral (Program.only_mono (fun _ => neutral_of_selecting)
        (selectForSession_selecting ..))) ?_
      rintro selected after rfl
      cases selected with
      | error failure =>
        exact Program.wp_seq (wp_neutral (failSession_neutral ..)) fun _ _ _ => trivial
      | ok executor =>
        exact Program.wp_seq (turnOnExecutor_sends env msg session executor turn final)
          fun _ _ _ => trivial

theorem handleSessionSend_sends (env : BrainEnv) (msg : SessionSend) :
    Follows (some msg) stage (handleSessionSend env msg) := by
  simp only [handleSessionSend, await, Program.issue_eq, Program.call_bind, Program.done_bind]
  refine ⟨rfl, fun lockOk _ => ?_⟩
  cases lockOk with
  | false => trivial
  | true =>
    refine Program.wp_seq (trySessionSend_sends env msg rfl rfl) fun selected after _ => ?_
    have forgotten : (forgetTurn env msg).Only neutral :=
      Program.only_mono (fun _ => neutral_of_forgetting) (forgetTurn_forgetting env msg)
    have released : (releaseSelected msg selected).Only neutral :=
      Program.only_mono (fun _ => neutral_of_releasing) (releaseSelected_releasing msg selected)
    exact follows_neutral (Program.only_bind forgotten fun _ =>
      Program.only_bind released fun _ => ⟨trivial, fun _ => trivial⟩)

theorem handleEach_sends (env : BrainEnv) (records : List EdgeToBrainRequest) :
    (handleEach env records).wp sendsProtocol (fun _ _ => True) stage := by
  induction records generalizing stage with
  | nil => trivial
  | cons record rest ih =>
    have handled : Follows record.send? stage (handleRequest env record) := by
      cases record with
      | sessionSend msg => exact handleSessionSend_sends env msg
      | sessionCancel msg => exact follows_neutral (Program.only_mono
        (fun _ => neutral_of_canceling) (handleSessionCancel_canceling env msg))
      | other => exact ⟨trivial, fun _ _ => trivial⟩
    exact Program.wp_seq (wp_within handled) fun _ _ _ => ih

theorem sendUserMessage_sends (send : UserSend) :
    (sendUserMessage send).wp sendsProtocol (fun _ _ => True) stage := by
  refine ⟨trivial, fun found _ => ?_⟩
  cases found with
  | false => trivial
  | true =>
    have appended : (appendUserMessage send).wp sendsProtocol (fun _ _ => True) stage := by
      unfold appendUserMessage
      split
      · exact ⟨trivial, fun _ _ => trivial⟩
      · refine ⟨trivial, fun existing _ => ?_⟩
        cases existing with
        | some row => trivial
        | none => exact ⟨trivial, fun _ _ => trivial⟩
    refine Program.wp_seq appended fun row after _ => ?_
    cases row with
    | error message => trivial
    | ok row => exact ⟨trivial, fun _ _ => trivial⟩

variable (maxTurns : String → Nat)

def sendsCertified : Certified (sendsSystem maxTurns) sendsProtocol where
  start _ := { turn := none, final := none }
  looping _ loop _ := nomatch loop
  ended _ _ _ := True
  entry_follows l := by
    cases l with
    | send send => exact Program.wp_seq (sendUserMessage_sends send) fun _ _ _ => trivial
    | brain env =>
      have round : (sendsRound env).wp sendsProtocol (fun _ _ => True)
          { turn := none, final := none } :=
        ⟨trivial, fun records _ => handleEach_sends env records⟩
      exact Program.wp_seq round fun _ _ _ => trivial
  body_follows _ loop := nomatch loop
  replies _ _ _ _ _ _ := trivial

/-! ### Tokens

A request's turn, and its answer, is a token that one handler has at a time and may spend once. -/

section tokens
variable {maxTurns} {κ : Type} {crew : Nat → Option κ} {id : Nat} {q q' : κ}
  {get : κ → Option String} {takenUp : List String} {count count' : String → Nat}

/-- Who may spend the token of `r`, and how often it has been spent. -/
def Token (get : κ → Option String) (takenUp : List String) (count : String → Nat)
    (crew : Nat → Option κ) (r : String) : Prop :=
  Exclusive (fun q => get q = some r) (fun _ => r ∈ takenUp ∧ count r = 0)
    (count r ≤ 1 ∧ (r ∉ takenUp → count r = 0)) crew

theorem Token.le_one {r : String} (token : Token get takenUp count crew r) : count r ≤ 1 := by
  by_cases nobody : NoneHolds (fun q => get q = some r) crew
  · exact (token.unheld nobody).1
  · simp only [NoneHolds, not_forall, not_not] at nobody
    obtain ⟨id, q, here, holds⟩ := nobody
    have unspent := (token.held id q here holds).2
    omega

/-- A member comes with no token, or goes. -/
theorem token_without {r : String} (token : Token get takenUp count crew r) {new : Option κ}
    (without : ∀ q, new = some q → get q = none) :
    Token get takenUp count (Function.update crew id new) r := by
  have lets (q : κ) (is : new = some q) : get q ≠ some r := by
    rw [without q is]
    nofun
  cases here : crew id with
  | none =>
    apply Exclusive.stand token _ lets (fun _ now => now) (fun _ free => free)
    intro q there
    rw [here] at there
    cases there
  | some q =>
    by_cases holds : get q = some r
    · obtain ⟨known, unspent⟩ := token.held id q here holds
      exact Exclusive.release token here holds lets ⟨by omega, fun out => absurd known out⟩
    · apply Exclusive.stand token _ lets (fun _ now => now) (fun _ free => free)
      intro q there
      rw [here] at there
      cases there
      exact holds

/-- A member keeps what it has. -/
theorem token_keeps {r : String} (token : Token get takenUp count crew r)
    (here : crew id = some q) (same : get q' = get q) :
    Token get takenUp count (Function.update crew id (some q')) r := by
  by_cases holds : get q = some r
  · exact Exclusive.pass token here holds (same.trans holds) (token.held id q here holds)
  · apply Exclusive.stand token _ _ (fun _ now => now) (fun _ free => free)
    · intro q there
      rw [here] at there
      cases there
      exact holds
    · rintro q ⟨⟩ now
      exact holds (same.symm.trans now)

/-- A member spends its token. -/
theorem token_spend {r spent : String} (token : Token get takenUp count crew r)
    (here : crew id = some q) (had : get q = some spent) (gone : get q' = none)
    (once : count' spent = count spent + 1) (others : ∀ r, r ≠ spent → count' r = count r) :
    Token get takenUp count' (Function.update crew id (some q')) r := by
  have lets (p : κ) (is : some q' = some p) : get p ≠ some r := by
    cases is
    rw [gone]
    nofun
  by_cases same : r = spent
  · subst same
    obtain ⟨known, unspent⟩ := token.held id q here had
    exact Exclusive.release token here had lets ⟨by omega, fun out => absurd known out⟩
  · apply Exclusive.stand token _ lets
    · intro _ now
      rwa [others r same]
    · intro _ free
      rwa [others r same]
    · intro p there
      rw [here] at there
      cases there
      rw [had]
      exact fun now => same (Option.some.inj now).symm

/-- A member takes a token that nobody has taken before; what it had it lets go. -/
theorem token_take {r taken : String} (token : Token get takenUp count crew r)
    (here : crew id = some q) (fresh : taken ∉ takenUp) (now : get q' = some taken) :
    Token get (takenUp ++ [taken]) count (Function.update crew id (some q')) r := by
  by_cases same : r = taken
  · subst same
    have nobody : NoneHolds (fun q => get q = some r) crew :=
      fun i p there holds => fresh (token.held i p there holds).1
    exact .take nobody now ⟨by simp, (token.unheld nobody).2 fresh⟩
  · have lets (p : κ) (is : some q' = some p) : get p ≠ some r := by
      cases is
      rw [now]
      exact fun other => same (Option.some.inj other).symm
    by_cases holds : get q = some r
    · obtain ⟨known, unspent⟩ := token.held id q here holds
      exact Exclusive.release token here holds lets ⟨by omega, fun out => by simp [known] at out⟩
    · apply Exclusive.stand token _ lets
      · exact fun _ before => ⟨by simp [before.1], before.2⟩
      · intro _ free
        exact ⟨free.1, fun out => free.2 fun known => out (by simp [known])⟩
      · intro p there
        rw [here] at there
        cases there
        exact holds

end tokens

/-! ### Runs -/

/-- How often a request's turn has been sent to an executor. -/
def SendsStore.turns (st : SendsStore) (requestId : String) : Nat :=
  st.brains.dispatched.countP (·.1 = requestId)

def LogRow.isFinal (requestId : String) (row : LogRow) : Bool :=
  match row.event with
  | .answer requester (.agentFinal _) => requester = requestId
  | _ => false

/-- How often a request has been answered. -/
def SendsStore.finals (st : SendsStore) (requestId : String) : Nat :=
  st.log.countP (·.isFinal requestId)

/-- The rows under a key. -/
def SendsStore.keyed (st : SendsStore) (sessionId key : String) : List LogRow :=
  st.log.filter fun row => row.sessionId = sessionId ∧ row.idempotencyKey = some key

structure SendsInv (st : SendsStore) (crew : Nat → Option (SendsLaunch × SendsStage)) : Prop where
  turn : ∀ r, Token (·.2.turn) st.takenUp st.turns crew r
  final : ∀ r, Token (·.2.final) st.takenUp st.finals crew r
  keys : ∀ sessionId key, (st.keyed sessionId key).length ≤ 1

/-- No brain gets the lock for a request that has been taken up before. -/
def TakesUpOnce (s : (sendsSystem maxTurns).State) (a : (sendsSystem maxTurns).Action) : Prop :=
  match (sendsCertified maxTurns).issued s a with
  | some (_, .brain (some msg) (.setSessionBrain sessionId _)) =>
    s.store.brains.locks sessionId = none → msg.requestId ∉ s.store.takenUp
  | _ => True

section step
variable {maxTurns} {st st' : SendsStore} {crew : Nat → Option (SendsLaunch × SendsStage)}
  {id : Nat} {l : SendsLaunch} {g g' : SendsStage}

/-- Neither a turn is sent, nor a request answered or taken up. -/
theorem sendsInv_keeps (inv : SendsInv st crew) (here : crew id = some (l, g))
    (turns : st'.turns = st.turns) (finals : st'.finals = st.finals)
    (takenUp : st'.takenUp = st.takenUp)
    (keys : ∀ sessionId key, (st'.keyed sessionId key).length ≤ 1) :
    SendsInv st' (Function.update crew id (some (l, g))) where
  turn r := by
    rw [turns, takenUp]
    exact token_keeps (inv.turn r) here rfl
  final r := by
    rw [finals, takenUp]
    exact token_keeps (inv.final r) here rfl
  keys := keys

theorem turns_of_dispatched (same : st'.brains.dispatched = st.brains.dispatched) :
    st'.turns = st.turns := by
  funext r
  unfold SendsStore.turns
  rw [same]

theorem finals_append (sessionId : String) (key : Option String) (event : LogEvent) (r : String) :
    (st.append sessionId key event).finals r = st.finals r +
      if LogRow.isFinal r { sessionId, seq := nextSeq st.log sessionId, idempotencyKey := key, event }
      then 1 else 0 := by
  simp [SendsStore.append, SendsStore.finals, List.countP_append, List.countP_cons]

/-- What keeps the log, the turns and the requests taken up keeps the invariant. -/
theorem sendsInv_store (inv : SendsInv st crew) (turns : st'.turns = st.turns)
    (finals : st'.finals = st.finals) (takenUp : st'.takenUp = st.takenUp)
    (keys : ∀ sessionId key, (st'.keyed sessionId key).length ≤ 1) : SendsInv st' crew where
  turn r := by
    rw [turns, takenUp]
    exact inv.turn r
  final r := by
    rw [finals, takenUp]
    exact inv.final r
  keys := keys

/-- A row whose key is not in the log yet. -/
theorem keyed_append {sessionId : String} {key : Option String} {event : LogEvent}
    (keys : ∀ session key, (st.keyed session key).length ≤ 1)
    (fresh : clashes st.log sessionId key = false) (session k : String) :
    ((st.append sessionId key event).keyed session k).length ≤ 1 := by
  have before := keys session k
  unfold SendsStore.keyed SendsStore.append at *
  rw [List.filter_append, List.length_append]
  by_cases same : sessionId = session ∧ key = some k
  · obtain ⟨rfl, rfl⟩ := same
    have apart : (st.log.any fun row =>
        row.sessionId = sessionId ∧ row.idempotencyKey = some k) = false := fresh
    simpa using apart
  · simpa [same] using before

theorem sendsInv_append (inv : SendsInv st crew) (here : crew id = some (l, g)) {sessionId : String}
    {key : Option String} {event : LogEvent} (fresh : clashes st.log sessionId key = false)
    (plain : ∀ requester message, event ≠ .answer requester (.agentFinal message)) :
    SendsInv (st.append sessionId key event) (Function.update crew id (some (l, g))) := by
  refine sendsInv_keeps inv here rfl ?_ rfl (keyed_append inv.keys fresh)
  funext r
  rw [finals_append, if_neg, Nat.add_zero]
  unfold LogRow.isFinal
  split
  · rename_i requester message is
    exact absurd is (plain requester message)
  · simp

/-- An operation of a brain that sends no turn leaves the turns as they are. -/
theorem performSession_dispatched {brains brains' : SessionStore} {op : BrainOp} {reply : op.Reply}
    {answer : (op : BrainOp) → op.Reply} (plain : neutral op)
    (performed : performSession maxTurns op brains answer = some (reply, brains')) :
    brains'.dispatched = brains.dispatched := by
  refine performSession_cases (·.dispatched = brains.dispatched) performed rfl (fun _ => rfl)
    (fun _ _ _ _ => rfl) (fun _ _ => rfl) (fun _ _ _ _ => rfl) ?_ (fun _ _ _ _ => rfl)
  rintro edgeId executorId payload rfl
  cases payload with
  | sessionTurn => exact False.elim plain
  | _ => exact List.append_nil _

/-- An operation that concerns no request. -/
theorem sendsInv_neutral (inv : SendsInv st crew) (here : crew id = some (l, g))
    {current : Option SessionSend} {op : BrainOp} {reply : op.Reply} {brains : SessionStore}
    {answer : (op : BrainOp) → op.Reply} (plain : neutral op)
    (performed : performSession maxTurns op st.brains answer = some (reply, brains)) :
    SendsInv ({ st with brains }.witness current op reply)
      (Function.update crew id (some (l, g))) := by
  have same : SendsInv { st with brains } (Function.update crew id (some (l, g))) :=
    sendsInv_keeps inv here (turns_of_dispatched (performSession_dispatched plain performed)) rfl
      rfl inv.keys
  cases op with
  | setSessionBrain sessionId brainId => exact False.elim plain
  | appendAgentSessionEvent requester sessionId event =>
    have again : SendsInv
        (({ st with brains } : SendsStore).append sessionId none (.answer requester event))
        (Function.update (Function.update crew id (some (l, g))) id (some (l, g))) := by
      refine sendsInv_append same (Function.update_self ..) rfl ?_
      rintro other message ⟨⟩
      exact plain
    rwa [Function.update_idem] at again
  | _ => exact same

theorem sendsInv_sendTurn (inv : SendsInv st crew) (here : crew id = some (l, g))
    {requestId organizationId sessionId message executorId : String}
    (may : g.turn = some requestId) :
    SendsInv
      { st with
        brains := st.brains.send executorId
          (.sessionTurn requestId organizationId sessionId message) }
      (Function.update crew id (some (l, { g with turn := none }))) where
  turn r := by
    refine token_spend (inv.turn r) here may rfl ?_ ?_
    · simp [SendsStore.turns, SessionStore.send, List.countP_append]
    · intro other apart
      simp [SendsStore.turns, SessionStore.send, List.countP_append, Ne.symm apart]
  final r := token_keeps (inv.final r) here rfl
  keys := inv.keys

theorem sendsInv_answer (inv : SendsInv st crew) (here : crew id = some (l, g))
    {requester : String} (sessionId message : String) (may : g.final = some requester) :
    SendsInv (st.append sessionId none (.answer requester (.agentFinal message)))
      (Function.update crew id (some (l, { g with final := none }))) where
  turn r := token_keeps (inv.turn r) here rfl
  final r := by
    refine token_spend (inv.final r) here may rfl ?_ ?_
    · rw [finals_append, if_pos (by simp [LogRow.isFinal])]
    · intro other apart
      rw [finals_append, if_neg (by simp [LogRow.isFinal, Ne.symm apart]), Nat.add_zero]
  keys := keyed_append inv.keys rfl

theorem sendsInv_takeUp (inv : SendsInv st crew) (here : crew id = some (l, g))
    {requestId : String} {brains : SessionStore} (same : brains.dispatched = st.brains.dispatched)
    (fresh : requestId ∉ st.takenUp) :
    SendsInv { st with brains, takenUp := st.takenUp ++ [requestId] }
      (Function.update crew id (some (l, { turn := some requestId, final := some requestId }))) where
  turn r := by
    rw [turns_of_dispatched same]
    exact token_take (inv.turn r) here fresh rfl
  final r := token_take (inv.final r) here fresh rfl
  keys := inv.keys

theorem sendsInv_call (inv : SendsInv st crew) (here : crew id = some (l, g)) {op : SendsOp}
    {choice : SendsChoice} {reply : op.Reply} (permitted : g.permits op)
    (performed : performSends maxTurns st choice op = some (reply, st'))
    (fresh : ∀ msg sessionId brainId, op = .brain (some msg) (.setSessionBrain sessionId brainId) →
      st.brains.locks sessionId = none → msg.requestId ∉ st.takenUp) :
    SendsInv st' (Function.update crew id (some (l, g.observe op reply))) := by
  cases op with
  | getAgentSessionById organizationId sessionId =>
    cases performed
    exact sendsInv_keeps inv here rfl rfl rfl inv.keys
  | selectByKey sessionId key =>
    cases performed
    exact sendsInv_keeps inv here rfl rfl rfl inv.keys
  | insertRow send =>
    simp only [performSends] at performed
    split at performed
    · cases performed
      exact sendsInv_keeps inv here rfl rfl rfl inv.keys
    · split at performed
      · cases performed
        exact sendsInv_keeps inv here rfl rfl rfl inv.keys
      · rename_i free
        cases performed
        exact sendsInv_append inv here (Bool.eq_false_iff.mpr free) nofun
  | xaddJson msg =>
    cases performed
    split
    · exact sendsInv_keeps inv here rfl rfl rfl inv.keys
    · exact sendsInv_keeps inv here rfl rfl rfl inv.keys
  | brain current op =>
    obtain ⟨⟨reply, brains⟩, did, same⟩ := Option.map_eq_some_iff.mp performed
    cases same
    by_cases plain : neutral op
    · rw [show g.observe (.brain current op) reply = g from observe_neutral plain reply]
      exact sendsInv_neutral inv here plain did
    · cases op with
      | setSessionBrain sessionId brainId =>
        obtain ⟨msg, rfl⟩ := Option.isSome_iff_exists.mp permitted
        simp only [performSession] at did
        split at did
        · cases did
          exact sendsInv_keeps inv here rfl rfl rfl inv.keys
        · cases did
          exact sendsInv_takeUp inv here rfl (fresh msg sessionId brainId rfl ‹_›)
      | executorSession edgeId executorId payload =>
        cases payload with
        | sessionTurn requestId organizationId sessionId message =>
          cases did
          exact sendsInv_sendTurn inv here permitted
        | _ => exact absurd trivial plain
      | appendAgentSessionEvent requester sessionId event =>
        cases event with
        | agentFinal message =>
          cases did
          have stored : SendsInv { st with brains := { st.brains with
              events := st.brains.events ++ [(requester, .agentFinal message)] } } crew :=
            sendsInv_store inv rfl rfl rfl inv.keys
          exact sendsInv_answer stored here sessionId message permitted
        | _ => exact absurd trivial plain
      | _ => exact absurd trivial plain

theorem dispatched_receive (brains : SessionStore) (executorId : String)
    (payload : SessionPayload) :
    (brains.receive executorId payload).dispatched = brains.dispatched := by
  unfold SessionStore.receive
  split
  · rfl
  · split
    · rfl
    · split <;> rfl
  · rfl

/-- Brains and executors change on their own: no turn is sent. -/
theorem dispatched_tick {brains brains' : SessionStore} {tick : SessionTick}
    (ticked : sessionTick brains tick = some brains') : brains'.dispatched = brains.dispatched := by
  have taken {index : Nat} {command : String × SessionPayload} {after : SessionStore}
      (is : brains.take index = some (command, after)) :
      after.dispatched = brains.dispatched := by
    obtain ⟨_, -, same⟩ := Option.map_eq_some_iff.mp is
    cases same
    rfl
  cases tick with
  | receive index =>
    obtain ⟨⟨command, mid⟩, is, rfl⟩ := Option.map_eq_some_iff.mp ticked
    exact (dispatched_receive mid _ _).trans (taken is)
  | refuse index =>
    obtain ⟨⟨⟨executorId, payload⟩, mid⟩, is, rfl⟩ := Option.map_eq_some_iff.mp ticked
    have before := taken is
    cases payload <;> exact before
  | drop index =>
    obtain ⟨⟨command, mid⟩, is, rfl⟩ := Option.map_eq_some_iff.mp ticked
    exact taken is
  | finishTurn executorId context result =>
    obtain ⟨ctx, -, ended⟩ := Option.bind_eq_some_iff.mp ticked
    obtain ⟨turn, -, rfl⟩ := Option.map_eq_some_iff.mp ended
    cases result <;> rfl
  | _ =>
    cases ticked
    rfl

theorem sendsInv_tick (inv : SendsInv st crew) {tick : SendsTick}
    (ticked : tickSends st tick = some st') : SendsInv st' crew := by
  have session {tick : SessionTick}
      (ticked : (sessionTick st.brains tick).map (fun brains => { st with brains }) = some st') :
      SendsInv st' crew := by
    obtain ⟨brains, did, rfl⟩ := Option.map_eq_some_iff.mp ticked
    exact sendsInv_store inv (turns_of_dispatched (dispatched_tick did)) rfl rfl inv.keys
  cases tick with
  | session tick =>
    unfold tickSends at ticked
    split at ticked
    · cases ticked
    · rename_i is
      cases is
      exact session ticked
    · rename_i is
      cases is
  | append sessionId key eventType =>
    simp only [tickSends, Option.ite_none_left_eq_some, Option.some.injEq] at ticked
    obtain ⟨fresh, rfl⟩ := ticked
    refine sendsInv_store inv rfl ?_ rfl (keyed_append inv.keys (by simpa using fresh))
    funext r
    rw [finals_append, if_neg (by simp [LogRow.isFinal]), Nat.add_zero]

end step

theorem sendsInv_empty : SendsInv .empty fun _ => none where
  turn _ := ⟨fun _ _ here => (by cases here), fun _ _ _ _ here => (by cases here),
    fun _ => ⟨Nat.zero_le _, fun _ => rfl⟩⟩
  final _ := ⟨fun _ _ here => (by cases here), fun _ _ _ _ here => (by cases here),
    fun _ => ⟨Nat.zero_le _, fun _ => rfl⟩⟩
  keys _ _ := Nat.zero_le _

theorem sendsInv_step {s t : (sendsSystem maxTurns).State} {a : (sendsSystem maxTurns).Action}
    (all : (sendsCertified maxTurns).AllFollow s)
    (inv : SendsInv s.store ((sendsCertified maxTurns).crew s)) (once : TakesUpOnce maxTurns s a)
    (stepped : System.Stepped s a t) : SendsInv t.store ((sendsCertified maxTurns).crew t) := by
  have happened := Certified.happened all stepped
  generalize (sendsCertified maxTurns).crew t = crew at happened ⊢
  generalize t.store = store at happened ⊢
  cases happened with
  | @launch id l store free launched =>
    have without (new : Option (SendsLaunch × SendsStage))
        (is : new = some (l, { turn := none, final := none })) (store : SendsStore)
        (turns : store.turns = s.store.turns) (finals : store.finals = s.store.finals)
        (takenUp : store.takenUp = s.store.takenUp) (log : store.log = s.store.log) :
        SendsInv store (Function.update ((sendsCertified maxTurns).crew s) id new) := by
      subst is
      refine sendsInv_store ⟨fun r => ?_, fun r => ?_, inv.keys⟩ turns finals takenUp ?_
      · exact token_without (inv.turn r) (by rintro q ⟨⟩; rfl)
      · exact token_without (inv.final r) (by rintro q ⟨⟩; rfl)
      · simpa only [SendsStore.keyed, log] using inv.keys
    cases l with
    | send send =>
      cases launched
      exact without _ rfl _ rfl rfl rfl rfl
    | brain env =>
      simp only [Option.ite_none_left_eq_some, Option.some.injEq] at launched
      obtain ⟨-, rfl⟩ := launched
      exact without _ rfl _ rfl rfl rfl rfl
  | call here issues permitted performed =>
    refine sendsInv_call inv here permitted performed ?_
    rintro msg sessionId brainId rfl
    unfold TakesUpOnce at once
    rw [issues] at once
    exact once
  | loop => exact inv
  | @finish id l g o here ended =>
    have gone : SendsInv s.store (Function.update ((sendsCertified maxTurns).crew s) id none) :=
      ⟨fun r => token_without (inv.turn r) nofun, fun r => token_without (inv.final r) nofun,
        inv.keys⟩
    cases l with
    | send send => exact gone
    | brain env => exact sendsInv_store gone rfl rfl rfl inv.keys
  | tick ticked => exact sendsInv_tick inv ticked

theorem sendsInv_run {s : (sendsSystem maxTurns).State}
    (run : System.Steps (TakesUpOnce maxTurns) (noSends maxTurns) s) :
    SendsInv s.store ((sendsCertified maxTurns).crew s) :=
  ((sendsCertified maxTurns).invariant
    (fun s => SendsInv s.store ((sendsCertified maxTurns).crew s)) (fun _ => rfl) sendsInv_empty
    (fun _ _ _ all inv once stepped => sendsInv_step maxTurns all inv once stepped) run).2

/-- A key has one row at most, and its request one turn and one answer. -/
theorem sends_idempotent {s : (sendsSystem maxTurns).State}
    (run : System.Steps (TakesUpOnce maxTurns) (noSends maxTurns) s) (sessionId key : String) :
    (s.store.keyed sessionId key).length ≤ 1 ∧ ∀ row ∈ s.store.keyed sessionId key,
      s.store.finals row.requestId ≤ 1 ∧ s.store.turns row.requestId ≤ 1 := by
  have inv := sendsInv_run maxTurns run
  refine ⟨inv.keys sessionId key, fun row _ => ?_⟩
  exact ⟨(inv.final row.requestId).le_one, (inv.turn row.requestId).le_one⟩

/-! ### A message sent twice -/

instance (s : (sendsSystem maxTurns).State) (a : (sendsSystem maxTurns).Action) :
    Decidable (TakesUpOnce maxTurns s a) := by
  unfold TakesUpOnce
  split <;> infer_instance

namespace Sample

def keyedSend : UserSend :=
  { organizationId := "org", sessionId := "s", message := some "s:turn:0"
    idempotencyKey := some "key" }

def sendsChoice : SendsChoice :=
  { found := true, added := true, brain := sessionAnswers (sendOf "s:turn:0") }

def sendsCalls (id n : Nat) : List (sendsSystem oneTurn).Action :=
  List.replicate n (.call id sendsChoice)

/-- A sender with `n` operations, from its launch to its end. -/
def sends (id n : Nat) : List (sendsSystem oneTurn).Action :=
  .launch id (.send keyedSend) :: sendsCalls id n ++ [.finish id]

/-- A brain reads the send, opens the session and sends the turn. -/
def sendsTurn (id : Nat) : List (sendsSystem oneTurn).Action :=
  .launch id (.brain env) :: sendsCalls id 8 ++ [.tick (.session (.receive 0))] ++ sendsCalls id 3

def turnAnswered : List (sendsSystem oneTurn).Action :=
  [.tick (.session (.receive 0)), .tick (.session (.finishTurn "node" 0 (.ok "hello")))]

/-- How often the one request was sent as a turn and answered, and the rows of its key. -/
def sendsCount (s : (sendsSystem oneTurn).State) : Nat × Nat × List LogRow :=
  (s.store.turns "s:turn:0", s.store.finals "s:turn:0", s.store.keyed "s" "key")

def keyedRow : LogRow :=
  { sessionId := "s", seq := 0, idempotencyKey := some "key"
    event := .userMessage (some "s:turn:0") }

end Sample

/-- The second send is read while the first one is answered. -/
theorem sends_idempotent_second : ∃ s : (sendsSystem Sample.oneTurn).State,
    Sample.sendsCount s = (1, 1, [Sample.keyedRow]) ∧
      s.store.finals Sample.keyedRow.requestId ≤ 1 ∧
        s.store.turns Sample.keyedRow.requestId ≤ 1 := by
  have ran : (System.exec (TakesUpOnce Sample.oneTurn) (noSends Sample.oneTurn)
      (Sample.sends 0 4 ++ Sample.sends 0 3 ++ Sample.sendsTurn 0 ++
        .launch 1 (.brain Sample.secondEnv) :: Sample.sendsCalls 1 2 ++ [.finish 1] ++
        Sample.turnAnswered ++ Sample.sendsCalls 0 9)).map Sample.sendsCount =
      some (1, 1, [Sample.keyedRow]) := by decide +kernel
  obtain ⟨s, run, same⟩ := Option.map_eq_some_iff.mp ran
  refine ⟨s, same, ?_⟩
  have keyed : s.store.keyed "s" "key" = [Sample.keyedRow] :=
    (Prod.mk.inj (Prod.mk.inj same).2).2
  apply (sends_idempotent Sample.oneTurn (System.steps_of_exec run) "s" "key").2
  simp [keyed]

/-- The reply of the first turn still stands when the second one is sent. -/
theorem sent_twice : ¬∀ (maxTurns : String → Nat) (s : (sendsSystem maxTurns).State),
    System.Steps (fun _ _ => True) (noSends maxTurns) s → ∀ sessionId key,
      (s.store.keyed sessionId key).length ≤ 1 ∧ ∀ row ∈ s.store.keyed sessionId key,
        s.store.finals row.requestId ≤ 1 ∧ s.store.turns row.requestId ≤ 1 := by
  intro claim
  have ran : (System.exec (fun _ _ => True) (noSends Sample.oneTurn)
      (Sample.sends 0 4 ++ Sample.sends 0 3 ++ Sample.sendsTurn 0 ++ Sample.turnAnswered ++
        Sample.sendsCalls 0 9 ++ [.finish 0] ++ Sample.sendsTurn 0 ++
        Sample.sendsCalls 0 9)).map Sample.sendsCount =
      some (2, 2, [Sample.keyedRow]) := by decide +kernel
  obtain ⟨s, run, same⟩ := Option.map_eq_some_iff.mp ran
  obtain ⟨turns, rest⟩ := Prod.mk.inj same
  obtain ⟨finals, keyed⟩ := Prod.mk.inj rest
  have once := ((claim Sample.oneTurn s (System.steps_of_exec run) "s" "key").2
    Sample.keyedRow (by simp [keyed])).2
  rw [show Sample.keyedRow.requestId = "s:turn:0" by decide +kernel, turns] at once
  omega

end Vespid.Brain
