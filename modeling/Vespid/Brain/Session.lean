import Vespid.Brain.Select

/-!
# Handling session messages

A brain reads the messages of its stream in batches and handles one after the other. Which
turn of a session it is waiting for is known to its own process only.
-/

namespace Vespid.Brain

open Interleaving

def gatewayEngines : List String := ["gateway.codex.v2", "gateway.claude.v2", "gateway.opencode.v2"]

def requiresExecutorOAuth (engineId : String) (hasInlineSecret : Bool) :
    Option ExecutorOauthEngineId :=
  if hasInlineSecret then none
  else if engineId = "gateway.codex.v2" then some .codex
  else if engineId = "gateway.claude.v2" then some .claude
  else none

def sessionEngineId (session : AgentSession) : String := session.engineId.getD "gateway.codex.v2"

def sessionTimeoutMs (session : AgentSession) : Nat := session.timeoutMs.getD 60000

def sessionMaxTurns (session : AgentSession) : Int :=
  match session.maxTurns with
  | some maxTurns => max 1 maxTurns
  | none => 8

theorem sessionMaxTurns_pos (session : AgentSession) : 1 ≤ sessionMaxTurns session := by
  unfold sessionMaxTurns
  split <;> omega

def defaultInstructions : String := "Help me accomplish my task safely and efficiently."

def priorPinned (session : AgentSession) : Option (String × ExecutorPool) :=
  let executorId := (session.pinnedExecutorId.filter (· ≠ "")).or session.pinnedAgentId
  match executorId.filter (· ≠ ""), session.pinnedExecutorPool with
  | some executorId, some pool => some (executorId, pool)
  | some executorId, none => some (executorId, .byon)
  | none, _ => none

def failSession (msg : SessionSend) (code message : String) : BrainProgram Unit :=
  await (.appendAgentSessionEvent msg.requestId msg.sessionId (.error code message))

/-- The codes and texts of a selection that failed. -/
def SelectError.sessionError : SelectError → String × String
  | orgQuotaExceeded =>
    ("ORG_QUOTA_EXCEEDED", "Organization concurrent execution quota exceeded.")
  | executorOverCapacity => ("EXECUTOR_OVER_CAPACITY", "No available capacity on executor pool.")
  | executorOauthNotVerified => ("EXECUTOR_OAUTH_NOT_VERIFIED",
      "No OAuth-verified executor is currently available for this engine.")
  | noExecutorAvailable =>
    ("NO_AGENT_AVAILABLE", "No node-host is currently available for this session.")

def sessionSelectInput (env : BrainEnv) (msg : SessionSend) (session : AgentSession)
    (selector : Option ExecutorSelector) (orgMaxInFlight : Nat) : SelectInput :=
  { organizationId := msg.organizationId
    kind := .agentRun
    selector
    oauthRequiredEngine := requiresExecutorOAuth (sessionEngineId session) session.hasSecret
    orgMaxInFlight
    reserveTtlMs := env.reserveTtlMs }

/-- The pinned executor, tried first; what it fails with may end the search. -/
def selectPinned (env : BrainEnv) (msg : SessionSend) (session : AgentSession)
    (orgMaxInFlight : Nat) : BrainProgram (Except (String × String) (Option SelectedExecutor)) :=
  match priorPinned session with
  | none => return .ok none
  | some (executorId, pool) => do
    let selector : ExecutorSelector :=
      { pool, labels := none, group := none, tag := none, executorId := some executorId }
    let selection ←
      selectExecutorForTool (sessionSelectInput env msg session (some selector) orgMaxInFlight)
    match selection with
    | .ok executor => return .ok (some executor)
    | .error .orgQuotaExceeded => return .error SelectError.orgQuotaExceeded.sessionError
    | .error .executorOauthNotVerified => return .error ("EXECUTOR_OAUTH_NOT_VERIFIED",
        "Pinned executor is not OAuth-verified for this engine.")
    | .error _ => return .ok none

def selectForSession (env : BrainEnv) (msg : SessionSend) (session : AgentSession)
    (orgMaxInFlight : Nat) : BrainProgram (Except (String × String) SelectedExecutor) := do
  let pinned ← selectPinned env msg session orgMaxInFlight
  match pinned with
  | .error failure => return .error failure
  | .ok (some executor) => return .ok executor
  | .ok none =>
    let selected ← selectSessionExecutor
      (sessionSelectInput env msg session session.executorSelector orgMaxInFlight)
    match selected with
    | .ok executor => return .ok executor
    | .error error => return .error error.sessionError

/-- Keep the session on the executor it has got. -/
def storePin (msg : SessionSend) (session : AgentSession) (executor : SelectedExecutor) :
    BrainProgram AgentSession :=
  if session.pinnedExecutorId ≠ some executor.executorId ∨
      session.pinnedExecutorPool ≠ some executor.pool then do
    let updated : Option AgentSession ← await (.setAgentSessionPinnedAgent msg.organizationId
      msg.sessionId executor.executorId executor.pool)
    return updated.getD session
  else return session

/-- Tell when the executor is not the one the session was pinned to. -/
def tellFailover (msg : SessionSend) (session : AgentSession) (executor : SelectedExecutor) :
    BrainProgram Unit :=
  match priorPinned session with
  | some source =>
    if source ≠ (executor.executorId, executor.pool) then
      await (.appendAgentSessionEvent msg.requestId msg.sessionId
        (.sessionExecutorFailover source (executor.executorId, executor.pool)))
    else return ()
  | none => return ()

def persistPin (msg : SessionSend) (session : AgentSession) (executor : SelectedExecutor) :
    BrainProgram AgentSession := do
  let persisted ← storePin msg session executor
  tellFailover msg session executor
  return persisted

def openMessage (msg : SessionSend) (session : AgentSession) : SessionPayload :=
  .sessionOpen s!"{msg.requestId}:open" msg.organizationId msg.sessionId
    ((session.sessionKey.filter (· ≠ "")).getD s!"session:{msg.sessionId}")
    session.promptSystem (session.promptInstructions.getD defaultInstructions)
    (sessionMaxTurns session) (sessionTimeoutMs session)

def turnMessage (msg : SessionSend) : SessionPayload :=
  .sessionTurn msg.requestId msg.organizationId msg.sessionId (msg.message.getD "")

def activeTurn (msg : SessionSend) (executor : SelectedExecutor) : ActiveSessionTurn :=
  { organizationId := msg.organizationId
    sessionId := msg.sessionId
    requestId := msg.requestId
    executorId := executor.executorId
    edgeId := executor.edgeId
    canceled := false }

/-- Whether the turn of `msg` is the active one and has been canceled. -/
def isCanceled (msg : SessionSend) (current : Option ActiveSessionTurn) : Bool :=
  current.any fun turn => turn.requestId == msg.requestId && turn.canceled

def settleTurn (env : BrainEnv) (msg : SessionSend) (reply : TurnReply) : BrainProgram Unit := do
  let current : Option ActiveSessionTurn ← await (.getActiveTurn env.brainId msg.sessionId)
  match reply.status with
  | .failed =>
    if reply.code = some "TURN_CANCELED" ∨ isCanceled msg current then
      await (.appendAgentSessionEvent msg.requestId msg.sessionId
        (.sessionTurnCanceled msg.requestId))
    else
      failSession msg
        ((reply.code.or reply.error).getD "NODE_EXECUTION_FAILED")
        (reply.error.getD "Agent turn failed on pinned node-host.")
  | .succeeded =>
    if isCanceled msg current then return ()
    else
      await (.appendAgentSessionEvent msg.requestId msg.sessionId
        (.agentMessage (reply.content.getD "")))
      await (.appendAgentSessionEvent msg.requestId msg.sessionId
        (.agentFinal (reply.content.getD "")))

/-- Open the session on the executor, hand it the turn and wait for the answer. -/
def runOnExecutor (env : BrainEnv) (msg : SessionSend) (session : AgentSession)
    (executor : SelectedExecutor) : BrainProgram Unit := do
  await (.executorSession executor.edgeId executor.executorId (openMessage msg session))
  let opened : Option OpenedReply ← await (.waitForOpened s!"{msg.requestId}:open"
    (min (sessionTimeoutMs session) env.sessionOpenTimeoutMs + env.executorReplyGraceMs))
  if !opened.any (·.ok) then
    failSession msg "PINNED_AGENT_OFFLINE"
      ((opened.bind (·.error)).getD "Node-host could not open the session.")
  else do
    await (.setActiveTurn env.brainId msg.sessionId (activeTurn msg executor))
    await (.executorSession executor.edgeId executor.executorId (turnMessage msg))
    let reply : Option TurnReply ← await (.waitForTurnReply msg.requestId
      (sessionTimeoutMs session + env.executorReplyGraceMs))
    match reply with
    | none => failSession msg "NODE_EXECUTION_TIMEOUT" "Pinned node-host did not reply in time."
    | some reply => settleTurn env msg reply

def turnOnExecutor (env : BrainEnv) (msg : SessionSend) (session : AgentSession)
    (executor : SelectedExecutor) : BrainProgram Unit := do
  let session ← persistPin msg session executor
  if (session.routedAgentId.filter (· ≠ "")).getD executor.executorId = "" then
    failSession msg "NO_AGENT_AVAILABLE" "No routed agent was resolved for this session."
  else if executor.pool ≠ .byon then
    failSession msg "NO_AGENT_AVAILABLE" "Sessions are BYON-only in this release."
  else runOnExecutor env msg session executor

/-- What is tried under the session's lock; it returns the executor it has reserved. -/
def trySessionSend (env : BrainEnv) (msg : SessionSend) :
    BrainProgram (Option SelectedExecutor) := do
  let session : Option AgentSession ←
    await (.getAgentSessionById msg.organizationId msg.sessionId)
  match session with
  | none => return none
  | some session =>
    let orgMaxInFlight : Nat ← await (.getOrgMaxInFlight msg.organizationId)
    if sessionEngineId session ∉ gatewayEngines then
      failSession msg "EXECUTOR_UNSUPPORTED_ENGINE"
        s!"UNSUPPORTED_SESSION_ENGINE:{sessionEngineId session}"
      return none
    else do
      let selected ← selectForSession env msg session orgMaxInFlight
      match selected with
      | .error (code, message) =>
        failSession msg code message
        return none
      | .ok executor =>
        turnOnExecutor env msg session executor
        return some executor

/-- The turn is no longer the active one of its session. -/
def forgetTurn (env : BrainEnv) (msg : SessionSend) : BrainProgram Unit := do
  let current : Option ActiveSessionTurn ← await (.getActiveTurn env.brainId msg.sessionId)
  if current.any (·.requestId == msg.requestId) then
    await (.deleteActiveTurn env.brainId msg.sessionId)
  else return ()

def releaseSelected (msg : SessionSend) : Option SelectedExecutor → BrainProgram Unit
  | some executor => releaseCapacity executor.executorId msg.organizationId
  | none => return ()

def handleSessionSend (env : BrainEnv) (msg : SessionSend) : BrainProgram Unit := do
  let lockOk : Bool ← await (.setSessionBrain msg.sessionId env.brainId)
  if !lockOk then return ()
  else do
    let selected ← trySessionSend env msg
    -- the `finally` block
    forgetTurn env msg
    releaseSelected msg selected
    await (.delSessionBrain msg.sessionId)

def handleSessionCancel (env : BrainEnv) (msg : SessionCancel) : BrainProgram Unit := do
  let current : Option ActiveSessionTurn ← await (.getActiveTurn env.brainId msg.sessionId)
  match current with
  | none => return ()
  | some turn =>
    if turn.organizationId ≠ msg.organizationId then return ()
    else if turn.canceled then return ()
    else do
      await (.setActiveTurn env.brainId msg.sessionId { turn with canceled := true })
      await (.executorSession turn.edgeId turn.executorId
        (.sessionCancel turn.requestId msg.organizationId msg.sessionId))
      await (.appendAgentSessionEvent turn.requestId msg.sessionId
        (.sessionCancelRequested turn.requestId))

def handleRequest (env : BrainEnv) : EdgeToBrainRequest → BrainProgram Unit
  | .sessionSend msg => handleSessionSend env msg
  | .sessionCancel msg => handleSessionCancel env msg
  | .other => await .handleOther

def handleAll (env : BrainEnv) : List EdgeToBrainRequest → BrainProgram Unit
  | [] => return ()
  | msg :: rest => do
    handleRequest env msg
    handleAll env rest

/-- One round of the brain's loop. -/
def brainRound (env : BrainEnv) : BrainProgram Unit := do
  let records : List EdgeToBrainRequest ← await (.xreadGroup env.brainId)
  handleAll env records

/-! ### What the parts of a handler issue -/

def pinning : BrainOp → Prop
  | .setAgentSessionPinnedAgent .. | .appendAgentSessionEvent _ _ (.sessionExecutorFailover ..) =>
    True
  | _ => False

def forgetting : BrainOp → Prop
  | .getActiveTurn .. | .deleteActiveTurn .. => True
  | _ => False

def releasing : BrainOp → Prop
  | .decr _ => True
  | _ => False

def canceling : BrainOp → Prop
  | .getActiveTurn .. | .setActiveTurn .. | .executorSession _ _ (.sessionCancel ..)
  | .appendAgentSessionEvent _ _ (.sessionCancelRequested _) => True
  | _ => False

theorem selectForSession_selecting (env : BrainEnv) (msg : SessionSend) (session : AgentSession)
    (orgMaxInFlight : Nat) : (selectForSession env msg session orgMaxInFlight).Only selecting := by
  have pinned : (selectPinned env msg session orgMaxInFlight).Only selecting := by
    unfold selectPinned
    split
    · trivial
    · refine Program.only_bind (selectExecutorForTool_selecting _) fun selected => ?_
      cases selected with
      | ok executor => trivial
      | error error => cases error <;> trivial
  refine Program.only_bind pinned fun pinned => ?_
  match pinned with
  | .error failure => trivial
  | .ok (some executor) => trivial
  | .ok none =>
    refine Program.only_bind (selectExecutorForTool_selecting _) fun selected => ?_
    cases selected <;> trivial

theorem tellFailover_pinning (msg : SessionSend) (session : AgentSession)
    (executor : SelectedExecutor) : (tellFailover msg session executor).Only pinning := by
  unfold tellFailover
  split
  · split
    · exact ⟨trivial, fun _ => trivial⟩
    · trivial
  · trivial

theorem persistPin_pinning (msg : SessionSend) (session : AgentSession)
    (executor : SelectedExecutor) : (persistPin msg session executor).Only pinning := by
  have stored : (storePin msg session executor).Only pinning := by
    unfold storePin
    split
    · exact ⟨trivial, fun _ => trivial⟩
    · trivial
  exact Program.only_bind stored fun _ =>
    Program.only_bind (tellFailover_pinning msg session executor) fun _ => trivial

theorem forgetTurn_forgetting (env : BrainEnv) (msg : SessionSend) :
    (forgetTurn env msg).Only forgetting := by
  simp only [forgetTurn, await, Program.issue_eq, Program.call_bind, Program.done_bind,
    Program.only_call]
  refine ⟨trivial, fun current => ?_⟩
  split
  · exact ⟨trivial, fun _ => trivial⟩
  · trivial

theorem releaseSelected_releasing (msg : SessionSend) (selected : Option SelectedExecutor) :
    (releaseSelected msg selected).Only releasing := by
  cases selected with
  | none => trivial
  | some executor => exact ⟨trivial, fun _ => ⟨trivial, fun _ => trivial⟩⟩

theorem handleSessionCancel_canceling (env : BrainEnv) (msg : SessionCancel) :
    (handleSessionCancel env msg).Only canceling := by
  simp only [handleSessionCancel, await, Program.issue_eq, Program.call_bind, Program.done_bind,
    Program.only_call]
  refine ⟨trivial, fun current => ?_⟩
  cases current with
  | none => trivial
  | some turn =>
    dsimp only
    split
    · trivial
    split
    · trivial
    · exact ⟨trivial, fun _ => ⟨trivial, fun _ => ⟨trivial, fun _ => trivial⟩⟩⟩

end Vespid.Brain
