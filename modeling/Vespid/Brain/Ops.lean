import Vespid.Brain.Capacity
import Vespid.Lib.Program

/-!
# What a gateway brain awaits

The messages, rows and replies a brain handles, and the operations its handlers issue on
Redis, the database and the bus. Broadcasts to clients, which nothing waits for, are left out.
-/

namespace Vespid.Brain

open Interleaving

/-! ### Executors -/

inductive GatewayExecutionKind where
  | connectorAction
  | agentExecute
  | agentRun
  deriving DecidableEq

inductive ExecutorPool where
  | managed
  | byon
  deriving DecidableEq

/-- The engines whose accounts live on the executor. -/
inductive ExecutorOauthEngineId where
  | codex
  | claude
  deriving DecidableEq

structure ExecutorSelector where
  pool : ExecutorPool
  labels : Option (List String)
  group : Option String
  tag : Option String
  executorId : Option String
  deriving DecidableEq

structure ExecutorRoute where
  edgeId : String
  executorId : String
  pool : ExecutorPool
  organizationId : Option String
  labels : Option (List String)
  maxInFlight : Option Nat
  kinds : Option (List GatewayExecutionKind)
  oauthVerified : List ExecutorOauthEngineId
  deriving DecidableEq

structure SelectedExecutor where
  executorId : String
  edgeId : String
  maxInFlight : Nat
  pool : ExecutorPool
  deriving DecidableEq

/-! ### Workspaces and tool calls -/

structure WorkspaceOwner where
  ownerType : String
  ownerId : String
  deriving DecidableEq

structure WorkspaceRow where
  id : String
  currentVersion : Nat
  currentObjectKey : String
  currentEtag : Option String
  deriving DecidableEq

/-- Where an executor finds the workspace and where it is to upload the next version. -/
structure InvokeTool where
  requestId : String
  organizationId : String
  kind : GatewayExecutionKind
  payload : String
  timeoutMs : Nat
  workspaceId : String
  version : Nat
  objectKey : String
  downloadKey : Option String
  uploadKey : String
  uploadVersion : Nat
  deriving DecidableEq

inductive ReplyStatus where
  | succeeded
  | failed
  deriving DecidableEq

structure WorkspacePointer where
  workspaceId : String
  version : Nat
  objectKey : Option String
  etag : Option String
  deriving DecidableEq

structure ToolReply where
  status : ReplyStatus
  output : Option String
  error : Option String
  workspace : Option WorkspacePointer
  deriving DecidableEq

/-! ### Sessions -/

structure AgentSession where
  id : String
  organizationId : String
  engineId : Option String
  hasSecret : Bool
  executorSelector : Option ExecutorSelector
  maxTurns : Option Int
  timeoutMs : Option Nat
  promptSystem : Option String
  promptInstructions : Option String
  pinnedExecutorId : Option String
  pinnedExecutorPool : Option ExecutorPool
  pinnedAgentId : Option String
  sessionKey : Option String
  routedAgentId : Option String
  deriving DecidableEq

inductive SessionEvent where
  | error (code message : String)
  | sessionExecutorFailover (source target : String × ExecutorPool)
  | sessionTurnCanceled (requestId : String)
  | sessionCancelRequested (requestId : String)
  | agentMessage (message : String)
  | agentFinal (message : String)
  deriving DecidableEq

structure SessionSend where
  requestId : String
  organizationId : String
  sessionId : String
  message : Option String
  deriving DecidableEq

structure SessionCancel where
  requestId : String
  organizationId : String
  sessionId : String
  deriving DecidableEq

/-- What a brain tells an executor about a session. -/
inductive SessionPayload where
  | sessionOpen (requestId organizationId sessionId sessionKey : String) (system : Option String)
      (instructions : String) (maxTurns : Int) (timeoutMs : Nat)
  | sessionTurn (requestId organizationId sessionId message : String)
  | sessionCancel (requestId organizationId sessionId : String)
  deriving DecidableEq

structure OpenedReply where
  ok : Bool
  error : Option String
  deriving DecidableEq

structure TurnReply where
  status : ReplyStatus
  content : Option String
  error : Option String
  code : Option String
  deriving DecidableEq

structure ActiveSessionTurn where
  organizationId : String
  sessionId : String
  requestId : String
  executorId : String
  edgeId : String
  canceled : Bool
  deriving DecidableEq

/-- What the edges put on the stream to the brains. -/
inductive EdgeToBrainRequest where
  | sessionSend (msg : SessionSend)
  | sessionCancel (msg : SessionCancel)
  | other
  deriving DecidableEq

/-! ### Operations -/

/-- Where an operation has a `requester`, it names what the operation is issued for: a request,
or the stream entry of a tool call. -/
inductive BrainOp where
  | getOrgMaxInFlight (organizationId : String)
  | listExecutorRoutes (pool : ExecutorPool) (organizationId : Option String)
  | getInFlight (executorId : String)
  | getExecutorLastUsedMs (executorId : String)
  | markExecutorUsed (executorId : String)
  | reserveCapacity (input : ReserveInput)
  | decr (key : InFlightKey)
  | getExecutionWorkspaceByOwner (organizationId : String) (owner : WorkspaceOwner)
  | createExecutionWorkspace (organizationId : String) (owner : WorkspaceOwner)
  | tryLockExecutionWorkspace (workspaceId lockToken : String) (lockTtlSec : Nat)
  | executorInvoke (edgeId executorId : String) (invoke : InvokeTool)
  | waitForToolReply (requestId : String) (timeoutMs : Nat)
  | commitExecutionWorkspaceVersion (requester : Nat) (workspaceId : String)
      (expectedCurrentVersion : Nat) (nextObjectKey : String) (nextEtag : Option String)
  | releaseExecutionWorkspaceLock (workspaceId lockToken : String)
  | setSessionBrain (sessionId brainId : String)
  | delSessionBrain (sessionId : String)
  | getAgentSessionById (organizationId sessionId : String)
  | setAgentSessionPinnedAgent (organizationId sessionId pinnedExecutorId : String)
      (pinnedExecutorPool : ExecutorPool)
  | appendAgentSessionEvent (requester sessionId : String) (event : SessionEvent)
  | executorSession (edgeId executorId : String) (payload : SessionPayload)
  | waitForOpened (requestId : String) (timeoutMs : Nat)
  | waitForTurnReply (requestId : String) (timeoutMs : Nat)
  | getActiveTurn (brainId sessionId : String)
  | setActiveTurn (brainId sessionId : String) (turn : ActiveSessionTurn)
  | deleteActiveTurn (brainId sessionId : String)
  | xreadGroup (brainId : String)
  | handleOther
  deriving DecidableEq

abbrev BrainOp.Reply : BrainOp → Type
  | getOrgMaxInFlight _ => Nat
  | listExecutorRoutes .. => List ExecutorRoute
  | getInFlight _ => Nat
  | getExecutorLastUsedMs _ => Nat
  | markExecutorUsed _ => Unit
  | reserveCapacity _ => ReserveCapacityResult
  -- whether it went through
  | decr _ => Bool
  | getExecutionWorkspaceByOwner .. => Option WorkspaceRow
  | createExecutionWorkspace .. => WorkspaceRow
  | tryLockExecutionWorkspace .. => Bool
  -- the entry it got on the stream
  | executorInvoke .. => Nat
  | waitForToolReply .. => Option ToolReply
  | commitExecutionWorkspaceVersion .. => Bool
  | releaseExecutionWorkspaceLock .. => Unit
  | setSessionBrain .. => Bool
  | delSessionBrain _ => Unit
  | getAgentSessionById .. => Option AgentSession
  | setAgentSessionPinnedAgent .. => Option AgentSession
  | appendAgentSessionEvent .. => Unit
  | executorSession .. => Unit
  | waitForOpened .. => Option OpenedReply
  | waitForTurnReply .. => Option TurnReply
  | getActiveTurn .. => Option ActiveSessionTurn
  | setActiveTurn .. => Unit
  | deleteActiveTurn .. => Unit
  | xreadGroup _ => List EdgeToBrainRequest
  | handleOther => Unit

abbrev BrainOps : Interface where
  Op := BrainOp
  Reply := BrainOp.Reply

abbrev BrainProgram := Program BrainOps

abbrev await (op : BrainOp) : BrainProgram op.Reply := Program.issue (I := BrainOps) op

/-- The settings a brain reads from its environment. -/
structure BrainEnv where
  brainId : String
  reserveTtlMs : Nat
  executorReplyGraceMs : Nat
  sessionOpenTimeoutMs : Nat
  s3Configured : Bool

end Vespid.Brain
