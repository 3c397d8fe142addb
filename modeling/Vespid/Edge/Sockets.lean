import Vespid.Brain.Ops
import Vespid.Js
import Vespid.Lib.System

/-!
# The executor side of an edge

An edge keeps a table of the executors connected to it and tables of the requests it has handed
to them. The code between two awaits runs as one step; Redis commands take effect in the order
in which they are issued.
-/

namespace Vespid.Edge

open Interleaving Brain

structure ConnectedExecutor where
  executorId : String
  pool : ExecutorPool
  organizationId : Option String
  configuredMaxInFlight : Nat
  name : Option String
  labels : List String
  maxInFlight : Nat
  kinds : List Brain.GatewayExecutionKind
  deriving DecidableEq

/-- `executor_hello_v2` -/
structure ExecutorHello where
  executorId : String
  pool : ExecutorPool
  organizationId : Option String
  name : Option String
  labels : List String
  maxInFlight : Nat
  kinds : List Brain.GatewayExecutionKind

inductive ReadyState where
  | «open»
  | closing
  | closed
  deriving DecidableEq

structure Socket where
  executor : ConnectedExecutor
  state : ReadyState

structure ToolResult where
  requestId : String
  succeeded : Bool
  output : Option Json
  error : Option String
  workspace : Option Json

structure RemoteExecutionEvent where
  seq : Int
  ts : Int
  kind : String
  level : String
  message : Option String
  payload : Option Json

/-- A message of an executor, as far as its schema accepts it. -/
inductive ExecutorMessage where
  | executorHello (hello : ExecutorHello)
  | toolResult (result : ToolResult)
  | toolEvent (requestId : String) (event : Json)
  | sessionOpened (requestId sessionId : String)
  | turnDelta (requestId sessionId content : String)
  | turnEvent (requestId organizationId sessionId : String) (event : RemoteExecutionEvent)
  | turnFinal (requestId sessionId content : String) (payload : Option Json)
  | turnError (requestId sessionId code message : String)
  | memorySyncResult (requestId sessionId : String) (ok : Bool) (details : Option Json)
  | memoryQueryResult (requestId sessionId : String) (ok : Bool) (results : Option (List Json))
      (error : Option String)

structure PendingTurn where
  organizationId : String
  sessionId : String
  executorId : String
  deriving DecidableEq

inductive SessionCommandType where
  | sessionOpen
  | sessionTurn
  | sessionCancel
  | memorySync
  | memoryQuery
  deriving DecidableEq

structure SessionCommand where
  type : SessionCommandType
  requestId : String
  organizationId : String
  sessionId : String

/-- A command for an executor that the edge takes off its stream. -/
inductive ExecutorCommand where
  | executorInvoke (requestId : String)
  | executorSession (payload : SessionCommand)

/-- What the edge puts on the stream to the brains. -/
inductive ExecutorReport where
  | executorEvent (executorId requestId : String) (event : Json)
  | sessionTurnEvent (requestId organizationId sessionId : String) (event : RemoteExecutionEvent)

structure ExecutorRoute where
  executorId : String
  pool : ExecutorPool
  organizationId : Option String
  name : Option String
  labels : List String
  maxInFlight : Nat
  kinds : List Brain.GatewayExecutionKind
  deriving DecidableEq

/-- The tables of one edge and what it writes to Redis and the bus. Sockets stand in the order in
which they were opened; `dispatched` are the requests handed to each executor. -/
structure EdgeStore where
  sockets : List Socket
  executorsById : String → Option Nat
  pendingToolResult : String → Option String
  pendingSessionTurn : String → Option PendingTurn
  routes : String → Option ExecutorRoute
  replies : String → Option Json
  toBrain : List ExecutorReport
  dispatched : List (String × String)
  -- the command loop is handling a record
  commanding : Bool

namespace EdgeStore

def empty : EdgeStore :=
  { sockets := [], executorsById := fun _ => none, pendingToolResult := fun _ => none
    pendingSessionTurn := fun _ => none, routes := fun _ => none, replies := fun _ => none
    toBrain := [], dispatched := [], commanding := false }

variable (st : EdgeStore)

def setState (ws : Nat) (state : ReadyState) : EdgeStore :=
  { st with sockets := st.sockets.modify ws fun socket => { socket with state } }

def setExecutor (ws : Nat) (executor : ConnectedExecutor) : EdgeStore :=
  { st with sockets := st.sockets.modify ws fun socket => { socket with executor } }

/-- `redis.set(replyKey(requestId), …)` -/
def setReply (requestId : String) (reply : Json) : EdgeStore :=
  { st with replies := Function.update st.replies requestId (some reply) }

def dropPendingTool (requestId : String) : EdgeStore :=
  { st with pendingToolResult := Function.update st.pendingToolResult requestId none }

def dropPendingTurn (requestId : String) : EdgeStore :=
  { st with pendingSessionTurn := Function.update st.pendingSessionTurn requestId none }

/-- `xaddJson(redis, streamToBrain(), report)` -/
def report (report : ExecutorReport) : EdgeStore := { st with toBrain := st.toBrain ++ [report] }

def deleteExecutor (executorId : String) : EdgeStore :=
  { st with executorsById := Function.update st.executorsById executorId none }

def deleteRoute (executorId : String) : EdgeStore :=
  { st with routes := Function.update st.routes executorId none }

/-- The upgrade handler: a socket of an executor with a valid token. -/
def connect (executor : ConnectedExecutor) : EdgeStore :=
  { st with
    sockets := st.sockets ++ [{ executor, state := .open }]
    executorsById := Function.update st.executorsById executor.executorId (some st.sockets.length) }

def writeExecutorRoute (executor : ConnectedExecutor) : EdgeStore :=
  { st with routes := Function.update st.routes executor.executorId (some {
      executorId := executor.executorId, pool := executor.pool
      organizationId := executor.organizationId, name := executor.name, labels := executor.labels
      maxInFlight := executor.maxInFlight, kinds := executor.kinds }) }

/-- `ws.close()`: the socket stops being open, its `close` event comes later. -/
def beginClose (ws : Nat) : EdgeStore :=
  match st.sockets[ws]? with
  | some { state := .open, .. } => st.setState ws .closing
  | _ => st

/-- The `close` event of a socket. -/
def onClose (ws : Nat) (executor : ConnectedExecutor) : EdgeStore :=
  { (((st.setState ws .closed).deleteExecutor executor.executorId).deleteRoute executor.executorId) with
    pendingSessionTurn := fun requestId => (st.pendingSessionTurn requestId).filter
      fun pending => pending.executorId ≠ executor.executorId }

end EdgeStore

/-! ### Messages of an executor -/

def replyStatus (succeeded : Bool) : String × Json :=
  ("status", .str (if succeeded then "succeeded" else "failed"))

def field (name : String) (value : Option Json) : List (String × Json) :=
  value.elim [] fun value => [(name, value)]

def ToolResult.reply (result : ToolResult) : Json :=
  .obj ([replyStatus result.succeeded] ++ field "output" result.output ++
    field "error" (result.error.map .str) ++ field "workspace" (result.workspace.filter (·.truthy)))

/-- Whether the hello names the executor its socket was authenticated for. -/
def ExecutorHello.fits (hello : ExecutorHello) (executor : ConnectedExecutor) : Bool :=
  hello.executorId = executor.executorId && hello.pool = executor.pool &&
    (executor.pool ≠ .byon ||
      ((executor.organizationId.filter (· ≠ "")).isSome &&
        hello.organizationId = executor.organizationId))

def ConnectedExecutor.greeted (executor : ConnectedExecutor) (hello : ExecutorHello) :
    ConnectedExecutor :=
  { executor with
    labels := hello.labels
    maxInFlight := max 1 (min executor.configuredMaxInFlight hello.maxInFlight)
    kinds := hello.kinds
    name := hello.name }

/-- What is done with a message at once; the rest of a hello or a tool result follows. -/
def EdgeStore.onMessage (st : EdgeStore) (sessionStreamV1Enabled : Bool) (now : Int)
    (ws : Nat) (executor : ConnectedExecutor) : ExecutorMessage → EdgeStore
  | .executorHello hello =>
    if hello.fits executor then st.setExecutor ws (executor.greeted hello) else st.beginClose ws
  | .toolResult _ => st
  | .toolEvent requestId event => st.report (.executorEvent executor.executorId requestId event)
  | .sessionOpened requestId sessionId =>
    st.setReply requestId (.obj [("status", .str "ok"), ("sessionId", .str sessionId)])
  | .turnDelta requestId _ content =>
    if sessionStreamV1Enabled then
      match st.pendingSessionTurn requestId with
      | none => st
      | some pending => st.report (.sessionTurnEvent requestId pending.organizationId
          pending.sessionId { seq := now, ts := now, kind := "turn_delta", level := "info"
                              message := some content, payload := none })
    else st
  | .turnEvent requestId organizationId sessionId event =>
    if sessionStreamV1Enabled then
      st.report (.sessionTurnEvent requestId organizationId sessionId event)
    else st
  | .turnFinal requestId sessionId content payload =>
    (st.dropPendingTurn requestId).setReply requestId (.obj ([replyStatus true,
      ("sessionId", .str sessionId), ("content", .str content)] ++ field "payload" payload))
  | .turnError requestId sessionId code message =>
    (st.dropPendingTurn requestId).setReply requestId (.obj [replyStatus false,
      ("sessionId", .str sessionId), ("code", .str code), ("error", .str message)])
  | .memorySyncResult requestId sessionId ok details =>
    st.setReply requestId (.obj ([replyStatus ok, ("sessionId", .str sessionId)] ++
      field "details" details))
  | .memoryQueryResult requestId sessionId ok results error =>
    st.setReply requestId (.obj ([replyStatus ok, ("sessionId", .str sessionId)] ++
      field "results" (results.map .arr) ++ field "error" (error.map .str)))

/-! ### Commands for an executor -/

inductive Sent where
  | offline
  | sent
  | failed
  deriving DecidableEq

def ExecutorCommand.requestId : ExecutorCommand → String
  | executorInvoke requestId => requestId
  | executorSession payload => payload.requestId

/-- `safeWsSend`; `throws` is what `ws.send` does. -/
def safeWsSend (socket : Option Socket) (throws : Bool) : Bool :=
  socket.any (·.state = .open) && !throws

/-- The tables of pending requests once a command has been looked at. -/
def EdgeStore.expectReply (st : EdgeStore) (executorId : String) : ExecutorCommand → EdgeStore
  | .executorInvoke requestId =>
    { st with pendingToolResult := Function.update st.pendingToolResult requestId (some executorId) }
  | .executorSession { type := .sessionTurn, requestId, organizationId, sessionId } =>
    { st with pendingSessionTurn := Function.update st.pendingSessionTurn requestId (some
        { organizationId := organizationId, sessionId := sessionId, executorId := executorId }) }
  | .executorSession { type := .sessionCancel, requestId, .. } => st.dropPendingTurn requestId
  | .executorSession _ => st

/-- Hand a command to its executor; an executor that cannot be sent to is forgotten. -/
def EdgeStore.sendCommand (st : EdgeStore) (executorId : String) (command : ExecutorCommand)
    (throws : Bool) : Sent × EdgeStore :=
  match st.executorsById executorId with
  | none => (.offline, st)
  | some ws =>
    let expecting := st.expectReply executorId command
    if safeWsSend st.sockets[ws]? throws then
      (.sent, { expecting with dispatched := st.dispatched ++ [(command.requestId, executorId)] })
    else (.failed, expecting.deleteExecutor executorId)

def EdgeStore.dropPending (st : EdgeStore) : ExecutorCommand → EdgeStore
  | .executorInvoke requestId => st.dropPendingTool requestId
  | .executorSession payload => st.dropPendingTurn payload.requestId

def ExecutorCommand.refusal : ExecutorCommand → Json
  | executorInvoke _ => .obj [replyStatus false, ("error", .str "NO_AGENT_AVAILABLE")]
  | executorSession _ => .obj [replyStatus false, ("error", .str "PINNED_AGENT_OFFLINE")]

inductive EdgeOp where
  | writeExecutorRoute (ws : Nat)
  | setReply (requestId : String) (reply : Json)
  | dropPendingTool (requestId : String)
  | sendCommand (executorId : String) (command : ExecutorCommand)
  | deleteRoute (executorId : String)
  /-- The pending request is forgotten and its refusal is on its way. -/
  | refuse (command : ExecutorCommand)

abbrev EdgeOp.Reply : EdgeOp → Type
  | sendCommand .. => Sent
  | _ => Unit

abbrev EdgeOps : Interface where
  Op := EdgeOp
  Reply := EdgeOp.Reply

abbrev EdgeProgram := Program EdgeOps

abbrev issue (op : EdgeOp) : EdgeProgram op.Reply := Program.issue (I := EdgeOps) op

/-- What follows once a message has been looked at. -/
def afterMessage (ws : Nat) (executor : ConnectedExecutor) : ExecutorMessage → EdgeProgram Unit
  | .executorHello hello =>
    if hello.fits executor then issue (.writeExecutorRoute ws) else return ()
  | .toolResult result => do
    issue (.writeExecutorRoute ws)
    issue (.setReply result.requestId result.reply)
    issue (.dropPendingTool result.requestId)
  | _ => return ()

/-- A record of the edge's command loop. -/
def handleCommand (executorId : String) (command : ExecutorCommand) : EdgeProgram Unit := do
  let outcome : Sent ← issue (.sendCommand executorId command)
  match outcome with
  | .sent => return ()
  | .offline => issue (.setReply command.requestId command.refusal)
  | .failed =>
    issue (.deleteRoute executorId)
    issue (.refuse command)

/-! ### The edge -/

inductive EdgeLaunch where
  | connect (executor : ConnectedExecutor) (ws : Nat)
  | message (now : Int) (ws : Nat) (executor : ConnectedExecutor) (msg : ExecutorMessage)
  | close (ws : Nat) (executor : ConnectedExecutor)
  | command (executorId : String) (command : ExecutorCommand)

inductive EdgeTick where
  /-- A socket stops being open, and its `close` event is to come. -/
  | beginClose (ws : Nat)
  | expireRoute (executorId : String)
  | expireReply (requestId : String)

def performEdge (st : EdgeStore) (throws : Bool) : (op : EdgeOp) → op.Reply × EdgeStore
  | .writeExecutorRoute ws =>
    ((), st.sockets[ws]?.elim st fun socket => st.writeExecutorRoute socket.executor)
  | .setReply requestId reply => ((), st.setReply requestId reply)
  | .dropPendingTool requestId => ((), st.dropPendingTool requestId)
  | .sendCommand executorId command => st.sendCommand executorId command throws
  | .deleteRoute executorId => ((), st.deleteRoute executorId)
  | .refuse command =>
    ((), (st.dropPending command).setReply command.requestId command.refusal)

/-- The socket `ws`, as long as its `close` event has not come, belongs to `executor`. -/
def EdgeStore.has (st : EdgeStore) (ws : Nat) (executor : ConnectedExecutor) : Bool :=
  st.sockets[ws]?.any fun socket => socket.executor = executor && socket.state ≠ .closed

def launchEdge (sessionStreamV1Enabled : Bool) (st : EdgeStore) : EdgeLaunch → Option EdgeStore
  | .connect executor ws => if ws = st.sockets.length then some (st.connect executor) else none
  | .message now ws executor msg =>
    if st.has ws executor then some (st.onMessage sessionStreamV1Enabled now ws executor msg)
    else none
  | .close ws executor => if st.has ws executor then some (st.onClose ws executor) else none
  | .command _ _ => if st.commanding then none else some { st with commanding := true }

def entryEdge : EdgeLaunch → EdgeProgram Unit
  | .connect _ ws => issue (.writeExecutorRoute ws)
  | .message _ ws executor msg => afterMessage ws executor msg
  | .close _ _ => return ()
  | .command executorId command => handleCommand executorId command

/-- One edge: its sockets' events and its command loop, which takes one record at a time. -/
abbrev edgeSystem (sessionStreamV1Enabled : Bool) : System EdgeOps where
  Store := EdgeStore
  Launch := EdgeLaunch
  Loop := Empty
  Outcome := Unit
  Choice := Bool
  Tick := EdgeTick
  perform op st throws := some (performEdge st throws op)
  launch l st := launchEdge sessionStreamV1Enabled st l
  entry l := .inr <$> entryEdge l
  body _ loop := nomatch loop
  finish l _ st := match l with
    | .command _ _ => { st with commanding := false }
    | _ => st
  tick t st := match t with
    | .beginClose ws => some (st.beginClose ws)
    | .expireRoute executorId => some (st.deleteRoute executorId)
    | .expireReply requestId =>
      some { st with replies := Function.update st.replies requestId none }

def freshEdge (sessionStreamV1Enabled : Bool) : (edgeSystem sessionStreamV1Enabled).State :=
  { store := .empty, process := fun _ => none }

end Vespid.Edge
