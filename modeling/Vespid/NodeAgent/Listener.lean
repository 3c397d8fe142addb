import Vespid.Lib.Throwing
import Vespid.NodeAgent.AgentRun
import Vespid.NodeAgent.Schemas
import Vespid.NodeAgent.Turns

/-!
# The message listener of an executor

What a node agent does about the messages of its gateway. Each has a handler of its own, which
carries out a tool call, opens a session, runs a turn or works on a memory, and answers. The
handlers run at the same time; one that throws ends the process.
-/

namespace Vespid.NodeAgent.Listener

open Interleaving
open AgentRuntime (Host ToolStatus optional isFilled isOneOf isInteger getCommunityConnectorAction)
open AgentRun hiding Allows
open Turns (cancelTurn)

/-! ### Messages -/

structure MemorySync where
  requestId : String
  sessionId : String
  provider : Schema.MemoryProvider
  workspaceDir : String

structure MemoryQuery where
  requestId : String
  sessionId : String
  provider : Schema.MemoryProvider
  query : String
  limit : Option Rat

def memorySyncSchema (message : MemorySync) : Bool :=
  message.requestId ≠ "" && Workflow.isUuid message.sessionId && message.workspaceDir ≠ ""

def memoryQuerySchema (message : MemoryQuery) : Bool :=
  message.requestId ≠ "" && Workflow.isUuid message.sessionId && message.query ≠ "" &&
    message.limit.all (Schema.integerBetween 1 50)

/-- A message by the type it has. -/
inductive Incoming where
  | invokeTool (message : Schema.InvokeToolV2)
  | sessionOpen (message : Schema.SessionOpen)
  | sessionTurn (message : Schema.SessionTurn)
  | sessionCancel (message : Schema.SessionCancel)
  | memorySync (message : MemorySync)
  | memoryQuery (message : MemoryQuery)
  | other

def Incoming.accepted (isUrl : String → Bool) : Incoming → Bool
  | invokeTool message => Schema.invokeToolSchema isUrl message
  | sessionOpen message => Schema.sessionOpenSchema isUrl message
  | sessionTurn message => Schema.sessionTurnSchema message
  | sessionCancel message => Schema.sessionCancelSchema message
  | memorySync message => memorySyncSchema message
  | memoryQuery message => memoryQuerySchema message
  | other => false

/-- The final messages; what the edge takes as it is, is left out. -/
inductive Answer where
  | toolResult (requestId : String) (status : ToolStatus) (error : Option String)
  | sessionOpened (requestId sessionId : String)
  | turnFinal (requestId sessionId content : String)
  | turnError (requestId sessionId code message : String)
  | memorySyncResult (requestId sessionId : String) (ok : Bool)
  | memoryQueryResult (requestId sessionId : String) (ok : Bool) (error : Option String)

/-! ### What may fail -/

/-- What was thrown: an `Error` with its message, or something else. -/
structure Thrown where
  message : Option String
  deriving DecidableEq

/-- `error instanceof Error ? error.message : fallback` -/
def Thrown.text (thrown : Thrown) (fallback : String) : String := thrown.message.getD fallback

inductive LlmProvider where
  | openai | anthropic

def LlmProvider.name : LlmProvider → String
  | openai => "OPENAI"
  | anthropic => "ANTHROPIC"

/-- The errors that an inference returns. -/
inductive LlmError where
  | requestFailed (provider : LlmProvider) (status : Nat)
  | responseInvalid (provider : LlmProvider)
  | responseEmpty (provider : LlmProvider)
  | unavailable (provider : LlmProvider)
  | timeout

def LlmError.text : LlmError → String
  | requestFailed provider status => provider.name ++ "_REQUEST_FAILED:" ++ toString status
  | responseInvalid provider => provider.name ++ "_RESPONSE_INVALID"
  | responseEmpty provider => provider.name ++ "_RESPONSE_EMPTY"
  | unavailable provider => provider.name ++ "_UNAVAILABLE"
  | timeout => "LLM_TIMEOUT"

/-- What becomes of a child process: `spawn` throws, the child emits an error, or it exits. -/
inductive Child where
  | threw (thrown : Thrown)
  | notFound
  | errored (thrown : Thrown)
  | exited (code : Option Int) (timedOut : Bool) (stdout stderr : String)

structure CliResult where
  exitCode : Int
  stdout : String
  stderr : String
  notFound : Bool
  aborted : Bool

/-- `runCliCommand`, whose signal may be aborted before the child ends. -/
def cliResult (command : String) (aborted : Bool) : Child → Except Thrown CliResult
  | .threw thrown | .errored thrown => .error thrown
  | .notFound => .ok
      { exitCode := 127, stdout := "", stderr := command ++ ": command not found"
        notFound := true, aborted := false }
  | .exited code timedOut stdout stderr => .ok
      { exitCode := code.getD (if timedOut then 124 else if aborted then 130 else 0)
        stdout, stderr, notFound := false, aborted }

/-- The end of a shell task in a sandbox. -/
inductive SandboxResult where
  | succeeded (output : Json)
  | failed (error : String) (output : Option Json)

inductive ActionError where
  | secretRequired | invalidRepo | responseInvalid
  | requestFailed (status : Nat)

def ActionError.text : ActionError → String
  | secretRequired => "SECRET_REQUIRED"
  | invalidRepo => "INVALID_REPO"
  | responseInvalid => "GITHUB_RESPONSE_INVALID"
  | requestFailed status => "GITHUB_REQUEST_FAILED:" ++ toString status

inductive ActionResult where
  | succeeded (output : Json)
  | failed (error : ActionError)

def SandboxResult.toCallResult : SandboxResult → CallResult
  | succeeded output => { status := .succeeded, output := some output, error := none }
  | failed error output => { status := .failed, output, error := some error }

def ActionResult.toCallResult : ActionResult → CallResult
  | succeeded output => { status := .succeeded, output := some output, error := none }
  | failed error => { status := .failed, output := none, error := some error.text }

/-! ### Operations -/

/-- The input of `executeEnginePrompt`; the signal is that of the turn of a context. -/
structure EngineInput where
  engineId : String
  model : String
  prompt : String
  apiKey : Option String
  baseUrl : Option String
  signal : Option Nat

/-- The memory of a session, or one made for the message. -/
inductive MemoryManager where
  | ofSession (context : Nat)
  | created (provider : Schema.MemoryProvider) (workspaceDir : String)

/-- The engine of a session, with the key it is given. -/
structure SessionEngine where
  id : String
  model : Option String
  apiKey : Option String
  baseUrl : Option String

/-- A turn that has begun. -/
structure StartedTurn where
  context : Nat
  prompt : String
  engine : SessionEngine

inductive ListenerOp where
  | ensureWorkspaceExtracted (incoming : Schema.InvokeToolV2)
  | snapshotAndUploadWorkspace (incoming : Schema.InvokeToolV2)
  | executeShellTask (incoming : Schema.InvokeToolV2) (call : ShellCall)
  | executeAction (incoming : Schema.InvokeToolV2) (call : ActionCall)
  | runLlmInference (input : EngineInput)
  | runCliCommand (input : EngineInput) (args : List String)
  | mkdir (message : Schema.SessionOpen)
  | setSession (message : Schema.SessionOpen)
  | getSession (sessionId : String)
  | beginTurn (message : Schema.SessionTurn)
  /-- `finally`, and the answer of the engine in the history -/
  | endTurn (context : Nat) (requestId : String) (answer : Option String)
  | abortTurn (message : Schema.SessionCancel)
  | sync (manager : MemoryManager)
  | search (manager : MemoryManager) (query : String)
  | send (number : Nat) (answer : Answer)

abbrev ListenerOp.Reply : ListenerOp → Type
  | ensureWorkspaceExtracted _ | snapshotAndUploadWorkspace _ | mkdir _ | sync _ | search .. =>
    Except Thrown Unit
  | executeShellTask .. => Except Thrown SandboxResult
  | executeAction .. => Except Thrown ActionResult
  | runLlmInference _ => Except Thrown (Except LlmError String)
  | runCliCommand .. => Except Thrown CliResult
  | getSession _ => Option Nat
  | beginTurn _ => Except TurnFailure StartedTurn
  | setSession _ | endTurn .. | abortTurn _ | send .. => Unit

abbrev ListenerOps : Interface where
  Op := ListenerOp
  Reply := ListenerOp.Reply

/-- A handler, or a part of one. -/
abbrev Async (α : Type) := Throwing ListenerOps Thrown α

/-- An operation that does not throw. -/
def await (op : ListenerOp) : Async op.Reply := ExceptT.lift (Program.issue (I := ListenerOps) op)

/-- An operation that may throw. -/
def invoke {α : Type} (op : ListenerOp) (is : op.Reply = Except Thrown α) : Async α :=
  ExceptT.mk (is ▸ Program.issue (I := ListenerOps) op)

/-- What the process has from its environment. -/
structure AgentEnv where
  host : Host
  isUrl : String → Bool
  stringifyIndented : Json → String
  resolveEngineCommand : String → String
  /-- The directory of a memory that no session has. -/
  ephemeralDir : String → String

variable (env : AgentEnv)

def defaultEngineModel (engineId : String) : String :=
  if engineId = "gateway.codex.v2" then "gpt-5-codex"
  else if engineId = "gateway.claude.v2" then "claude-sonnet-4-20250514"
  else "claude-opus-4-6"

def trimmed (s : String) : String := String.ofList (Scheduler.trim s.toList)

/-! ### Engines -/

def attemptsOf (input : EngineInput) : List (List String) :=
  if input.engineId = "gateway.codex.v2" then
    [["exec", "--skip-git-repo-check", "--model", input.model, input.prompt],
      ["run", "--print", input.prompt]]
  else if input.engineId = "gateway.claude.v2" then
    [["--print", "--model", input.model, input.prompt]]
  else [["run", "--model", input.model, "--", input.prompt], ["run", "--", input.prompt]]

def cliFailed (lastStderr : String) : TurnFailure where
  code := "EXECUTOR_CLI_FAILED"
  message := if trimmed lastStderr = "" then "CLI execution failed" else trimmed lastStderr

/-- The command with one list of arguments after the other. -/
def runAttempts (input : EngineInput) : List (List String) → String →
    Async (Except TurnFailure String)
  | [], lastStderr => pure (.error (cliFailed lastStderr))
  | args :: rest, _ => do
    let result ← invoke (α := CliResult) (.runCliCommand input args) rfl
    if result.aborted then
      return .error { code := "TURN_CANCELED", message := "Turn canceled" }
    else if result.notFound then
      return .error
        { code := "EXECUTOR_CLI_NOT_FOUND"
          message := "CLI_NOT_FOUND:" ++ env.resolveEngineCommand input.engineId }
    else if result.exitCode = 0 then
      return .ok (if trimmed result.stdout = "" then "ok" else trimmed result.stdout)
    else runAttempts input rest result.stderr

def executeEnginePrompt (input : EngineInput) : Async (Except TurnFailure String) :=
  if trimmed (input.apiKey.getD "") ≠ "" then do
    let infer ← invoke (α := Except LlmError String) (.runLlmInference input) rfl
    match infer with
    | .ok content => return .ok content
    | .error error => return .error { code := "NODE_EXECUTION_FAILED", message := error.text }
  else runAttempts env input (attemptsOf input) ""

/-! ### Tools -/

/-- What `executeTool` returns of a result, besides its output and workspace. -/
structure ToolAnswer where
  status : ToolStatus
  error : Option String

def toolFailure (error : String) : ToolAnswer := { status := .failed, error := some error }

def toolSuccess : ToolAnswer := { status := .succeeded, error := none }

/-- The payload of an agent run. -/
structure AgentRunRequest where
  engineId : String
  model : Option String
  system : Option String
  instructions : String
  inputTemplate : Option String
  runInput : Option Json
  engineSecret : Option String
  baseUrl : Option String
  tools : AgentRunPayload

/-- A field that may be null or absent. -/
def nullable (fields : List (String × Json)) (key : String) (ok : Json → Bool) : Bool :=
  optional fields key fun value => match value with
    | .null => true
    | value => ok value

def isString : Json → Bool
  | .str _ => true
  | _ => false

/-- The fields of an object that may be absent. -/
def objectField (fields : List (String × Json)) (key : String) :
    Option (List (String × Json)) :=
  match fields.lookup key with
  | none => some []
  | some (.obj inner) => some inner
  | some _ => none

/-- `tools.allow`, where there is one. -/
def parseAllow (tools : List (String × Json)) : Option (List String) :=
  match tools.lookup "allow" with
  | none => some []
  | some (.arr items) => items.mapM fun item =>
      match item with
      | .str toolId => if toolId = "" then none else some toolId
      | _ => none
  | some _ => none

/-- `agentRunPayloadSchema`, with the policy of the message. -/
def agentRunPayloadSchema (incoming : Schema.InvokeToolV2) : Option AgentRunRequest := do
  let .obj fields ← incoming.payload | none
  let nodeId ← textField fields "nodeId"
  let .obj node ← fields.lookup "node" | none
  let id ← textField node "id"
  let .obj config ← node.lookup "config" | none
  let .obj engine ← config.lookup "engine" | none
  let engineId ← textField engine "id"
  let .obj prompt ← config.lookup "prompt" | none
  let instructions ← textField prompt "instructions"
  let tools ← objectField config "tools"
  let allow ← parseAllow tools
  let limits ← objectField config "limits"
  let envFields ← objectField fields "env"
  let secrets ← objectField fields "resolvedSecrets"
  let connectors ← parseRecord secrets "connectors"
  let runtime ← objectField fields "resolvedRuntime"
  let isUrlText : Json → Bool := fun value => match value with
    | .str url => env.isUrl url
    | _ => false
  if nodeId ≠ "" ∧ id ≠ "" ∧ textField node "type" = some "agent.run" ∧
      engineId ∈ Schema.agentEngineIds ∧ optional engine "model" isFilled ∧
      optional prompt "system" isString ∧ instructions ≠ "" ∧
      optional prompt "inputTemplate" isString ∧ optional limits "maxToolCalls" (isInteger 0 200) ∧
      optional limits "timeoutMs" (isInteger 1000 600000) ∧
      optional fields "runId" (AgentRuntime.isUuidText env.host) ∧
      optional fields "workflowId" (AgentRuntime.isUuidText env.host) ∧
      optional fields "attemptCount" isCount ∧
      ((fields.lookup "env").isSome → ∃ url ∈ textField envFields "githubApiBaseUrl",
        env.isUrl url = true) ∧
      nullable secrets "engine" isString ∧ (connectors.getD []).all (·.1 ≠ "") ∧
      nullable runtime "baseUrl" isUrlText then
    some
      { engineId, model := textField engine "model", system := textField prompt "system"
        instructions, inputTemplate := textField prompt "inputTemplate"
        runInput := fields.lookup "runInput", engineSecret := textField secrets "engine"
        baseUrl := textField runtime "baseUrl"
        tools :=
          { allow, maxToolCalls := (natField limits "maxToolCalls").getD 20
            ids :=
              { runId := textField fields "runId", workflowId := textField fields "workflowId"
                attemptCount := natField fields "attemptCount" }
            githubApiBaseUrl := (textField envFields "githubApiBaseUrl").getD ""
            connectors := connectors.getD []
            networkEnabled := incoming.toolPolicy.networkMode = .enabled
            policyTimeoutMs := some incoming.toolPolicy.timeoutMs.num.toNat } }
  else none

/-- `{{input}}` in a template. -/
def replaceInput (template runInput : List Char) : Nat → List Char
  | 0 => template
  | fuel + 1 =>
    match breakOn "{{input}}".toList template with
    | none => template
    | some (before, after) => before ++ runInput ++ replaceInput after runInput fuel

def promptOf (request : AgentRunRequest) : String :=
  let runInputText := (request.runInput.map env.host.stringify).getD ""
  let written := request.instructions ++ "\n\nInput:\n" ++ runInputText
  let promptBody := match request.inputTemplate with
    | some template =>
      if (breakOn "{{input}}".toList template.toList).isSome then
        String.ofList
          (replaceInput template.toList runInputText.toList template.toList.length)
      else written
    | none => written
  match request.system with
  | some system => if system = "" then promptBody else system ++ "\n\n" ++ promptBody
  | none => promptBody

def engineInput (request : AgentRunRequest) (prompt : String) : EngineInput where
  engineId := request.engineId
  model := request.model.getD (defaultEngineModel request.engineId)
  prompt := prompt
  apiKey := request.engineSecret
  baseUrl := request.baseUrl
  signal := none

/-- What a call of a tool comes to. -/
def performCall (incoming : Schema.InvokeToolV2) : ToolCall → Async CallResult
  | .action call => do
    let result ← invoke (α := ActionResult) (.executeAction incoming call) rfl
    return result.toCallResult
  | .shell call => do
    let result ← invoke (α := SandboxResult) (.executeShellTask incoming call) rfl
    return result.toCallResult

/-- A call whose kind is allowed; the secret of its connector comes before that of the message. -/
def attemptCall (incoming : Schema.InvokeToolV2) (tools : AgentRunPayload) (call : BridgeCall) :
    Attempt :=
  match call.kind with
  | .connectorAction =>
    match connectorPayloadSchema env.isUrl call.payload with
    | none => .refuse "INVALID_ACTION_PAYLOAD"
    | some action =>
      runConnectorTask action (tools.connectors.lookup action.connectorId <|> incoming.secret)
  | .agentExecute => AgentRun.attemptCall env.host env.isUrl tools call

/-- The calls in the output of the engine, from the one at `index` on. -/
def runToolCalls (incoming : Schema.InvokeToolV2) (tools : AgentRunPayload) :
    List BridgeCall → Nat → List ToolResult → Async (List ToolResult)
  | [], _, toolResults => pure toolResults
  | call :: rest, index, toolResults =>
    if tools.maxToolCalls ≤ index then pure toolResults
    else if call.kind.name ∉ tools.allow then
      runToolCalls incoming tools rest (index + 1) toolResults
    else match attemptCall env incoming tools call with
      | .skip => runToolCalls incoming tools rest (index + 1) toolResults
      | .refuse error => runToolCalls incoming tools rest (index + 1)
          (toolResults ++ [failedResult call.kind error])
      | .perform toolCall => do
        let result ← performCall incoming toolCall
        runToolCalls incoming tools rest (index + 1)
          (toolResults ++ [{ result with kind := call.kind }])

def resultJson (result : ToolResult) : Json :=
  .obj ([("kind", .str result.kind.name), ("status", .str result.status.name)] ++
    (result.output.map fun output => ("output", output)).toList ++
    (result.error.map fun error => ("error", .str error)).toList)

/-- The engine once more, with the results; what it says makes no difference to the status. -/
def rerun (request : AgentRunRequest) (toolResults : List ToolResult) : Async Unit :=
  if toolResults = [] then pure ()
  else do
    let _ ← executeEnginePrompt env (engineInput request (promptOf env request ++
      "\n\nTool results:\n" ++ env.stringifyIndented (.arr (toolResults.map resultJson))))
    pure ()

/-- The answer with the workspace uploaded. -/
def upload (incoming : Schema.InvokeToolV2) (answer : ToolAnswer) : Async ToolAnswer := do
  invoke (α := Unit) (.snapshotAndUploadWorkspace incoming) rfl
  return answer

def executeAgentRun (incoming : Schema.InvokeToolV2) : Async ToolAnswer :=
  match agentRunPayloadSchema env incoming with
  | none => return toolFailure "INVALID_AGENT_RUN_PAYLOAD"
  | some request => do
    match ← executeEnginePrompt env (engineInput request (promptOf env request)) with
    | .error failure => return toolFailure (failure.code ++ ":" ++ failure.message)
    | .ok content => do
      let toolResults ← runToolCalls env incoming request.tools
        (extractToolCalls env.host content) 0 []
      rerun env request toolResults
      upload incoming toolSuccess

/-- The policy of a message, for a shell task of its own. -/
def policyOf (incoming : Schema.InvokeToolV2) : AgentRunPayload where
  allow := []
  maxToolCalls := 0
  ids := ⟨none, none, none⟩
  githubApiBaseUrl := ""
  connectors := []
  networkEnabled := incoming.toolPolicy.networkMode = .enabled
  policyTimeoutMs := some incoming.toolPolicy.timeoutMs.num.toNat

def toolAnswer (result : CallResult) : ToolAnswer where
  status := result.status
  error := match result.status with
    | .succeeded => none
    | .failed => result.error

def executeAgentExecute (incoming : Schema.InvokeToolV2) : Async ToolAnswer :=
  match agentExecutePayloadSchema env.host incoming.payload with
  | none => return toolFailure "INVALID_EXECUTE_PAYLOAD"
  | some execute =>
    match execute.task with
    | none => upload incoming toolSuccess
    | some task => do
      let exec ← performCall incoming
        (.shell (runAgentExecuteTask (policyOf incoming) execute task))
      tryCatch (upload incoming (toolAnswer exec))
        fun thrown => return toolFailure (thrown.text "WORKSPACE_UPLOAD_FAILED")

/-- The result of a connector task. -/
def connectorResult (incoming : Schema.InvokeToolV2) : Attempt → Async CallResult
  | .perform call => performCall incoming call
  | .refuse error => return { status := .failed, output := none, error := some error }
  | .skip => throw { message := none }

def executeConnectorAction (incoming : Schema.InvokeToolV2) : Async ToolAnswer :=
  match connectorPayloadSchema env.isUrl incoming.payload with
  | none => return toolFailure "INVALID_ACTION_PAYLOAD"
  | some action => do
    let result ← connectorResult incoming (runConnectorTask action incoming.secret)
    upload incoming (toolAnswer result)

def executeTool (incoming : Schema.InvokeToolV2) : Async ToolAnswer :=
  if incoming.kind = .agentExecute ∧ incoming.secret.isSome then
    return toolFailure "SECRET_NOT_ALLOWED_FOR_SHELL"
  else do
    invoke (α := Unit) (.ensureWorkspaceExtracted incoming) rfl
    match incoming.kind with
    | .agentExecute => executeAgentExecute env incoming
    | .agentRun => executeAgentRun env incoming
    | .connectorAction => executeConnectorAction env incoming

/-! ### Sessions -/

def openSession (message : Schema.SessionOpen) : Async Unit := do
  invoke (α := Unit) (.mkdir message) rfl
  await (.setSession message)

def turnInput (started : StartedTurn) : EngineInput where
  engineId := started.engine.id
  model := started.engine.model.getD (defaultEngineModel started.engine.id)
  prompt := started.prompt
  apiKey := started.engine.apiKey
  baseUrl := started.engine.baseUrl
  signal := some started.context

/-- What follows the engine, whether it has returned or thrown. -/
def finishTurn (context : Nat) (requestId : String) :
    Except Thrown (Except TurnFailure String) → Async (Except TurnFailure String)
  | .error thrown => do
    await (.endTurn context requestId none)
    throw thrown
  | .ok (.error failure) => do
    await (.endTurn context requestId none)
    return .error failure
  | .ok (.ok content) => do
    await (.endTurn context requestId (some content))
    return .ok content

/-- A turn that has begun, or has not. -/
def goOn (requestId : String) : Except TurnFailure StartedTurn → Async (Except TurnFailure String)
  | .error failure => return .error failure
  | .ok started =>
    ExceptT.lift (executeEnginePrompt env (turnInput started)).run >>=
      finishTurn started.context requestId

def runTurn (message : Schema.SessionTurn) : Async (Except TurnFailure String) := do
  let begun ← await (.beginTurn message)
  goOn env message.requestId begun

def managerOf (session : Option Nat) (provider : Schema.MemoryProvider) (workspaceDir : String) :
    MemoryManager :=
  match session with
  | some context => .ofSession context
  | none => .created provider workspaceDir

/-- Whether the memory could be synced. -/
def syncMemory (message : MemorySync) : Async Bool := do
  let session ← await (.getSession message.sessionId)
  let manager := managerOf session message.provider message.workspaceDir
  tryCatch
    (do
      invoke (α := Unit) (.sync manager) rfl
      return true)
    fun _ => return false

/-- The error of a search, if it failed. -/
def queryMemory (message : MemoryQuery) : Async (Option String) := do
  let session ← await (.getSession message.sessionId)
  let manager := managerOf session message.provider (env.ephemeralDir message.sessionId)
  tryCatch
    (do
      invoke (α := Unit) (.search manager message.query) rfl
      return none)
    fun thrown => return some (thrown.text "MEMORY_QUERY_FAILED")

/-! ### The listener -/

/-- The handler of a message that a schema accepts; `number` is its place on the socket. -/
def handleAccepted (number : Nat) : Incoming → Async Unit
  | .invokeTool message => do
    let result ← tryCatch (executeTool env message) fun thrown =>
      let text := thrown.text "NODE_EXECUTION_FAILED"
      return toolFailure (if text = "" then "NODE_EXECUTION_FAILED" else text)
    await (.send number (.toolResult message.requestId result.status result.error))
  | .sessionOpen message => do
    let answer ← tryCatch
      (do
        openSession message
        return Answer.sessionOpened message.requestId message.sessionId)
      fun thrown => pure (.turnError message.requestId message.sessionId "SESSION_OPEN_FAILED"
        (thrown.text "SESSION_OPEN_FAILED"))
    await (.send number answer)
  | .sessionTurn message => do
    match ← runTurn env message with
    | .error failure =>
      await (.send number
        (.turnError message.requestId message.sessionId failure.code failure.message))
    | .ok content => await (.send number (.turnFinal message.requestId message.sessionId content))
  | .sessionCancel message => await (.abortTurn message)
  | .memorySync message => do
    let ok ← syncMemory message
    await (.send number (.memorySyncResult message.requestId message.sessionId ok))
  | .memoryQuery message => do
    let error ← queryMemory env message
    await (.send number
      (.memoryQueryResult message.requestId message.sessionId error.isNone error))
  | .other => pure ()

/-- What no schema accepts is ignored. -/
def handleMessage (number : Nat) (message : Incoming) : Async Unit :=
  if message.accepted env.isUrl then handleAccepted env number message else pure ()

/-! ### The process -/

structure Received where
  number : Nat
  message : Incoming

structure Agent where
  node : NodeSessions
  engines : Nat → SessionEngine
  aborted : Nat → Bool
  received : List Incoming
  sent : List (Nat × Answer)
  terminated : Bool

def Agent.start : Agent where
  node := .empty
  engines _ := { id := "", model := none, apiKey := none, baseUrl := none }
  aborted _ := false
  received := []
  sent := []
  terminated := false

/-- How an operation on the world turns out. -/
inductive ListenerChoice where
  | none
  | task (result : Except Thrown Unit)
  | shell (result : Except Thrown SandboxResult)
  | action (result : Except Thrown ActionResult)
  | inferred (result : Except Thrown (Except LlmError String))
  | child (child : Child)

def sessionOf (message : Schema.SessionOpen) : NodeAgent.SessionOpen where
  sessionId := message.sessionId
  system := message.system
  instructions := message.instructions
  maxTurns := message.limits.maxTurns

def engineOf (engine : Schema.EngineConfig) : SessionEngine where
  id := engine.id
  model := engine.model
  apiKey := if engine.authMode = .inlineApiKey then engine.apiKey else none
  baseUrl := engine.runtimeBaseUrl

def turnOf (message : Schema.SessionTurn) : NodeAgent.SessionTurn where
  requestId := message.requestId
  sessionId := message.sessionId
  message := message.message ++ match message.attachments with
    | none | some [] => ""
    | some attachments => "\n\nAttachments:\n" ++ env.host.stringify (.arr attachments)

namespace Agent
variable (agent : Agent)

def setSession (message : Schema.SessionOpen) : Agent :=
  { agent with
    node := NodeAgent.openSession agent.node (sessionOf message)
    engines := Function.update agent.engines agent.node.opened (engineOf message.engine)
    aborted := Function.update agent.aborted agent.node.opened false }

/-- `runTurn` up to the engine. -/
def beginTurn (message : Schema.SessionTurn) : Except TurnFailure StartedTurn × Agent :=
  match NodeAgent.runTurn agent.node (turnOf env message) with
  | .error failure => (.error failure, agent)
  | .ok (context, ctx) =>
    (.ok { context, prompt := renderPromptFromMessages ctx.history
           engine := agent.engines context },
      { agent with
        node := agent.node.setContext context ctx
        aborted := Function.update agent.aborted context false })

/-- The turn is no longer active where it still was, and the answer goes to the history. -/
def endContext (ctx : SessionContext) (requestId : String) (answer : Option String) :
    SessionContext :=
  { ctx with
    activeTurn := ctx.activeTurn.filter (·.requestId ≠ requestId)
    history := ctx.history ++
      (answer.map fun content => { role := .assistant, content : NodeAgent.Message }).toList }

def endTurn (context : Nat) (requestId : String) (answer : Option String) : Agent :=
  match agent.node.contexts context with
  | some ctx =>
    { agent with node := agent.node.setContext context (endContext ctx requestId answer) }
  | none => agent

def abortTurn (message : Schema.SessionCancel) : Agent :=
  match cancelTurn agent.node message.sessionId message.requestId with
  | some context => { agent with aborted := Function.update agent.aborted context true }
  | none => agent

end Agent

def performListener (op : ListenerOp) (agent : Agent) (choice : ListenerChoice) :
    Option (op.Reply × Agent) :=
  if agent.terminated then none
  else match op, choice with
    | .ensureWorkspaceExtracted _, .task result | .snapshotAndUploadWorkspace _, .task result
    | .mkdir _, .task result | .sync _, .task result | .search .., .task result =>
      some (result, agent)
    | .executeShellTask .., .shell result => some (result, agent)
    | .executeAction .., .action result => some (result, agent)
    | .runLlmInference _, .inferred result => some (result, agent)
    | .runCliCommand input _, .child child =>
      some (cliResult (env.resolveEngineCommand input.engineId) (input.signal.any agent.aborted)
        child, agent)
    | .setSession message, .none => some ((), agent.setSession message)
    | .getSession sessionId, .none => some (agent.node.sessions sessionId, agent)
    | .beginTurn message, .none => some (agent.beginTurn env message)
    | .endTurn context requestId answer, .none => some ((), agent.endTurn context requestId answer)
    | .abortTurn message, .none => some ((), agent.abortTurn message)
    | .send number answer, .none =>
      some ((), { agent with sent := agent.sent ++ [(number, answer)] })
    | _, _ => none

/-- The process with the handlers of its messages. A rejection that nothing handles ends it. -/
abbrev listener : System ListenerOps where
  Store := Agent
  Launch := Received
  Loop := Empty
  Outcome := Except Thrown Unit
  Choice := ListenerChoice
  Tick := Empty
  perform := performListener env
  launch l agent :=
    if agent.terminated = false ∧ l.number = agent.received.length then
      some { agent with received := agent.received ++ [l.message] }
    else none
  entry l := .inr <$> (handleMessage env l.number l.message).run
  body _ loop := nomatch loop
  finish _ outcome agent :=
    match outcome with
    | .ok () => agent
    | .error _ => { agent with terminated := true }
  tick t _ := nomatch t

def listening : (listener env).State := { store := .start, process := fun _ => none }

end Vespid.NodeAgent.Listener
