import Vespid.Gateway.Client

/-!
# Node executors

The interface between the worker and the executors of its registry, and the executors the
community registry holds. What an executor asks of the outside (a secret, a toolset, the
action of a connector) is a field of `ExecutorServices`.
-/

namespace Vespid.Worker

open Workflow

structure ExecutorContext where
  runId : String
  attemptCount : Nat
  requestedByUserId : String
  nodeId : String
  nodeType : NodeType
  node : WorkflowNode
  organizationSettings : Json
  runInput : Option Json
  steps : List WorkflowExecutionStep
  runtime : Json
  pendingRemoteResult : Option Json

inductive NodeStatus where
  | succeeded | failed | blocked
  deriving DecidableEq

structure NodeBlock where
  kind : GatewayExecutionKind
  payload : GatewayPayload
  executorSelector : Option NodeExecutionSelector := none
  secret : Option String := none
  timeoutMs : Option Int := none
  dispatchNodeId : Option String := none

structure NodeResult where
  status : NodeStatus
  output : Option Json := none
  error : Option String := none
  block : Option NodeBlock := none
  runtime : Option Json := none

/-- `runtime.pendingRemoteResult`, unless it is missing or null. -/
def pendingRemoteResultOf (runtime : Json) : Option Json :=
  match runtime.field? "pendingRemoteResult" with
  | none | some .null => none
  | some pending => some pending

/-- `{ ...runtime, pendingRemoteResult: null }` -/
def clearPending (runtime : Json) : Json :=
  Json.spread (runtime.asObject.getD []) [("pendingRemoteResult", .null)]

/-- The result of the remote executor, read back where a node resumes. -/
def resumeResult (context : ExecutorContext) (pending : Json) : NodeResult :=
  let remote := (pending.field? "result").getD pending
  match remote.field? "status" with
  | some (.str "succeeded") =>
    { status := .succeeded, output := some ((remote.field? "output").getD .null)
      runtime := some (clearPending context.runtime) }
  | some (.str "failed") =>
    { status := .failed
      error := some (match remote.field? "error" with
        | some (.str e) => e
        | _ => "REMOTE_EXECUTION_FAILED")
      runtime := some (clearPending context.runtime) }
  | _ => { status := .failed, error := some "REMOTE_RESULT_INVALID" }

/-- Resume where a pending result is there, else go on. -/
def resumeOr (context : ExecutorContext) (dispatch : Except String NodeResult) :
    Except String NodeResult :=
  match context.pendingRemoteResult with
  | some pending => if pending.truthy then .ok (resumeResult context pending) else dispatch
  | none => dispatch

def failed (error : String) : NodeResult := { status := .failed, error := some error }

/-- What the executors reach outside the worker. -/
structure ExecutorServices where
  githubApiBaseUrl : String
  /-- `loadConnectorSecretValue`; throws where there is no secret. -/
  loadSecret : String → Except String String
  /-- Whether `loadToolsetById` finds the toolset. -/
  toolsetExists : String → Bool
  /-- `parseDefaultToolsetId` of the organization's settings. -/
  defaultToolsetId : Json → Option String
  /-- The engine secret of the organization's settings. -/
  defaultEngineSecretId : Json → AgentEngineId → Option String
  /-- The parsed input of a community connector action, where the action exists. -/
  parseActionInput : String → String → Option (Option Json → Option Json)
  requiresSecret : String → String → Bool
  /-- `action.execute`, which performs the action. -/
  performAction : String → String → Json → Option String → Except String NodeResult

variable (services : ExecutorServices)

def httpRequestExecutor (context : ExecutorContext) : NodeResult :=
  { status := .succeeded
    output := some (.obj [("accepted", .bool true),
      ("requestId", .str (context.nodeId ++ "-request"))]) }

def agentExecuteExecutor (context : ExecutorContext) (id : String)
    (config : Option AgentExecuteConfig) : Except String NodeResult :=
  let execution := config.bind (·.execution)
  if (execution.map (·.mode)).getD .cloud = .executor then
    resumeOr context <| .ok {
      status := .blocked
      block := some {
        kind := .agentExecute
        payload := .agentExecute id config
        executorSelector := execution.bind (·.selector)
        timeoutMs := ((config.bind (·.sandbox)).bind (·.timeoutMs)).map Int.ofNat } }
  else .ok {
    status := .succeeded
    output := some (.obj [("accepted", .bool true), ("taskId", .str (context.nodeId ++ "-task"))]) }

/-- The secret of an action that needs one. -/
def actionSecret (connectorId actionId secretId : String) : Except String (Option String) :=
  if services.requiresSecret connectorId actionId then (services.loadSecret secretId).map some
  else .ok none

def connectorActionExecutor (context : ExecutorContext) (config : ConnectorActionConfig) :
    Except String NodeResult :=
  match services.parseActionInput config.connectorId config.actionId with
  | none => .ok (failed ("ACTION_NOT_SUPPORTED:" ++ config.connectorId ++ ":" ++ config.actionId))
  | some parse =>
    match parse config.input with
    | none => .ok (failed "INVALID_ACTION_INPUT")
    | some input =>
      if (config.execution.map (·.mode)).getD .cloud = .executor then
        resumeOr context do
          let secret ← actionSecret services config.connectorId config.actionId config.secretId
          return { status := .blocked
                   block := some {
                     kind := .connectorAction
                     payload := .connectorAction config.connectorId config.actionId input
                       services.githubApiBaseUrl
                     executorSelector := config.execution.bind (·.selector)
                     secret := secret.filter (· ≠ "") } }
      else do
        let secret ← actionSecret services config.connectorId config.actionId config.secretId
        services.performAction config.connectorId config.actionId input secret

def githubIssueCreateInput (config : GithubIssueCreateConfig) : Json :=
  .obj ([("repo", .str config.repo), ("title", .str config.title)] ++
    config.body.elim [] fun body => [("body", .str body)])

/-- The legacy node runs as a connector action. -/
def legacyGithubIssueCreateExecutor (context : ExecutorContext) (config : GithubIssueCreateConfig) :
    Except String NodeResult :=
  connectorActionExecutor services context
    { connectorId := "github", actionId := "issue.create",
      input := some (githubIssueCreateInput config), secretId := config.secretId, execution := none }

/-- The items in order of their first occurrence. -/
def unique (items : List String) : List String :=
  items.foldl (fun out item => if item ∈ out then out else out ++ [item]) []

def connectorSecretIds (tools : AgentTools) : List (String × String) :=
  ((tools.authDefaults.bind id).getD []).filter fun entry => entry.2 ≠ ""

def agentRunExecutor (context : ExecutorContext) (id : String) (config : AgentRunConfig) :
    Except String NodeResult :=
  resumeOr context <|
    let allow := config.tools.allow
    let effectiveAllow := unique allow
    let toolsetId := config.toolsetId.or (services.defaultToolsetId context.organizationSettings)
    if toolsetId.any fun toolset => !services.toolsetExists toolset then
      .ok (failed "TOOLSET_NOT_FOUND")
    else .ok {
      status := .blocked
      block := some {
        kind := .agentRun
        payload := .agentRun id { config with tools := { config.tools with allow := effectiveAllow } }
          allow effectiveAllow
          ((config.engine.auth.bind fun auth => auth).or
            (services.defaultEngineSecretId context.organizationSettings config.engine.id))
          (connectorSecretIds config.tools)
        executorSelector := config.selector
        timeoutMs := some (max 1000 (min 600000 (config.limits.timeoutMs : Int))) } }

/-- `executorRegistry.get(node.type).execute(context)` for the community executors. -/
def communityExecute (context : ExecutorContext) : Except String NodeResult :=
  match context.node with
  | .httpRequest .. => .ok (httpRequestExecutor context)
  | .agentRun id config => agentRunExecutor services context id config
  | .agentExecute id config => agentExecuteExecutor context id config
  | .connectorAction _ config => connectorActionExecutor services context config
  | .connectorGithubIssueCreate _ config => legacyGithubIssueCreateExecutor services context config
  | .condition .. => .ok { status := .succeeded, output := some (.obj [("branch", .str "true")]) }
  | .parallelJoin .. => .ok { status := .succeeded, output := some (.obj [("joined", .bool true)]) }

end Vespid.Worker
