import Vespid.AgentRuntime.AgentLoop

/-!
# The tools of an agent

What the tools that a loop executes do: connector actions, shell scripts, memory, and teammates
that run a loop of their own with a list of tools cut down to the list of the agent they work for.
-/

namespace Vespid.AgentRuntime

open Interleaving Scheduler

/-! ### Argument checks -/

/-- A field that may be absent. -/
def optional (fields : List (String × Json)) (key : String) (ok : Json → Bool) : Bool :=
  match fields.lookup key with
  | none => true
  | some value => ok value

def isText (min max : Nat) : Json → Bool
  | .str s => min ≤ jsLength s && jsLength s ≤ max
  | _ => false

def isFilled : Json → Bool
  | .str s => 1 ≤ jsLength s
  | _ => false

def isInteger (min max : Nat) : Json → Bool
  | .num n => n.isInt && (min : Rat) ≤ n && n ≤ (max : Rat)
  | _ => false

def isOneOf (names : List String) : Json → Bool
  | .str s => names.contains s
  | _ => false

def isList (max : Nat) (ok : Json → Bool) : Json → Bool
  | .arr items => items.length ≤ max && items.all ok
  | _ => false

/-- An object whose other fields are left out. -/
def known (keys : List String) (fields : List (String × Json)) : List (String × Json) :=
  fields.filter fun entry => keys.contains entry.1

section schemas
variable (host : Host)

def isUuidText : Json → Bool
  | .str s => host.isUuid s
  | _ => false

def isSelector : Json → Bool
  | .obj fields =>
    optional fields "pool" (isOneOf ["managed", "byon"]) &&
    optional fields "labels" (isList 50 (isText 1 64)) &&
    optional fields "group" (isText 1 64) && optional fields "tag" (isText 1 64) &&
    optional fields "executorId" (isUuidText host)
  | _ => false

/-- A selector with the pool it falls back to and without empty labels. -/
def normalizeSelector (fields : List (String × Json)) : Json :=
  let labels := match fields.lookup "labels" with
    | some (.arr (label :: rest)) => [("labels", .arr (label :: rest))]
    | _ => []
  .obj (("pool", (fields.lookup "pool").getD (.str "managed")) :: labels ++
    known ["group", "tag", "executorId"] fields)

structure ConnectorArgs where
  connectorId : String
  actionId : String
  input : Option Json
  secretId : Option String
  selector : Option Json

/-- The secret named by the field `auth`, if there is one and it is well formed. -/
def parseAuth (fields : List (String × Json)) : Option (Option String) :=
  match fields.lookup "auth" with
  | none => some none
  | some auth =>
    match auth.field? "secretId" with
    | some (.str secretId) => if host.isUuid secretId then some (some secretId) else none
    | _ => none

def parseSelector (fields : List (String × Json)) : Option (Option Json) :=
  match fields.lookup "selector" with
  | none => some none
  | some (.obj selector) =>
    if isSelector host (.obj selector) then some (some (normalizeSelector selector)) else none
  | some _ => none

def parseConnectorArgs (args : List (String × Json)) : Option ConnectorArgs :=
  match args.lookup "connectorId", args.lookup "actionId", parseAuth host args,
      parseSelector host args with
  | some (.str connectorId), some (.str actionId), some secretId, some selector =>
    if connectorId = "" ∨ actionId = "" then none
    else some { connectorId, actionId, input := args.lookup "input", secretId, selector }
  | _, _, _, _ => none

def isSandbox : Json → Bool
  | .obj fields =>
    optional fields "backend" (isOneOf ["docker", "host", "provider"]) &&
    optional fields "network" (isOneOf ["none", "enabled"]) &&
    optional fields "timeoutMs" (isInteger 1000 600000) &&
    optional fields "docker" (fun docker => match docker with
      | .obj docker => optional docker "image" isFilled
      | _ => false) &&
    optional fields "envPassthroughAllowlist" (isList 50 isFilled)
  | _ => false

def isEnv : Json → Bool
  | .obj fields => fields.all fun entry => entry.1 ≠ "" && match entry.2 with
    | .str _ => true
    | _ => false
  | _ => false

def isShellRunArgs (args : List (String × Json)) : Bool :=
  (match args.lookup "script" with
    | some script => isText 1 200000 script
    | none => false) &&
  optional args "shell" (isOneOf ["sh", "bash"]) && optional args "env" isEnv &&
  optional args "sandbox" isSandbox && optional args "selector" (isSelector host)

structure DelegateArgs where
  teammateId : String
  task : String
  input : Option Json

def parseDelegateArgs : Json → Option DelegateArgs
  | .obj fields =>
    match fields.lookup "teammateId", fields.lookup "task" with
    | some (.str teammateId), some (.str task) =>
      if isText 1 64 (.str teammateId) && isText 1 200000 (.str task) then
        some { teammateId, task, input := fields.lookup "input" }
      else none
    | _, _ => none
  | _ => none

structure MapArgs where
  tasks : List DelegateArgs
  maxParallel : Option Nat

def parseMapArgs (args : List (String × Json)) : Option MapArgs :=
  match args.lookup "tasks", optional args "maxParallel" (isInteger 1 16) with
  | some (.arr items), true =>
    if items.isEmpty || 64 < items.length then none
    else (items.mapM parseDelegateArgs).map fun tasks =>
      { tasks
        maxParallel := match args.lookup "maxParallel" with
          | some (.num n) => some n.num.toNat
          | _ => none }
  | _, _ => none

end schemas

/-! ### Connector actions -/

structure ConnectorAction where
  connectorId : String
  actionId : String
  requiresSecret : Bool
  inputSchema : Option Json → Option Json

/-- `/^[^/]+\/[^/]+$/` -/
def isRepo : Json → Bool
  | .str repo =>
    match splitChars (· == '/') repo.toList with
    | [owner, name] => !owner.isEmpty && !name.isEmpty
    | _ => false
  | _ => false

def githubIssueCreateInputSchema : Option Json → Option Json
  | some (.obj fields) =>
    match fields.lookup "repo", fields.lookup "title" with
    | some repo, some title =>
      if isRepo repo && isText 1 256 title && optional fields "body" (isText 0 200000) then
        some (.obj (known ["repo", "title", "body"] fields))
      else none
    | _, _ => none
  | _ => none

def githubIssueCreateAction : ConnectorAction where
  connectorId := "github"
  actionId := "issue.create"
  requiresSecret := true
  inputSchema := githubIssueCreateInputSchema

def getCommunityConnectorActions : List ConnectorAction := [githubIssueCreateAction]

def getCommunityConnectorAction (connectorId actionId : String) : Option ConnectorAction :=
  getCommunityConnectorActions.find? fun action =>
    action.connectorId = connectorId && action.actionId = actionId

/-! ### What a run of an agent does -/

structure AgentTeamMeta where
  teammateId : String
  parentNodeId : String
  parentCallIndex : Nat

/-- What a tool is told about the call. `team` is that of the loop that makes the call. -/
structure ToolContext where
  team : Option AgentTeamMeta
  toolId : String
  callIndex : Nat
  nodeId : String
  mode : AgentToolExecutionMode
  connectorSecrets : List (String × String)
  memory : Bool

/-- The operations of a loop and of the loops of its teammates, and those of tools. -/
inductive ToolOp where
  | loop (team : Option AgentTeamMeta) (op : LoopOp)
  | loadSecretValue (secretId : String)
  /-- `action.execute` -/
  | execute (ctx : ToolContext) (connectorId actionId : String) (input : Json)
    (secret : Option String)
  | memory (ctx : ToolContext) (tool : AgentTool) (args : List (String × Json))

abbrev ToolOp.Reply : ToolOp → Type
  | loop _ op => op.Reply
  | loadSecretValue _ => Option String
  | execute _ _ _ _ _ => ToolReply
  | memory _ _ _ => ToolReply

abbrev ToolI : Interface := ⟨ToolOp, ToolOp.Reply⟩

section tools
variable (host : Host)

def connectorBlock (parsed : ConnectorArgs) (actionInput : Json) (secret : Option String) :
    Block where
  kind := .connectorAction
  payload := .obj [("connectorId", .str parsed.connectorId), ("actionId", .str parsed.actionId),
    ("input", actionInput)]
  secret
  executorSelector := parsed.selector
  timeoutMs := none

/-- Dispatch the action, or execute it here. An action that is executed does not block. -/
def performAction (ctx : ToolContext) (parsed : ConnectorArgs) (actionInput : Json)
    (secret : Option String) : Program ToolI ToolReply :=
  match ctx.mode with
  | .executor => return .blocked (connectorBlock parsed actionInput secret)
  | .cloud => do
    match ← Program.issue (I := ToolI)
        (.execute ctx parsed.connectorId parsed.actionId actionInput secret) with
    | .blocked _ => return .threw
    | reply => return reply

def connectorActionExecute (ctx : ToolContext) (args : List (String × Json)) :
    Program ToolI ToolReply :=
  match parseConnectorArgs host args with
  | none => return .failed "INVALID_TOOL_INPUT" .null
  | some parsed =>
    match getCommunityConnectorAction parsed.connectorId parsed.actionId with
    | none =>
      return .failed ("ACTION_NOT_SUPPORTED:" ++ parsed.connectorId ++ ":" ++ parsed.actionId) .null
    | some action =>
      match action.inputSchema parsed.input with
      | none => return .failed "INVALID_ACTION_INPUT" .null
      | some actionInput =>
        if action.requiresSecret then
          match (parsed.secretId.or (ctx.connectorSecrets.lookup parsed.connectorId)).filter
              (fun secretId => !(trim secretId.toList).isEmpty) with
          | none => return .failed "SECRET_REQUIRED" .null
          | some secretId => do
            match ← Program.issue (I := ToolI) (.loadSecretValue secretId) with
            | none => return .threw
            | some secret => performAction ctx parsed actionInput (some secret)
        else performAction ctx parsed actionInput none

def shellRunExecute (ctx : ToolContext) (args : List (String × Json)) : ToolReply :=
  if ctx.mode ≠ .executor then .failed "SHELL_TOOL_REQUIRES_EXECUTOR_EXECUTION" .null
  else if isShellRunArgs host args = false then .failed "INVALID_TOOL_INPUT" .null
  else
    let nodeId := ctx.nodeId ++ ":shell.run"
    let task := ("type", .str "shell") :: known ["script", "shell", "env"] args
    let config := ("execution", .obj [("mode", .str "executor")]) :: ("task", .obj task) ::
      known ["sandbox"] args
    let node := [("id", .str nodeId), ("type", .str "agent.execute"), ("config", .obj config)]
    .blocked
      { kind := .agentExecute
        payload := .obj [("nodeId", .str nodeId), ("node", .obj node)]
        secret := none
        executorSelector := match args.lookup "selector" with
          | some (.obj selector) => some (normalizeSelector selector)
          | _ => none
        timeoutMs := (args.lookup "sandbox").bind (·.field? "timeoutMs") }

def isMemoryArgs (tool : AgentTool) (args : List (String × Json)) : Bool :=
  match tool with
  | .memorySearch => (match args.lookup "query" with
      | some query => isText 1 20000 query
      | none => false) && optional args "maxResults" (isInteger 1 50)
  | _ => (match args.lookup "path" with
      | some path => isText 1 400 path
      | none => false) && optional args "fromLine" (isInteger 1 1000000) &&
    optional args "lineCount" (isInteger 1 500)

def memoryExecute (ctx : ToolContext) (tool : AgentTool) (args : List (String × Json)) :
    Program ToolI ToolReply :=
  if isMemoryArgs tool args = false then return .failed "INVALID_TOOL_INPUT" .null
  else if ctx.memory then do
    match ← Program.issue (I := ToolI) (.memory ctx tool args) with
    | .blocked _ => return .threw
    | reply => return reply
  else return .failed "MEMORY_NOT_CONFIGURED" .null

/-- A tool of a loop that has no team. -/
def executeAlone (ctx : ToolContext) (tool : AgentTool) (args : List (String × Json)) :
    Program ToolI ToolReply :=
  match tool with
  | .connectorAction => connectorActionExecute host ctx args
  | .shellRun => return shellRunExecute host ctx args
  | .memorySearch | .memoryGet => memoryExecute ctx tool args
  | .teamDelegate =>
    if (parseDelegateArgs (.obj args)).isSome then return .failed "TEAM_NOT_CONFIGURED" .null
    else return .failed "INVALID_TOOL_INPUT" .null
  | .teamMap =>
    if (parseMapArgs args).isSome then return .failed "TEAM_NOT_CONFIGURED" .null
    else return .failed "INVALID_TOOL_INPUT" .null

/-- Carry out the operations of a loop: tools are executed by `execute`. -/
def withTools (team : Option AgentTeamMeta)
    (ctx : (toolId : String) → (callIndex : Nat) → ToolContext)
    (execute : ToolContext → AgentTool → List (String × Json) → Program ToolI ToolReply)
    (op : LoopOp) : Program ToolI op.Reply :=
  match op with
  | .execute tool toolId callIndex args => execute (ctx toolId callIndex) tool args
  | op => Program.issue (I := ToolI) (.loop team op)

def toolContext (input : AgentLoopInput) (team : Option AgentTeamMeta) (memory : Bool)
    (toolId : String) (callIndex : Nat) : ToolContext where
  team
  toolId
  callIndex
  nodeId := input.nodeId
  mode := input.execution
  connectorSecrets := input.connectorSecrets
  memory

/-! ### Teams -/

structure TeammateConfig where
  id : String
  allow : List String
  connectorSecrets : List (String × String)
  limits : Limits
  output : OutputConfig

structure Team where
  maxParallel : Nat
  teammates : List TeammateConfig

/-- A team configuration and what its parent hands on. -/
structure TeamConfig where
  team : Option Team
  nodeId : String
  policyToolAllow : List String
  organizationSettings : Json
  usesManagedCredits : Bool

def intersectAllowlist (parent teammate : List String) : List String :=
  let forbidden := ["team.delegate", "team.map"]
  teammate.filter fun t => parent.contains t && !forbidden.contains t

def teammateInput (config : TeamConfig) (teammate : TeammateConfig) : AgentLoopInput where
  nodeId := config.nodeId ++ ":team:" ++ teammate.id
  organizationSettings := config.organizationSettings
  runtime := { agentRuns := [], pendingRemoteResult := none }
  pendingRemoteResult := none
  allow := intersectAllowlist config.policyToolAllow teammate.allow
  execution := .cloud
  connectorSecrets := teammate.connectorSecrets
  limits := teammate.limits
  output := teammate.output
  usesManagedCredits := config.usesManagedCredits
  persistNodeId := none
  allowRemoteBlocked := false

def runTeammate (config : TeamConfig) (teammate : TeammateConfig) (team : AgentTeamMeta) :
    Program ToolI Outcome :=
  let input := teammateInput config teammate
  (runAgentLoop host input).interpret
    (withTools (some team) (toolContext input (some team) false) (executeAlone host))

/-- The error of a failed loop, as the delegating tool reports it. -/
def delegateError (error : String) : String :=
  if startsWith error "TOOL_NOT_ALLOWED:" then
    "TEAM_TOOL_POLICY_DENIED:" ++ String.ofList (error.toList.drop "TOOL_NOT_ALLOWED:".length)
  else error

def delegateReply (teammate : TeammateConfig) : Outcome → ToolReply
  | .succeeded output _ =>
    .succeeded (.obj [("teammateId", .str teammate.id), ("output", output.getD .null)])
  | .failed error _ => .failed (delegateError error) .null
  | .blocked _ _ _ => .failed "TEAM_DELEGATE_FAILED" .null
  | .threw => .threw

def runDelegate (config : TeamConfig) (ctx : ToolContext) (args : DelegateArgs) :
    Program ToolI ToolReply :=
  match config.team with
  | none => return .failed "TEAM_NOT_CONFIGURED" .null
  | some team =>
    match team.teammates.find? (·.id = args.teammateId) with
    | none => return .failed ("TEAMMATE_NOT_FOUND:" ++ args.teammateId) .null
    | some teammate => do
      let outcome ← runTeammate host config teammate
        { teammateId := teammate.id, parentNodeId := config.nodeId,
          parentCallIndex := ctx.callIndex }
      return delegateReply teammate outcome

def taskOutput (task : DelegateArgs) : ToolReply → Json
  | .succeeded (.obj fields) => .obj (("status", .str "succeeded") :: fields)
  | .succeeded _ => .obj [("status", .str "succeeded")]
  | .failed error _ => .obj [("status", .str "failed"), ("teammateId", .str task.teammateId),
      ("error", .str error)]
  | .blocked _ | .threw => .obj [("status", .str "failed"), ("teammateId", .str task.teammateId),
      ("error", .str "TEAM_REMOTE_EXEC_NOT_SUPPORTED")]

/-- Tasks are taken in order while a worker is left; a task that throws ends its worker. Returns
whether one threw. -/
def runWithConcurrency (run : DelegateArgs → Program ToolI ToolReply) :
    (workers : Nat) → List DelegateArgs → Program ToolI (Bool × List Json)
  | _, [] => return (false, [])
  | 0, _ :: _ => return (true, [])
  | workers + 1, task :: rest => do
    match ← run task with
    | .threw => do
      let (_, outputs) ← runWithConcurrency run workers rest
      return (true, outputs)
    | reply => do
      let (threw, outputs) ← runWithConcurrency run (workers + 1) rest
      return (threw, taskOutput task reply :: outputs)

def teamMapExecute (config : TeamConfig) (ctx : ToolContext) (args : List (String × Json)) :
    Program ToolI ToolReply :=
  match parseMapArgs args, config.team with
  | none, _ => return .failed "INVALID_TOOL_INPUT" .null
  | some _, none => return .failed "TEAM_NOT_CONFIGURED" .null
  | some parsed, some team => do
    let maxParallel := max 1 (min 16 (parsed.maxParallel.getD team.maxParallel))
    let (threw, outputs) ← runWithConcurrency (runDelegate host config ctx)
      (min maxParallel parsed.tasks.length) parsed.tasks
    return if threw then .threw else .succeeded (.arr outputs)

def executeTool (team : Option TeamConfig) (ctx : ToolContext) (tool : AgentTool)
    (args : List (String × Json)) : Program ToolI ToolReply :=
  match team, tool with
  | some config, .teamDelegate =>
    match parseDelegateArgs (.obj args) with
    | none => return .failed "INVALID_TOOL_INPUT" .null
    | some parsed => runDelegate host config ctx parsed
  | some config, .teamMap => teamMapExecute host config ctx args
  | _, tool => executeAlone host ctx tool args

def runAgent (input : AgentLoopInput) (team : Option TeamConfig) (memory : Bool) :
    Program ToolI Outcome :=
  (runAgentLoop host input).interpret
    (withTools none (toolContext input none memory) (executeTool host team))

end tools

end Vespid.AgentRuntime
