import Vespid.Js

/-!
# The workflow DSL

The values `workflowDslAnySchema` produces: nodes, v2 lists and v3 graphs. The types carry
the shape; the functions named after the schemas check what a shape leaves open (lengths,
ranges, formats).
-/

namespace Vespid.Workflow

def stringBetween (lo hi : Nat) (s : String) : Bool := lo ≤ jsLength s && jsLength s ≤ hi

def nonempty (s : String) : Bool := 1 ≤ jsLength s

def between (lo hi n : Nat) : Bool := lo ≤ n && n ≤ hi

def isHex (c : Char) : Bool :=
  c.isDigit || ('a'.val ≤ c.val && c.val ≤ 'f'.val) || ('A'.val ≤ c.val && c.val ≤ 'F'.val)

/-- `z.string().uuid()` -/
def isUuid (s : String) : Bool :=
  match splitChars (· == '-') s.toList with
  | [a, b, c, d, e] =>
    a.length == 8 && b.length == 4 && c.length == 4 && d.length == 4 && e.length == 12 &&
      (a ++ b ++ c ++ d ++ e).all isHex &&
      (((c.head?.any fun v => '1'.val ≤ v.val && v.val ≤ '8'.val) &&
        d.head?.any ("89abAB".toList.contains ·)) ||
        (a ++ b ++ c ++ d ++ e).all (· == '0') || (a ++ b ++ c ++ d ++ e).all (· == 'f'))
  | _ => false

/-- An id the database generates. -/
structure Uuid where
  value : String
  valid : isUuid value = true
  deriving DecidableEq

theorem Uuid.isHex_of_mem (id : Uuid) {c : Char} (mem : c ∈ id.value.toList) (apart : c ≠ '-') :
    isHex c = true := by
  have valid := id.valid
  obtain ⟨part, found, mem⟩ :=
    mem_of_splitChars (· == '-') _ mem (beq_eq_false_iff_ne.mpr apart)
  unfold isUuid at valid
  split at valid
  · rename_i a b c d e split
    rw [split] at found
    simp only [Bool.and_eq_true, List.all_eq_true] at valid
    refine valid.1.2 _ ?_
    simp only [List.mem_cons, List.not_mem_nil, or_false] at found
    rcases found with rfl | rfl | rfl | rfl | rfl <;> simp [mem]
  · cases valid

theorem Uuid.colon_not_mem (id : Uuid) : ':' ∉ id.value.toList := by
  intro colon
  have hex := id.isHex_of_mem colon (by decide)
  revert hex
  decide

theorem Uuid.ne_nil (id : Uuid) : id.value.toList ≠ [] := by
  intro none
  have blank : id.value = "" := String.toList_eq_nil_iff.mp none
  have valid := id.valid
  rw [blank] at valid
  revert valid
  decide

/-! ### Triggers -/

inductive ChannelEvent where
  | messageReceived | messageMentioned | messageDm
  deriving DecidableEq

structure ChannelMatch where
  textContains : Option String
  senderIn : Option (List String)
  groupIn : Option (List String)
  deriving DecidableEq

inductive WorkflowTrigger where
  | manual
  | webhook (token : String)
  | cron (cron : String)
  | heartbeat (intervalSec jitterSec maxSkewSec : Nat)
  | channel (channelId : String) (accountKey : Option String) (event : ChannelEvent)
      (filter : Option ChannelMatch)
  deriving DecidableEq

def channelMatchSchema (m : ChannelMatch) : Bool :=
  let names := fun l : List String => l.length ≤ 200 && l.all (stringBetween 1 200)
  m.textContains.all (stringBetween 1 200) && m.senderIn.all names && m.groupIn.all names

def workflowTriggerSchema : WorkflowTrigger → Bool
  | .manual => true
  | .webhook token => nonempty token
  | .cron cron => nonempty cron
  | .heartbeat intervalSec jitterSec maxSkewSec =>
    between 5 86400 intervalSec && jitterSec ≤ 3600 && maxSkewSec ≤ 3600
  | .channel channelId accountKey _ filter =>
    stringBetween 1 64 channelId && accountKey.all (stringBetween 1 120) &&
      filter.all channelMatchSchema

/-! ### Nodes -/

inductive NodeType where
  | httpRequest | agentRun | agentExecute | connectorAction | connectorGithubIssueCreate
  | condition | parallelJoin
  deriving DecidableEq

/-- The literal of the `type` field. -/
def NodeType.literal : NodeType → String
  | httpRequest => "http.request"
  | agentRun => "agent.run"
  | agentExecute => "agent.execute"
  | connectorAction => "connector.action"
  | connectorGithubIssueCreate => "connector.github.issue.create"
  | condition => "condition"
  | parallelJoin => "parallel.join"

inductive HttpMethod where
  | get | post | put | patch | delete | head | options
  deriving DecidableEq

structure HttpRequestConfig where
  method : HttpMethod
  url : String
  headers : Option (List (String × String))
  body : Option Json

inductive CondOp where
  | eq | neq | contains | exists | gt | gte | lt | lte
  deriving DecidableEq

def CondOp.literal : CondOp → String
  | eq => "eq"
  | neq => "neq"
  | contains => "contains"
  | «exists» => "exists"
  | gt => "gt"
  | gte => "gte"
  | lt => "lt"
  | lte => "lte"

structure ConditionConfig where
  path : String
  op : CondOp
  value : Option Json

structure ParallelJoinConfig where
  failFast : Bool

inductive ExecutorPool where
  | managed | byon
  deriving DecidableEq

structure NodeExecutionSelector where
  pool : ExecutorPool
  labels : Option (List String)
  group : Option String
  tag : Option String
  executorId : Option String
  deriving DecidableEq

inductive ExecutionMode where
  | cloud | executor
  deriving DecidableEq

structure NodeExecution where
  mode : ExecutionMode
  selector : Option NodeExecutionSelector
  deriving DecidableEq

inductive Shell where
  | sh | bash
  deriving DecidableEq

structure AgentExecuteTask where
  script : String
  shell : Option Shell
  env : Option (List (String × String))
  deriving DecidableEq

inductive SandboxBackend where
  | docker | host | provider
  deriving DecidableEq

inductive SandboxNetwork where
  | none | enabled
  deriving DecidableEq

structure AgentExecuteSandbox where
  backend : Option SandboxBackend
  network : Option SandboxNetwork
  timeoutMs : Option Nat
  dockerImage : Option (Option String)
  envPassthroughAllowlist : Option (List String)
  deriving DecidableEq

structure AgentExecuteConfig where
  execution : Option NodeExecution
  task : Option AgentExecuteTask
  sandbox : Option AgentExecuteSandbox
  deriving DecidableEq

structure ConnectorActionConfig where
  connectorId : String
  actionId : String
  input : Option Json
  secretId : String
  execution : Option NodeExecution

structure GithubIssueCreateConfig where
  repo : String
  title : String
  body : Option String
  secretId : String
  deriving DecidableEq

structure AgentPrompt where
  system : Option String
  instructions : String
  inputTemplate : Option String
  deriving DecidableEq

/-- `authDefaults.connectors`: the secret id for each connector id. -/
abbrev ConnectorAuthDefaults := List (String × String)

structure AgentLimits where
  maxTurns : Nat
  maxToolCalls : Nat
  timeoutMs : Nat
  maxOutputChars : Nat
  maxRuntimeChars : Nat
  deriving DecidableEq

inductive AgentOutputMode where
  | text | json
  deriving DecidableEq

structure AgentOutput where
  mode : AgentOutputMode
  jsonSchema : Option Json

structure AgentTools where
  allow : List String
  execution : ExecutionMode
  authDefaults : Option (Option ConnectorAuthDefaults)
  deriving DecidableEq

inductive AgentEngineId where
  | codex | claude | opencode
  deriving DecidableEq

structure AgentEngine where
  id : AgentEngineId
  model : Option String
  auth : Option (Option String)
  deriving DecidableEq

structure TeammateConfig where
  id : String
  displayName : Option String
  llmModel : Option (Option String)
  prompt : AgentPrompt
  toolsAllow : List String
  authDefaults : Option (Option ConnectorAuthDefaults)
  limits : AgentLimits
  output : AgentOutput

inductive TeamLeadMode where
  | delegateOnly | normal
  deriving DecidableEq

structure AgentTeam where
  maxParallel : Nat
  leadMode : TeamLeadMode
  teammates : List TeammateConfig

structure AgentRunConfig where
  toolsetId : Option String
  engine : AgentEngine
  selector : Option NodeExecutionSelector
  prompt : AgentPrompt
  tools : AgentTools
  limits : AgentLimits
  output : AgentOutput
  team : Option AgentTeam

inductive WorkflowNode where
  | httpRequest (id : String) (config : Option HttpRequestConfig)
  | agentRun (id : String) (config : AgentRunConfig)
  | agentExecute (id : String) (config : Option AgentExecuteConfig)
  | connectorAction (id : String) (config : ConnectorActionConfig)
  | connectorGithubIssueCreate (id : String) (config : GithubIssueCreateConfig)
  | condition (id : String) (config : Option ConditionConfig)
  | parallelJoin (id : String) (config : Option ParallelJoinConfig)

namespace WorkflowNode

def id : WorkflowNode → String
  | httpRequest id _ => id
  | agentRun id _ => id
  | agentExecute id _ => id
  | connectorAction id _ => id
  | connectorGithubIssueCreate id _ => id
  | condition id _ => id
  | parallelJoin id _ => id

def type : WorkflowNode → NodeType
  | httpRequest .. => .httpRequest
  | agentRun .. => .agentRun
  | agentExecute .. => .agentExecute
  | connectorAction .. => .connectorAction
  | connectorGithubIssueCreate .. => .connectorGithubIssueCreate
  | condition .. => .condition
  | parallelJoin .. => .parallelJoin

end WorkflowNode

/-! ### What the node schemas check -/

def httpRequestConfigSchema (c : HttpRequestConfig) : Bool :=
  stringBetween 1 2000 c.url && c.headers.all fun headers => headers.all fun h => nonempty h.1

/-- A condition value is a string, a number, a boolean or null. -/
def conditionValueSchema : Json → Bool
  | .arr _ => false
  | .obj _ => false
  | _ => true

def conditionConfigSchema (c : ConditionConfig) : Bool :=
  stringBetween 1 500 c.path && c.value.all conditionValueSchema

def nodeExecutionSelectorSchema (s : NodeExecutionSelector) : Bool :=
  (s.labels.all fun labels => labels.length ≤ 50 && labels.all (stringBetween 1 64)) &&
    s.group.all (stringBetween 1 64) && s.tag.all (stringBetween 1 64) && s.executorId.all isUuid

def nodeExecutionSchema (e : NodeExecution) : Bool := e.selector.all nodeExecutionSelectorSchema

def agentExecuteTaskSchema (t : AgentExecuteTask) : Bool :=
  stringBetween 1 200000 t.script && t.env.all fun env => env.all fun e => nonempty e.1

def agentExecuteSandboxSchema (s : AgentExecuteSandbox) : Bool :=
  s.timeoutMs.all (between 1000 600000) && (s.dockerImage.all fun image => image.all nonempty) &&
    s.envPassthroughAllowlist.all fun names => names.length ≤ 50 && names.all nonempty

def agentExecuteConfigSchema (c : AgentExecuteConfig) : Bool :=
  c.execution.all nodeExecutionSchema && c.task.all agentExecuteTaskSchema &&
    c.sandbox.all agentExecuteSandboxSchema

def connectorActionConfigSchema (c : ConnectorActionConfig) : Bool :=
  nonempty c.connectorId && nonempty c.actionId && isUuid c.secretId &&
    c.execution.all nodeExecutionSchema

/-- `/^[^/]+\/[^/]+$/` -/
def isRepoPath (repo : String) : Bool :=
  match splitChars (· == '/') repo.toList with
  | [owner, name] => !owner.isEmpty && !name.isEmpty
  | _ => false

def githubIssueCreateConfigSchema (c : GithubIssueCreateConfig) : Bool :=
  isRepoPath c.repo && stringBetween 1 256 c.title && c.body.all (stringBetween 0 200000) &&
    isUuid c.secretId

def agentPromptSchema (p : AgentPrompt) : Bool :=
  p.system.all (stringBetween 0 200000) && stringBetween 1 200000 p.instructions &&
    p.inputTemplate.all (stringBetween 0 200000)

def connectorAuthDefaultsSchema (auth : ConnectorAuthDefaults) : Bool :=
  auth.all fun entry => stringBetween 1 80 entry.1 && isUuid entry.2

def agentLimitsSchema (l : AgentLimits) : Bool :=
  between 1 64 l.maxTurns && l.maxToolCalls ≤ 200 && between 1000 600000 l.timeoutMs &&
    between 256 1000000 l.maxOutputChars && between 1024 2000000 l.maxRuntimeChars

def agentToolsSchema (t : AgentTools) : Bool :=
  t.allow.all (stringBetween 1 120) &&
    t.authDefaults.all fun auth => auth.all connectorAuthDefaultsSchema

def agentEngineSchema (e : AgentEngine) : Bool :=
  e.model.all (stringBetween 1 120) && e.auth.all fun secretId => secretId.all isUuid

def teammateConfigSchema (t : TeammateConfig) : Bool :=
  stringBetween 1 64 t.id && t.displayName.all (stringBetween 1 120) &&
    (t.llmModel.all fun model => model.all (stringBetween 1 120)) && agentPromptSchema t.prompt &&
    t.toolsAllow.all (stringBetween 1 120) &&
    (t.authDefaults.all fun auth => auth.all connectorAuthDefaultsSchema) &&
    agentLimitsSchema t.limits

def agentTeamSchema (t : AgentTeam) : Bool :=
  between 1 16 t.maxParallel && between 1 32 t.teammates.length &&
    t.teammates.all teammateConfigSchema

def agentRunConfigSchema (c : AgentRunConfig) : Bool :=
  c.toolsetId.all isUuid && agentEngineSchema c.engine &&
    c.selector.all nodeExecutionSelectorSchema && agentPromptSchema c.prompt &&
    agentToolsSchema c.tools && agentLimitsSchema c.limits && c.team.all agentTeamSchema

def workflowNodeSchema (n : WorkflowNode) : Bool :=
  nonempty n.id && match n with
    | .httpRequest _ config => config.all httpRequestConfigSchema
    | .agentRun _ config => agentRunConfigSchema config
    | .agentExecute _ config => config.all agentExecuteConfigSchema
    | .connectorAction _ config => connectorActionConfigSchema config
    | .connectorGithubIssueCreate _ config => githubIssueCreateConfigSchema config
    | .condition _ config => config.all conditionConfigSchema
    | .parallelJoin _ _ => true

/-! ### Workflows -/

structure WorkflowDsl where
  trigger : WorkflowTrigger
  nodes : List WorkflowNode

def workflowDslSchema (dsl : WorkflowDsl) : Bool :=
  workflowTriggerSchema dsl.trigger && !dsl.nodes.isEmpty && dsl.nodes.all workflowNodeSchema

inductive EdgeKind where
  | always | condTrue | condFalse
  deriving DecidableEq

def EdgeKind.literal : EdgeKind → String
  | always => "always"
  | condTrue => "cond_true"
  | condFalse => "cond_false"

structure WorkflowEdgeV3 where
  id : String
  «from» : String
  «to» : String
  kind : Option EdgeKind
  deriving DecidableEq

/-- `edge.kind ?? "always"` -/
def WorkflowEdgeV3.kindOrAlways (e : WorkflowEdgeV3) : EdgeKind := e.kind.getD .always

/-- A v3 graph. `nodes` are the entries of a record, so no key occurs twice. -/
structure WorkflowDslV3 where
  trigger : WorkflowTrigger
  nodes : List (String × WorkflowNode)
  edges : List WorkflowEdgeV3
  keysDistinct : (nodes.map Prod.fst).Nodup

namespace WorkflowDslV3

/-- `Object.keys(graph.nodes)` -/
def nodeIds (dsl : WorkflowDslV3) : List String := dsl.nodes.map Prod.fst

/-- `graph.nodes[id]` -/
def node? (dsl : WorkflowDslV3) (id : String) : Option WorkflowNode := dsl.nodes.lookup id

/-- The edges out of a node. -/
def outgoing (dsl : WorkflowDslV3) (id : String) : List WorkflowEdgeV3 :=
  dsl.edges.filter fun e => e.from = id

/-- The edges into a node. -/
def incoming (dsl : WorkflowDslV3) (id : String) : List WorkflowEdgeV3 :=
  dsl.edges.filter fun e => e.to = id

/-- Every node stands under its own id. -/
def KeysAreIds (dsl : WorkflowDslV3) : Prop := ∀ entry ∈ dsl.nodes, entry.2.id = entry.1

instance (dsl : WorkflowDslV3) : Decidable dsl.KeysAreIds :=
  inferInstanceAs (Decidable (∀ entry ∈ dsl.nodes, entry.2.id = entry.1))

end WorkflowDslV3

def workflowEdgeV3Schema (e : WorkflowEdgeV3) : Bool :=
  stringBetween 1 120 e.id && stringBetween 1 120 e.from && stringBetween 1 120 e.to

def workflowDslV3Schema (dsl : WorkflowDslV3) : Bool :=
  workflowTriggerSchema dsl.trigger &&
    (dsl.nodes.all fun entry => stringBetween 1 120 entry.1 && workflowNodeSchema entry.2) &&
    dsl.edges.all workflowEdgeV3Schema

inductive WorkflowDslAny where
  | v2 (dsl : WorkflowDsl)
  | v3 (dsl : WorkflowDslV3)

def workflowDslAnySchema : WorkflowDslAny → Bool
  | .v2 dsl => workflowDslSchema dsl
  | .v3 dsl => workflowDslV3Schema dsl

/-! ### Lookups in a graph -/

namespace WorkflowDslV3
variable {dsl : WorkflowDslV3} {key : String} {node : WorkflowNode}

theorem node?_isSome_iff : (dsl.node? key).isSome ↔ key ∈ dsl.nodeIds :=
  OrderedMap.lookup_isSome_iff dsl.nodes key

theorem mem_nodes_of_node? (found : dsl.node? key = some node) : (key, node) ∈ dsl.nodes := by
  obtain ⟨before, after, split, _⟩ := List.lookup_eq_some_iff.mp found
  rw [split]
  simp

theorem id_of_node? (keys : dsl.KeysAreIds) (found : dsl.node? key = some node) : node.id = key :=
  keys _ (mem_nodes_of_node? found)

end WorkflowDslV3

end Vespid.Workflow
