import Vespid.Workflow.Dsl

/-!
# Organization policy

The policy gate of the worker: the context of a node, the rules of an organization in the
order the database lists them, and the decision.
-/

namespace Vespid.Worker

open Workflow

inductive PolicyEffect where
  | allow | deny | requireApproval
  deriving DecidableEq

structure PolicyDecision where
  decision : PolicyEffect
  reason : String
  ruleId : Option String := none
  deriving DecidableEq

inductive NetworkMode where
  | enabled | none
  deriving DecidableEq

def NetworkMode.literal : NetworkMode → String
  | enabled => "enabled"
  | none => "none"

structure NodePolicyContext where
  nodeType : String
  taskType : Option String := .none
  networkMode : Option NetworkMode := .none
  actionId : Option String := .none
  deriving DecidableEq

structure OrgPolicyRule where
  id : String
  name : String
  enabled : Bool
  priority : Int
  createdAt : Int
  effect : PolicyEffect
  scope : Json

/-- `readStringArray`: the nonempty strings of an array. -/
def readStringArray : Option Json → List String
  | some (.arr items) => items.filterMap fun item =>
      match item with
      | .str s => if s = "" then none else some s
      | _ => none
  | _ => []

def writeVerbs : List String :=
  ["create", "update", "delete", "remove", "write", "send", "post", "put", "patch", "sync",
   "upsert", "publish", "invite", "grant", "revoke"]

/-- Whether a part of `actionId` between the separators `.`, `_` and `-` is a write verb, in
any case. -/
def isLikelyWriteConnectorAction (actionId : String) : Bool :=
  (splitChars (fun c => c == '.' || c == '_' || c == '-') actionId.toList).any fun part =>
    writeVerbs.any fun verb => part.map Char.toLower == verb.toList

def buildNodePolicyContext (node : WorkflowNode) : NodePolicyContext :=
  match node with
  | .agentExecute _ config =>
    { nodeType := "agent.execute"
      taskType := (config.bind (·.task)).map fun _ => "shell"
      networkMode :=
        if (config.bind (·.sandbox)).bind (·.network) = some .enabled then some .enabled
        else some .none }
  | .connectorAction _ config =>
    { nodeType := "connector.action", actionId := some config.actionId }
  | _ => { nodeType := node.type.literal }

/-- A nonempty string under `key`. -/
def scopeString (scope : List (String × Json)) (key : String) : Option String :=
  match scope.lookup key with
  | some (.str s) => if s = "" then none else some s
  | _ => none

def ruleMatchesContext (rule : OrgPolicyRule) (context : NodePolicyContext) : Bool :=
  rule.enabled && match rule.scope.asObject with
    | none => true
    | some scope =>
      ((scopeString scope "nodeType").all (· == context.nodeType)) &&
      (let nodeTypes := readStringArray (scope.lookup "nodeTypes")
       nodeTypes.isEmpty || nodeTypes.contains context.nodeType) &&
      ((scopeString scope "taskType").all fun t => context.taskType == some t) &&
      ((scopeString scope "networkMode").all fun m =>
        context.networkMode.map NetworkMode.literal == some m) &&
      (let actionIdPrefixes := readStringArray (scope.lookup "actionIdPrefixes")
       actionIdPrefixes.isEmpty || context.actionId.any fun actionId =>
         actionId != "" && actionIdPrefixes.any fun start => startsWith actionId start)

/-- The decision where no rule matches. -/
def defaultDecision (context : NodePolicyContext) : PolicyDecision :=
  if context.nodeType = "agent.execute" ∧ context.networkMode = some .enabled then
    { decision := .deny, reason := "network_enabled_execute_denied_by_default" }
  else if context.nodeType = "agent.execute" ∧ context.taskType = some "shell" then
    { decision := .requireApproval, reason := "shell_run_requires_approval" }
  else if context.nodeType = "connector.action" ∧
      context.actionId.any isLikelyWriteConnectorAction then
    { decision := .requireApproval, reason := "connector_write_action_requires_approval" }
  else { decision := .allow, reason := "default_allow" }

def evaluateNodePolicy (context : NodePolicyContext) (rules : List OrgPolicyRule) :
    PolicyDecision :=
  match rules.find? fun rule => ruleMatchesContext rule context with
  | some rule =>
    { decision := rule.effect, reason := "organization_policy_rule:" ++ rule.name,
      ruleId := some rule.id }
  | none => defaultDecision context

end Vespid.Worker
