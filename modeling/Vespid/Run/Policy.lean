import Vespid.Run.Gate
import Vespid.NodeAgent.AgentRun

/-!
# The policy along a run

The gate decides on a node by its type and its own settings. The policy is about what the node's
executor leads to: a connector action, or a shell task with or without network access.
-/

namespace Vespid

open Interleaving Worker Workflow
open NodeAgent.AgentRun (AgentRunNode AgentRunPayload RunIds ToolCall ToolResult CallOps
  ConnectorPayload resolveSecrets dispatchOf toolResultsOf attemptCall runConnectorTask
  runToolCalls_ran resolveSecrets_brings loopRan_event)

/-! ### What the policy asks -/

/-- What an executor carries out or hands to one. -/
inductive Act where
  | action (actionId : String)
  | shellTask (networkEnabled : Bool)

namespace Act

/-- An act as the rules look at it, however it is reached. -/
def context : Act → NodePolicyContext
  | action actionId => { nodeType := "connector.action", actionId := some actionId }
  | shellTask networkEnabled =>
    { nodeType := "agent.execute", taskType := some "shell"
      networkMode := some (if networkEnabled then .enabled else .none) }

/-- What holds of an act that no rule matches. -/
def byDefault : Act → PolicyEffect
  | action actionId => if isLikelyWriteConnectorAction actionId then .requireApproval else .allow
  | shellTask networkEnabled => if networkEnabled then .deny else .requireApproval

theorem defaultDecision_context (act : Act) :
    (defaultDecision act.context).decision = act.byDefault := by
  cases act with
  | action actionId =>
    cases write : isLikelyWriteConnectorAction actionId <;>
      simp [defaultDecision, context, byDefault, write]
  | shellTask networkEnabled => cases networkEnabled <;> rfl

end Act

/-- The order in which the rules of an organization are listed. -/
def RuleBefore (a b : OrgPolicyRule) : Prop :=
  a.priority < b.priority ∨ a.priority = b.priority ∧
    (a.createdAt < b.createdAt ∨ a.createdAt = b.createdAt ∧ a.id < b.id)

/-- The effect of the first enabled rule that matches the act, or what holds by default. -/
structure Decides (rules : List OrgPolicyRule) (act : Act) (effect : PolicyEffect) : Prop where
  first : ∀ rule ∈ rules, ruleMatchesContext rule act.context →
    (∀ other ∈ rules, ruleMatchesContext other act.context → other = rule ∨ RuleBefore rule other) →
      effect = rule.effect
  default : (∀ rule ∈ rules, ¬ruleMatchesContext rule act.context) → effect = act.byDefault

/-- What an effect asks of the requests of the run before an act of the node. -/
def Worker.PolicyEffect.Passes (effect : PolicyEffect) (nodeId : String) (st : RunStore) : Prop :=
  match effect with
  | .allow => True
  | .requireApproval => st.approvals.hasApproved nodeId st.now
  | .deny => False

def Worker.PolicyEffect.rank : PolicyEffect → Nat
  | .allow => 0
  | .requireApproval => 1
  | .deny => 2

theorem Worker.PolicyEffect.Passes.of_rank {effect stricter : PolicyEffect} {nodeId : String}
    {st : RunStore} (passes : stricter.Passes nodeId st) (milder : effect.rank ≤ stricter.rank) :
    effect.Passes nodeId st := by
  cases effect with
  | allow => trivial
  | requireApproval =>
    cases stricter with
    | allow => cases milder
    | requireApproval => exact passes
    | deny => exact passes.elim
  | deny =>
    cases stricter with
    | allow => cases milder
    | requireApproval => exact absurd milder (by decide)
    | deny => exact passes

theorem RuleBefore.asymm {a b : OrgPolicyRule} (before : RuleBefore a b) : ¬RuleBefore b a := by
  rintro (priority' | ⟨priority', createdAt' | ⟨createdAt', id'⟩⟩)
  all_goals
    obtain priority | ⟨priority, createdAt | ⟨createdAt, id⟩⟩ := before
    any_goals omega
  exact String.lt_asymm id id'

/-- In the order of the listing, the gate's decision is the effect of the first rule. -/
theorem decides_evaluateNodePolicy {rules : List OrgPolicyRule}
    (listed : rules.Pairwise RuleBefore) (act : Act) :
    Decides rules act (evaluateNodePolicy act.context rules).decision := by
  unfold evaluateNodePolicy
  cases found : rules.find? fun rule => ruleMatchesContext rule act.context with
  | none =>
    have never := List.find?_eq_none.mp found
    exact ⟨fun rule mem matching _ => absurd matching (never rule mem),
      fun _ => act.defaultDecision_context⟩
  | some rule =>
    obtain ⟨matching, early, late, rfl, never⟩ := List.find?_eq_some_iff_append.mp found
    refine ⟨fun other mem matches' first => ?_, fun none => ?_⟩
    · obtain rfl | before := first rule (by simp) matching
      · rfl
      · obtain here | later := List.mem_append.mp mem
        · exact absurd matches' (by simpa using never other here)
        · obtain rfl | later := List.mem_cons.mp later
          · rfl
          · have order := (List.pairwise_cons.mp (List.pairwise_append.mp listed).2.1).1 other later
            exact (order.asymm before).elim
    · exact absurd matching (none rule (by simp))

/-! ### What a node leads to -/

def agentRunNode (config : AgentRunConfig) : AgentRunNode where
  allow := config.tools.allow
  connectors := (config.tools.authDefaults.bind id).getD []
  maxToolCalls := config.limits.maxToolCalls

/-- The node lets its model carry out the action of the registry. -/
def CallsAction (config : AgentRunConfig) : Prop :=
  config.limits.maxToolCalls ≠ 0 ∧ "connector.action" ∈ config.tools.allow ∧
    "github" ∈ (agentRunNode config).connectors.map (·.1)

/-- The node lets its model carry out shell tasks. -/
def CallsShell (config : AgentRunConfig) : Prop :=
  config.limits.maxToolCalls ≠ 0 ∧ "agent.execute" ∈ config.tools.allow

instance (config : AgentRunConfig) : Decidable (CallsAction config) :=
  inferInstanceAs (Decidable (_ ∧ _ ∧ _))

instance (config : AgentRunConfig) : Decidable (CallsShell config) :=
  inferInstanceAs (Decidable (_ ∧ _))

def ToolCall.act : ToolCall → Act
  | .action call => .action call.actionId
  | .shell call => .shellTask call.networkEnabled

/-- An act that the execution of a node leads to, for any output of its model. -/
inductive Reaches : WorkflowNode → Act → Prop where
  | connectorAction {id : String} {config : ConnectorActionConfig} :
    Reaches (.connectorAction id config) (.action config.actionId)
  | githubIssueCreate {id : String} {config : GithubIssueCreateConfig} :
    Reaches (.connectorGithubIssueCreate id config) (.action "issue.create")
  | agentExecute {id : String} {config : AgentExecuteConfig} (task : config.task.isSome) :
    Reaches (.agentExecute id (some config))
      (.shellTask (config.sandbox.bind (·.network) = some .enabled))
  | agentRun {id : String} {config : AgentRunConfig} {host : AgentRuntime.Host}
    {isUrl : String → Bool} {loadSecretValue : String → Option String} {timeoutMs : Nat}
    {githubApiBaseUrl : String} {ids : RunIds} {payload : AgentRunPayload}
    {content : String} {trace : List (Event CallOps)}
    {results : Option (List ToolResult)} {e : Event CallOps}
    (resolved : resolveSecrets loadSecretValue timeoutMs
      (dispatchOf githubApiBaseUrl ids (agentRunNode config)) = some payload)
    (run : (toolResultsOf host isUrl payload content).Runs trace results) (mem : e ∈ trace) :
    Reaches (.agentRun id config) (ToolCall.act e.op.call)

/-- The acts of a dispatch, but for those that a model decides on. -/
def payloadActs : GatewayPayload → List Act
  | .agentExecute _ (some config) =>
    if config.task.isSome then [.shellTask (config.sandbox.bind (·.network) = some .enabled)] else []
  | .connectorAction _ actionId _ _ => [.action actionId]
  | _ => []

section dispatch
variable {services : ExecutorServices} {context : ExecutorContext} {result : NodeResult}
  {block : NodeBlock} {act : Act}

/-- What is resumed dispatches nothing. -/
theorem dispatched_of_resumeOr {dispatch : Except String NodeResult}
    (executed : resumeOr context dispatch = .ok result) (blocked : result.block = some block) :
    dispatch = .ok result := by
  unfold resumeOr at executed
  split at executed
  · split at executed
    · cases executed
      unfold resumeResult at blocked
      dsimp only at blocked
      split at blocked <;> cases blocked
    · exact executed
  · exact executed

/-- A connector action dispatches itself; carried out in place, it dispatches nothing. -/
theorem act_of_connectorAction {config : ConnectorActionConfig}
    (inPlace : ∀ connectorId actionId input secret result,
      services.performAction connectorId actionId input secret = .ok result → result.block = none)
    (executed : connectorActionExecutor services context config = .ok result)
    (blocked : result.block = some block) (mem : act ∈ payloadActs block.payload) :
    act = .action config.actionId := by
  unfold connectorActionExecutor at executed
  split at executed
  · cases executed
    cases blocked
  · split at executed
    · cases executed
      cases blocked
    · split at executed
      · have dispatched := dispatched_of_resumeOr executed blocked
        cases loaded : actionSecret services config.connectorId config.actionId config.secretId with
        | error error =>
          rw [loaded] at dispatched
          cases dispatched
        | ok secret =>
          rw [loaded] at dispatched
          cases dispatched
          cases blocked
          exact List.mem_singleton.mp mem
      · cases loaded : actionSecret services config.connectorId config.actionId config.secretId with
        | error error =>
          rw [loaded] at executed
          cases executed
        | ok secret =>
          rw [loaded] at executed
          rw [inPlace _ _ _ _ _ executed] at blocked
          cases blocked

/-- What the executors dispatch, the node leads to. -/
theorem reaches_of_dispatched
    (inPlace : ∀ connectorId actionId input secret result,
      services.performAction connectorId actionId input secret = .ok result → result.block = none)
    (executed : communityExecute services context = .ok result)
    (blocked : result.block = some block) (mem : act ∈ payloadActs block.payload) :
    Reaches context.node act := by
  unfold communityExecute at executed
  cases node : context.node with
  | connectorAction id config =>
    rw [node] at executed
    rw [act_of_connectorAction inPlace executed blocked mem]
    exact .connectorAction
  | connectorGithubIssueCreate id config =>
    rw [node] at executed
    rw [act_of_connectorAction inPlace executed blocked mem]
    exact .githubIssueCreate
  | agentExecute id config =>
    rw [node] at executed
    unfold agentExecuteExecutor at executed
    dsimp only at executed
    split at executed
    · cases dispatched_of_resumeOr executed blocked
      cases blocked
      cases config with
      | none => cases mem
      | some config =>
        dsimp only [payloadActs] at mem
        split at mem
        · next task =>
          rw [List.mem_singleton.mp mem]
          exact .agentExecute task
        · cases mem
    · cases executed
      cases blocked
  | agentRun id config =>
    rw [node] at executed
    have dispatched := dispatched_of_resumeOr executed blocked
    dsimp only at dispatched
    split at dispatched
    · cases dispatched
      cases blocked
    · cases dispatched
      cases blocked
      cases mem
  | _ =>
    rw [node] at executed
    cases executed
    cases blocked

end dispatch

/-- The registry holds one action, which needs a secret. -/
theorem issueCreate_of_performs {action : ConnectorPayload}
    {secret : Option String} {toolCall : ToolCall}
    (performs : runConnectorTask action secret = .perform toolCall) :
    ToolCall.act toolCall = .action "issue.create" ∧ action.connectorId = "github" ∧
      ∃ value, secret = some value := by
  unfold runConnectorTask at performs
  split at performs
  · cases performs
  · next found known =>
    have named := List.find?_some known
    obtain rfl := List.mem_singleton.mp (List.mem_of_find?_eq_some known)
    obtain ⟨connectorId, actionId⟩ := Bool.and_eq_true_iff.mp named
    split at performs
    · cases performs
    · dsimp only at performs
      rw [if_pos (show AgentRuntime.githubIssueCreateAction.requiresSecret = true from rfl)]
        at performs
      split at performs
      · cases performs
      · next given =>
        cases performs
        refine ⟨congrArg Act.action (of_decide_eq_true actionId).symm,
          (of_decide_eq_true connectorId).symm, ?_⟩
        cases secret with
        | none => exact absurd ⟨rfl, rfl⟩ given
        | some value => exact ⟨value, rfl⟩

/-- A model reaches the one action and shell tasks without network, each by its own tool. -/
theorem act_of_agentRun {config : AgentRunConfig} {host : AgentRuntime.Host}
    {isUrl : String → Bool} {loadSecretValue : String → Option String} {timeoutMs : Nat}
    {githubApiBaseUrl : String} {ids : RunIds} {payload : AgentRunPayload}
    {content : String} {trace : List (Event CallOps)}
    {results : Option (List ToolResult)} {e : Event CallOps}
    (resolved : resolveSecrets loadSecretValue timeoutMs
      (dispatchOf githubApiBaseUrl ids (agentRunNode config)) = some payload)
    (run : (toolResultsOf host isUrl payload content).Runs trace results) (mem : e ∈ trace) :
    (ToolCall.act e.op.call = .action "issue.create" ∧ CallsAction config) ∨
      (ToolCall.act e.op.call = .shellTask false ∧ CallsShell config) := by
  have brings := resolveSecrets_brings resolved
  have network : payload.networkEnabled = false := by
    obtain ⟨connectors, -, rfl⟩ := Option.map_eq_some_iff.mp resolved
    rfl
  obtain ⟨call, first, -, allowed, performs⟩ := loopRan_event brings (runToolCalls_ran run) mem
  have some_ : config.limits.maxToolCalls ≠ 0 := by
    intro none
    rw [show (agentRunNode config).maxToolCalls = 0 from none, List.take_zero] at first
    cases first
  unfold attemptCall at performs
  split at performs
  · next kind =>
    rw [kind] at allowed
    split at performs
    · cases performs
    · obtain ⟨act, connectorId, value, given⟩ := issueCreate_of_performs performs
      rw [connectorId] at given
      obtain ⟨secretId, listed, -⟩ := brings.secrets _ _ given
      exact .inl ⟨act, some_, allowed, List.mem_map.mpr ⟨_, listed, rfl⟩⟩
  · next kind =>
    rw [kind] at allowed
    split at performs
    · cases performs
    · split at performs
      · cases performs
      · rw [← NodeAgent.AgentRun.Attempt.perform.inj performs]
        exact .inr ⟨congrArg Act.shellTask network, some_, allowed⟩

/-! ### The gate and what it covers -/

/-- The rules are as strict on the node as on the act. -/
def NoStricter (rules : List OrgPolicyRule) (node : WorkflowNode) (act : Act) : Prop :=
  (evaluateNodePolicy act.context rules).decision.rank ≤
    (evaluateNodePolicy (buildNodePolicyContext node) rules).decision.rank

instance (rules : List OrgPolicyRule) (node : WorkflowNode) (act : Act) :
    Decidable (NoStricter rules node act) := inferInstanceAs (Decidable (_ ≤ _))

/-- The acts of which the gate does not see the type. -/
def hiddenActs : WorkflowNode → List Act
  | .connectorGithubIssueCreate .. => [.action "issue.create"]
  | .agentRun _ config =>
    (if CallsAction config then [.action "issue.create"] else []) ++
      if CallsShell config then [.shellTask false] else []
  | _ => []

theorem reaches_cases {node : WorkflowNode} {act : Act} (reached : Reaches node act) :
    act.context = buildNodePolicyContext node ∨ act ∈ hiddenActs node := by
  cases reached with
  | connectorAction => exact .inl rfl
  | githubIssueCreate => exact .inr List.mem_cons_self
  | @agentExecute id config task =>
    obtain ⟨given, is⟩ := Option.isSome_iff_exists.mp task
    left
    by_cases network : config.sandbox.bind (·.network) = some .enabled <;>
      simp [Act.context, buildNodePolicyContext, is, network]
  | agentRun resolved run mem =>
    right
    obtain ⟨act, allowed⟩ | ⟨act, allowed⟩ := act_of_agentRun resolved run mem
    · rw [act, hiddenActs, if_pos allowed]
      exact List.mem_cons_self
    · rw [act, hiddenActs, if_pos allowed]
      exact List.mem_append_right _ List.mem_cons_self

/-- What the gate lets through is let through by the rules on each act that it covers. -/
theorem passes_of_admitted {rules : List OrgPolicyRule} {node : WorkflowNode} {act : Act}
    {st : RunStore} (admitted : Admitted rules node st) (reached : Reaches node act)
    (covers : ∀ act ∈ hiddenActs node, NoStricter rules node act) :
    ((evaluateNodePolicy act.context rules).decision).Passes node.id st := by
  have passes : ((evaluateNodePolicy (buildNodePolicyContext node) rules).decision).Passes
      node.id st := by
    unfold Admitted at admitted
    split at admitted
    · next decision =>
      rw [decision]
      trivial
    · next decision =>
      rw [decision]
      exact admitted
    · exact admitted.elim
  refine passes.of_rank ?_
  obtain same | hidden := reaches_cases reached
  · rw [same]
  · exact covers act hidden

/-! ### Runs -/

section run
variable {env : RunEnv} {s t : (runSystem env).State} {a : (runSystem env).Action}

def actor : (runSystem env).Action → Option Nat
  | .launch id _ | .call id _ | .loop id | .finish id => some id
  | .tick _ => none

/-- The executor that a handler is about to run. -/
def executorOf (p : (runSystem env).Process) : Option ExecutorContext :=
  match p.program with
  | .call (.execute context) _ => some context
  | _ => none

/-- What the handler has done and the executor it runs, where a step brings it there. -/
def executing (s : (runSystem env).State) (a : (runSystem env).Action) :
    Option (List (Event RunOps) × ExecutorContext) :=
  (actor a).bind fun id => (System.step s a).bind fun t => (t.process id).bind fun p =>
    (executorOf p).map fun context => (p.history, context)

/-- The step runs no executor with an act on which the rules are stricter than on its node. -/
def Covered (s : (runSystem env).State) (a : (runSystem env).Action) : Prop :=
  ∀ reached ∈ executing s a, ∀ rules ∈ rulesRead reached.1, ∀ act ∈ hiddenActs reached.2.node,
    NoStricter rules reached.2.node act

instance (s : (runSystem env).State) (a : (runSystem env).Action) : Decidable (Covered s a) :=
  inferInstanceAs (Decidable (∀ reached ∈ executing s a, ∀ rules ∈ rulesRead reached.1,
    ∀ act ∈ hiddenActs reached.2.node, NoStricter rules reached.2.node act))

/-- Where the step runs an executor, every act it leads to has what the rules ask for: no rule
denies it, and an approval that they require is there and unexpired. -/
def Guarded (s : (runSystem env).State) (a : (runSystem env).Action) : Prop :=
  ∀ t, System.step s a = some t → ∀ reached ∈ executing s a, ∃ rules,
    rulesRead reached.1 = some rules ∧ (rules.Pairwise RuleBefore → ∀ act,
      Reaches reached.2.node act → ∃ effect : PolicyEffect,
        Decides rules act effect ∧ effect.Passes reached.2.node.id t.store)

theorem executing_some {reached : List (Event RunOps) × ExecutorContext}
    (stepped : System.step s a = some t) (is : reached ∈ executing s a) :
    ∃ id p next, t.process id = some p ∧ s.process id ≠ some p ∧ p.history = reached.1 ∧
      p.program = .call (.execute reached.2) next := by
  obtain ⟨id, acts, is⟩ := Option.bind_eq_some_iff.mp is
  rw [stepped, Option.bind_some] at is
  obtain ⟨p, here, is⟩ := Option.bind_eq_some_iff.mp is
  obtain ⟨context, runs, rfl⟩ := Option.map_eq_some_iff.mp is
  unfold executorOf at runs
  split at runs
  · next context' next program =>
    cases runs
    refine ⟨id, p, next, here, fun before => ?_, rfl, program⟩
    cases System.step_cases stepped with
    | launch free launched =>
      obtain rfl := Option.some.inj acts
      rw [free] at before
      cases before
    | call there performed =>
      obtain rfl := Option.some.inj acts
      rw [System.State.update_process_self] at here
      obtain rfl := Option.some.inj here
      rw [there] at before
      have same := congrArg (·.history.length) (Option.some.inj before)
      simp at same
    | loop there =>
      obtain rfl := Option.some.inj acts
      rw [there] at before
      obtain rfl := Option.some.inj before
      cases program
    | finish there =>
      obtain rfl := Option.some.inj acts
      rw [System.State.update_process_self] at here
      cases here
    | tick ticked => cases acts
  · cases runs

end run

namespace Sample

def listNode : WorkflowNode :=
  .connectorAction "n" { connectorId := "github", actionId := "issue.list", input := none
                         secretId := "00000000-0000-0000-0000-000000000000", execution := none }

def createNode : WorkflowNode :=
  .connectorGithubIssueCreate "n" { repo := "o/r", title := "t", body := none
                                    secretId := "00000000-0000-0000-0000-000000000000" }

end Sample

end Vespid
