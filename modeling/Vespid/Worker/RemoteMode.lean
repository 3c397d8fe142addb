import Vespid.Worker.Executors
import Vespid.Workflow.Validate

/-!
# Which nodes run remotely

The validator decides from a node's configuration whether it runs remotely, its executor
whether to block the run on a dispatch. They default a missing `execution` of an
`agent.execute` node differently.
-/

namespace Vespid.Worker

open Workflow

variable {services : ExecutorServices} {context : ExecutorContext} {node : WorkflowNode}

def Blocks (answer : Except String NodeResult) : Prop :=
  ∃ result, answer = .ok result ∧ result.status = .blocked

def Succeeds (answer : Except String NodeResult) : Prop :=
  ∃ result, answer = .ok result ∧ result.status = .succeeded

/-- The mode an executor runs a node in, with its own default. -/
def runsRemotely : WorkflowNode → Bool
  | .agentRun .. => true
  | .agentExecute _ config => ((config.bind (·.execution)).map (·.mode)).getD .cloud == .executor
  | .connectorAction _ config => (config.execution.map (·.mode)).getD .cloud == .executor
  | _ => false

/-- The action a connector node names exists and accepts its input. -/
def ConfigAccepted (services : ExecutorServices) : WorkflowNode → Prop
  | .connectorAction _ config => ∃ parse input,
      services.parseActionInput config.connectorId config.actionId = some parse ∧
        parse config.input = some input
  | _ => True

/-- No remote result is pending. -/
def FirstExecution (context : ExecutorContext) : Prop :=
  ∀ pending ∈ context.pendingRemoteResult, pending.truthy = false

/-- A connector's actions succeed or fail. -/
def ActionsEnd (services : ExecutorServices) : Prop :=
  ∀ connectorId actionId input secret,
    ¬Blocks (services.performAction connectorId actionId input secret)

def carriesShellTask : WorkflowNode → Bool
  | .agentExecute _ config => (config.bind (·.task)).isSome
  | _ => false

/-- The toolset an `agent.run` node uses, its own or the organization's. -/
def effectiveToolsetId (services : ExecutorServices) (context : ExecutorContext)
    (config : AgentRunConfig) : Option String :=
  config.toolsetId.or (services.defaultToolsetId context.organizationSettings)

/-- The validator and the executor agree about the context's node, and a shell task of it does
not succeed without having been dispatched. -/
def RemoteAgrees (services : ExecutorServices) (context : ExecutorContext) : Prop :=
  (isRemoteExecutionMode context.node = true ↔ Blocks (communityExecute services context)) ∧
    (carriesShellTask context.node → ¬Succeeds (communityExecute services context))

/-- An `agent.execute` node says where it runs, and with a task that it runs remotely; what a
remote node needs before its dispatch is there. -/
def Decided (services : ExecutorServices) (context : ExecutorContext) : Prop :=
  match context.node with
  | .agentExecute _ config => ∃ execution, config.bind (·.execution) = some execution ∧
      ((config.bind (·.task)).isSome → execution.mode = .executor)
  | .agentRun _ config => (effectiveToolsetId services context config).all services.toolsetExists
  | .connectorAction _ config => (config.execution.map (·.mode)).getD .cloud = .executor →
      ∃ secret, actionSecret services config.connectorId config.actionId config.secretId = .ok secret
  | _ => True

/-! ### The executors, one by one -/

/-- A block that its executor asks for travels under the node's own id. -/
structure BlockOf (node : WorkflowNode) (result : NodeResult) : Prop where
  remote : runsRemotely node
  own : ∀ block ∈ result.block, block.dispatchNodeId = none

theorem resumeOr_first {dispatch : Except String NodeResult} (first : FirstExecution context) :
    resumeOr context dispatch = dispatch := by
  unfold resumeOr
  cases pending : context.pendingRemoteResult with
  | none => rfl
  | some value =>
    have falsy := first value pending
    simp [falsy]

theorem blocks_ok {result : NodeResult} : Blocks (.ok result) ↔ result.status = .blocked := by
  constructor
  · intro blocks
    obtain ⟨r, same, blocked⟩ := blocks
    rw [Except.ok.inj same]
    exact blocked
  · intro blocked
    exact ⟨result, rfl, blocked⟩

theorem succeeds_ok {result : NodeResult} :
    Succeeds (.ok result) ↔ result.status = .succeeded := by
  constructor
  · intro succeeds
    obtain ⟨r, same, succeeded⟩ := succeeds
    rw [Except.ok.inj same]
    exact succeeded
  · intro succeeded
    exact ⟨result, rfl, succeeded⟩

theorem not_blocks_error {message : String} : ¬Blocks (.error message) := by
  intro blocks
  obtain ⟨_, same, _⟩ := blocks
  cases same

theorem agentExecute_blocks (first : FirstExecution context) (id : String)
    (config : Option AgentExecuteConfig) : Blocks (agentExecuteExecutor context id config) ↔
      ((config.bind (·.execution)).map (·.mode)).getD .cloud = .executor := by
  unfold agentExecuteExecutor
  dsimp only
  split
  · rename_i remote
    rw [resumeOr_first first]
    exact iff_of_true (blocks_ok.mpr rfl) remote
  · rename_i local_
    refine iff_of_false ?_ local_
    intro blocks
    cases blocks_ok.mp blocks

theorem agentExecute_succeeds (first : FirstExecution context) (id : String)
    (config : Option AgentExecuteConfig) : Succeeds (agentExecuteExecutor context id config) ↔
      ((config.bind (·.execution)).map (·.mode)).getD .cloud ≠ .executor := by
  unfold agentExecuteExecutor
  dsimp only
  split
  · rename_i remote
    rw [resumeOr_first first]
    refine iff_of_false ?_ (not_not.mpr remote)
    intro succeeds
    cases succeeds_ok.mp succeeds
  · rename_i local_
    exact iff_of_true (succeeds_ok.mpr rfl) local_

theorem agentRun_blocks (first : FirstExecution context) (id : String) (config : AgentRunConfig) :
    Blocks (agentRunExecutor services context id config) ↔
      (effectiveToolsetId services context config).all services.toolsetExists := by
  unfold agentRunExecutor effectiveToolsetId
  rw [resumeOr_first first]
  dsimp only
  cases config.toolsetId.or (services.defaultToolsetId context.organizationSettings) with
  | none => exact iff_of_true (blocks_ok.mpr rfl) rfl
  | some toolset =>
    simp only [Option.any_some, Option.all_some]
    split
    · rename_i missing
      refine iff_of_false ?_ (by simpa using missing)
      intro blocks
      cases blocks_ok.mp blocks
    · rename_i found
      exact iff_of_true (blocks_ok.mpr rfl) (by simpa using found)

theorem connectorAction_blocks (actions : ActionsEnd services) (first : FirstExecution context)
    (config : ConnectorActionConfig) : Blocks (connectorActionExecutor services context config) ↔
      (config.execution.map (·.mode)).getD .cloud = .executor ∧
      (∃ parse input, services.parseActionInput config.connectorId config.actionId = some parse ∧
        parse config.input = some input) ∧
      ∃ secret,
        actionSecret services config.connectorId config.actionId config.secretId = .ok secret := by
  unfold connectorActionExecutor
  cases services.parseActionInput config.connectorId config.actionId with
  | none =>
    refine iff_of_false (fun blocks => ?_) (by simp)
    cases blocks_ok.mp blocks
  | some parse =>
    dsimp only
    cases input : parse config.input with
    | none =>
      refine iff_of_false (fun blocks => ?_) (by simp [input])
      cases blocks_ok.mp blocks
    | some value =>
      have accepted : ∃ parse' input', some parse = some parse' ∧ parse' config.input = some input' :=
        ⟨parse, value, rfl, input⟩
      dsimp only
      split
      · rename_i remote
        rw [resumeOr_first first]
        cases actionSecret services config.connectorId config.actionId config.secretId with
        | error message =>
          refine iff_of_false (fun blocks => not_blocks_error blocks) ?_
          simp
        | ok secret => exact iff_of_true (blocks_ok.mpr rfl) ⟨remote, accepted, secret, rfl⟩
      · rename_i local_
        refine iff_of_false ?_ fun facts => local_ facts.1
        cases actionSecret services config.connectorId config.actionId config.secretId with
        | error message => exact not_blocks_error
        | ok secret => exact actions _ _ _ _

theorem eq_executor_iff {mode : ExecutionMode} : (mode == .executor) = true ↔ mode = .executor := by
  cases mode <;> simp

theorem resumeOr_blocked {dispatch : Except String NodeResult} {result : NodeResult}
    (answer : resumeOr context dispatch = .ok result) (blocked : result.status = .blocked) :
    dispatch = .ok result := by
  unfold resumeOr at answer
  split at answer
  · split at answer
    · rename_i pending _ _
      rw [← Except.ok.inj answer] at blocked
      unfold resumeResult at blocked
      dsimp only at blocked
      split at blocked <;> cases blocked
    · exact answer
  · exact answer

theorem connectorAction_blockOf (actions : ActionsEnd services) {config : ConnectorActionConfig}
    {id : String} {result : NodeResult}
    (answer : connectorActionExecutor services context config = .ok result)
    (blocked : result.status = .blocked) : BlockOf (.connectorAction id config) result := by
  unfold connectorActionExecutor at answer
  split at answer
  · rw [← Except.ok.inj answer] at blocked
    cases blocked
  · split at answer
    · rw [← Except.ok.inj answer] at blocked
      cases blocked
    · split at answer
      · rename_i remote
        have dispatch := resumeOr_blocked answer blocked
        cases secret : actionSecret services config.connectorId config.actionId config.secretId with
        | error message =>
          rw [secret] at dispatch
          cases dispatch
        | ok secret' =>
          rw [secret] at dispatch
          obtain rfl := Except.ok.inj dispatch
          refine ⟨eq_executor_iff.mpr remote, ?_⟩
          intro block mem
          rw [← Option.some.inj mem]
      · exfalso
        cases secret : actionSecret services config.connectorId config.actionId config.secretId with
        | error message =>
          rw [secret] at answer
          cases answer
        | ok secret' =>
          rw [secret] at answer
          exact actions _ _ _ _ ⟨result, answer, blocked⟩

/-- Only nodes that run remotely block, and under their own ids. -/
theorem communityExecute_blockOf (actions : ActionsEnd services) {result : NodeResult}
    (answer : communityExecute services context = .ok result)
    (blocked : result.status = .blocked) : BlockOf context.node result := by
  have never {r : NodeResult} (same : Except.ok r = (.ok result : Except String NodeResult))
      (ended : r.status ≠ .blocked) : False := by
    rw [← Except.ok.inj same] at blocked
    exact ended blocked
  unfold communityExecute at answer
  cases node : context.node with
  | httpRequest id config =>
    rw [node] at answer
    exact (never answer (by simp [httpRequestExecutor])).elim
  | condition id config =>
    rw [node] at answer
    exact (never answer (by simp)).elim
  | parallelJoin id config =>
    rw [node] at answer
    exact (never answer (by simp)).elim
  | connectorGithubIssueCreate id config =>
    rw [node] at answer
    have facts : BlockOf (.connectorAction id _) result :=
      connectorAction_blockOf actions answer blocked
    cases facts.remote
  | connectorAction id config =>
    rw [node] at answer
    exact connectorAction_blockOf actions answer blocked
  | agentRun id config =>
    rw [node] at answer
    have dispatch := resumeOr_blocked answer blocked
    dsimp only at dispatch
    split at dispatch
    · exact (never dispatch (by simp [failed])).elim
    · obtain rfl := Except.ok.inj dispatch
      refine ⟨rfl, ?_⟩
      intro block mem
      rw [← Option.some.inj mem]
  | agentExecute id config =>
    rw [node] at answer
    dsimp only at answer
    unfold agentExecuteExecutor at answer
    dsimp only at answer
    split at answer
    · rename_i remote
      have dispatch := resumeOr_blocked answer blocked
      obtain rfl := Except.ok.inj dispatch
      refine ⟨eq_executor_iff.mpr remote, ?_⟩
      intro block mem
      rw [← Option.some.inj mem]
    · exact (never answer (by simp)).elim

/-- On a first execution, exactly the decided nodes are those about which validator and
executor agree. -/
theorem remote_agrees_iff (actions : ActionsEnd services) (first : FirstExecution context)
    (accepted : ConfigAccepted services context.node) :
    RemoteAgrees services context ↔ Decided services context := by
  unfold RemoteAgrees Decided communityExecute
  cases node : context.node with
  | httpRequest id config =>
    refine iff_of_true ⟨iff_of_false Bool.false_ne_true ?_, by simp [carriesShellTask]⟩ trivial
    intro blocks
    cases blocks_ok.mp blocks
  | condition id config =>
    refine iff_of_true ⟨iff_of_false Bool.false_ne_true ?_, by simp [carriesShellTask]⟩ trivial
    intro blocks
    cases blocks_ok.mp blocks
  | parallelJoin id config =>
    refine iff_of_true ⟨iff_of_false Bool.false_ne_true ?_, by simp [carriesShellTask]⟩ trivial
    intro blocks
    cases blocks_ok.mp blocks
  | connectorGithubIssueCreate id config =>
    refine iff_of_true ⟨iff_of_false Bool.false_ne_true ?_, by simp [carriesShellTask]⟩ trivial
    unfold legacyGithubIssueCreateExecutor
    rw [connectorAction_blocks actions first]
    intro facts
    cases facts.1
  | agentRun id config =>
    dsimp only
    rw [agentRun_blocks first]
    simp [carriesShellTask, isRemoteExecutionMode]
  | connectorAction id config =>
    rw [node] at accepted
    dsimp only
    rw [connectorAction_blocks actions first, isRemoteExecutionMode, eq_executor_iff]
    have known := accepted
    unfold ConfigAccepted at known
    simp only [carriesShellTask, Bool.false_eq_true, false_implies, and_true, known, true_and]
    constructor
    · intro agrees remote
      exact (agrees.mp remote).2
    · intro decided
      exact ⟨fun remote => ⟨remote, decided remote⟩, fun facts => facts.1⟩
  | agentExecute id config =>
    dsimp only
    rw [agentExecute_blocks first, agentExecute_succeeds first, isRemoteExecutionMode,
      eq_executor_iff, carriesShellTask]
    cases config.bind (·.execution) with
    | none => simp
    | some execution => simp

namespace Sample

def permissive : ExecutorServices where
  githubApiBaseUrl := "https://api.github.com"
  loadSecret _ := .ok "secret"
  toolsetExists _ := true
  defaultToolsetId _ := none
  defaultEngineSecretId _ _ := none
  parseActionInput _ _ := some fun input => some (input.getD .null)
  requiresSecret _ _ := false
  performAction _ _ _ _ := .ok { status := .succeeded }

theorem permissive_end : ActionsEnd permissive := by
  intro _ _ _ _ blocks
  cases blocks_ok.mp blocks

def firstContext (node : WorkflowNode) : ExecutorContext :=
  { runId := "r", attemptCount := 1, requestedByUserId := "u", nodeId := node.id,
    nodeType := node.type, node, organizationSettings := .obj [], runInput := none, steps := [],
    runtime := .null, pendingRemoteResult := none }

/-- A shell task with no word about where to run it. -/
def shell : WorkflowNode :=
  .agentExecute "n" (some { execution := none, sandbox := none
                            task := some { script := "true", shell := none, env := none } })

/-- The same task, to be run remotely. -/
def remoteShell : WorkflowNode :=
  .agentExecute "n" (some { execution := some { mode := .executor, selector := none }
                            task := some { script := "true", shell := none, env := none }
                            sandbox := none })

theorem firstContext_first (node : WorkflowNode) : FirstExecution (firstContext node) := by
  simp [FirstExecution, firstContext]

end Sample

theorem remote_agrees_iff_shell :
    RemoteAgrees Sample.permissive (Sample.firstContext Sample.remoteShell) :=
  (remote_agrees_iff Sample.permissive_end (Sample.firstContext_first Sample.remoteShell) trivial).mpr
    ⟨_, rfl, fun _ => rfl⟩

/-- A shell task that is to run remotely for the validator succeeds without having run. -/
theorem shell_task_dropped : workflowNodeSchema Sample.shell ∧
    isRemoteExecutionMode Sample.shell ∧ carriesShellTask Sample.shell ∧
    Succeeds (communityExecute Sample.permissive (Sample.firstContext Sample.shell)) ∧
    ¬∀ services context, ActionsEnd services → FirstExecution context →
      workflowNodeSchema context.node → ConfigAccepted services context.node →
      RemoteAgrees services context := by
  have dropped : Succeeds (communityExecute Sample.permissive (Sample.firstContext Sample.shell)) :=
    succeeds_ok.mpr rfl
  have schema : workflowNodeSchema Sample.shell := by decide +kernel
  refine ⟨schema, rfl, rfl, dropped, ?_⟩
  intro agrees
  have first := Sample.firstContext_first Sample.shell
  exact (agrees _ _ Sample.permissive_end first schema trivial).2 rfl dropped

end Vespid.Worker
