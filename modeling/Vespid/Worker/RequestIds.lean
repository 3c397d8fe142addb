import Vespid.Run.System
import Vespid.Worker.GraphLoop
import Vespid.Worker.RemoteMode

/-!
# Request ids of a run's dispatches

The id under which a node is dispatched is made of the run, the node's id and the attempt. It
tells the nodes of a run apart as far as their ids do, and no schema asks for distinct ids.
-/

namespace Vespid.Worker

open Workflow Interleaving

/-- A place in a DSL where a node stands. -/
inductive Position where
  | index (i : Nat)
  | key (key : String)
  deriving DecidableEq

def nodeAt : WorkflowDslAny → Position → Option WorkflowNode
  | .v2 dsl, .index i => dsl.nodes[i]?
  | .v3 dsl, .key key => dsl.node? key
  | _, _ => none

/-- The executors of the community registry. -/
def community (services : ExecutorServices) (context : ExecutorContext)
    (answer : Except String NodeResult) : Prop :=
  answer = communityExecute services context

/-- In an execution of the node in this attempt, the worker sends `request`. -/
def Dispatches (env : RunEnv) (services : ExecutorServices) (attemptCount : Nat)
    (node : WorkflowNode) (request : GatewayDispatchRequest) : Prop :=
  ∃ d p cursor trace outcome, d.attemptCount = attemptCount ∧
    (executeNode env d p node cursor).Runs trace outcome ∧
    (∀ event ∈ trace, answeredBy (community services) event.op event.reply) ∧
    ∃ reply, ⟨.dispatchViaGatewayAsync request, reply⟩ ∈ trace

/-- No two positions of the DSL dispatch under one request id. -/
def RequestsApart (dsl : WorkflowDslAny) : Prop :=
  ∀ env services, ActionsEnd services → ∀ i j, i ≠ j → ∀ node node',
    nodeAt dsl i = some node → nodeAt dsl j = some node' → ∀ attempt attempt' request request',
    Dispatches env services attempt node request →
    Dispatches env services attempt' node' request' →
    buildRequestId request ≠ buildRequestId request'

/-- The nodes that run remotely have distinct ids. -/
def RemoteIdsDistinct (dsl : WorkflowDslAny) : Prop :=
  ∀ i j, i ≠ j → ∀ node node', nodeAt dsl i = some node → nodeAt dsl j = some node' →
    runsRemotely node → runsRemotely node' → node.id ≠ node'.id

variable {env : RunEnv} {services : ExecutorServices} {d : Delivery} {p : Progress}
  {node : WorkflowNode} {cursor : Nat}

/-! ### What a node dispatches -/

def dispatchesOwn (env : RunEnv) (d : Delivery) (node : WorkflowNode) : RunOp → Prop
  | .dispatchViaGatewayAsync request => runsRemotely node ∧
      buildRequestId request = requestIdOf env.run.id node.id d.attemptCount
  | _ => True

theorem dispatchBlocked_asks {result : NodeResult} {block : NodeBlock} (of : BlockOf node result)
    (asked : result.block = some block) : (dispatchBlocked env d p node block cursor).Asks
      (answeredBy (community services)) (dispatchesOwn env d node) := by
  have own := of.own block asked
  unfold dispatchBlocked
  simp only [ask, Program.issue_eq, Program.call_bind, Program.done_bind]
  refine ⟨⟨of.remote, ?_⟩, fun dispatched _ => ?_⟩
  · simp [buildRequestId, own]
  · cases dispatched with
    | error error => trivial
    | ok _ => exact ⟨trivial, fun _ _ => ⟨trivial, fun _ _ => ⟨trivial, fun _ _ =>
        ⟨trivial, fun _ _ => trivial⟩⟩⟩⟩

theorem recordResult_asks {result : NodeResult}
    (of : result.status = .blocked → BlockOf node result) :
    (recordResult env d p node result cursor).Asks (answeredBy (community services))
      (dispatchesOwn env d node) := by
  unfold recordResult
  cases status : result.status with
  | failed => exact ⟨trivial, fun _ _ => trivial⟩
  | succeeded => exact ⟨trivial, fun _ _ => trivial⟩
  | blocked =>
    dsimp only
    split
    · trivial
    · split
      · trivial
      · exact dispatchBlocked_asks (of status) ‹_›

theorem runExecutor_asks (actions : ActionsEnd services) :
    (runExecutor env d p node cursor).Asks (answeredBy (community services))
      (dispatchesOwn env d node) := by
  unfold runExecutor
  split
  · exact ⟨trivial, fun _ _ => trivial⟩
  · simp only [ask, Program.issue_eq, Program.call_bind, Program.done_bind, Program.asks_call]
    refine ⟨trivial, fun answer answered => ?_⟩
    cases answer with
    | error message =>
      refine recordResult_asks fun blocked => ?_
      cases blocked
    | ok result =>
      refine recordResult_asks fun blocked => ?_
      exact communityExecute_blockOf actions answered.symm blocked

theorem executeNode_asks (actions : ActionsEnd services) :
    (executeNode env d p node cursor).Asks (answeredBy (community services))
      (dispatchesOwn env d node) := by
  simp only [executeNode, appendNodeEvent, appendEvent, ask, Program.issue_eq, Program.call_bind,
    Program.done_bind]
  refine ⟨trivial, fun _ _ => ?_⟩
  cases (evaluateNodePolicy (buildNodePolicyContext node) d.policyRules).decision with
  | allow => exact runExecutor_asks actions
  | deny => exact ⟨trivial, fun _ _ => trivial⟩
  | requireApproval =>
    refine ⟨trivial, fun hasApproval _ => ?_⟩
    cases hasApproval with
    | true => exact runExecutor_asks actions
    | false =>
      simp only [requestApproval, ask, Program.issue_eq, Program.call_bind, Program.done_bind]
      refine ⟨trivial, fun now _ => ⟨trivial, fun approval _ => ?_⟩⟩
      cases approval with
      | none => trivial
      | some approval => exact ⟨trivial, fun _ _ => ⟨trivial, fun _ _ => trivial⟩⟩

theorem Dispatches.own {attempt : Nat} {request : GatewayDispatchRequest}
    (actions : ActionsEnd services) (dispatches : Dispatches env services attempt node request) :
    runsRemotely node ∧ buildRequestId request = requestIdOf env.run.id node.id attempt := by
  obtain ⟨d, p, cursor, trace, outcome, rfl, run, answered, reply, mem⟩ := dispatches
  exact run.asks (executeNode_asks actions) answered _ mem

/-! ### Every remote node dispatches -/

namespace Sample

/-- A rule that lets every node through. -/
def allowAll : OrgPolicyRule :=
  { id := "rule", name := "all", enabled := true, priority := 0,
    scope := .null, effect := .allow, createdAt := 0 }

def permissiveDelivery : Delivery :=
  { attemptCount := 1, organizationSettings := .obj [], policyRules := [allowAll] }

theorem permissive_blocks {context : ExecutorContext} (first : FirstExecution context)
    (remote : runsRemotely context.node) : ∃ result block,
      communityExecute permissive context = .ok result ∧ result.status = .blocked ∧
        result.block = some block := by
  unfold communityExecute
  cases node : context.node with
  | agentRun id config =>
    dsimp only
    unfold agentRunExecutor
    rw [resumeOr_first first]
    simp [permissive]
  | agentExecute id config =>
    rw [node] at remote
    dsimp only
    unfold agentExecuteExecutor
    dsimp only
    rw [if_pos (eq_executor_iff.mp remote), resumeOr_first first]
    exact ⟨_, _, rfl, rfl, rfl⟩
  | connectorAction id config =>
    rw [node] at remote
    dsimp only
    unfold connectorActionExecutor
    dsimp only [permissive]
    rw [if_pos (eq_executor_iff.mp remote), resumeOr_first first]
    exact ⟨_, _, rfl, rfl, rfl⟩
  | _ =>
    rw [node] at remote
    cases remote

theorem permissive_dispatches (remote : runsRemotely node) : ∃ request,
    Dispatches Vespid.Sample.sampleEnv permissive 1 node request := by
  let p : Progress := { steps := [], runtime := .null }
  let exec := communityExecute permissive
  have first : FirstExecution
      (executorContext Vespid.Sample.sampleEnv permissiveDelivery p node) := by
    intro pending mem
    cases mem
  obtain ⟨result, block, answer, blocked, asked⟩ := permissive_blocks first remote
  have recorded : ∃ request, ⟨.dispatchViaGatewayAsync request, .ok ()⟩ ∈
      (recordResult Vespid.Sample.sampleEnv permissiveDelivery p node result 0).traceWith
        (replies exec) := by
    unfold recordResult
    rw [blocked, asked]
    exact ⟨_, List.mem_cons_self⟩
  have executed : ∃ request, ⟨.dispatchViaGatewayAsync request, .ok ()⟩ ∈
      (runExecutor Vespid.Sample.sampleEnv permissiveDelivery p node 0).traceWith
        (replies exec) := by
    obtain ⟨request, mem⟩ := recorded
    refine ⟨request, List.mem_cons_of_mem _ ?_⟩
    have reply : replies exec (.execute (executorContext Vespid.Sample.sampleEnv
        permissiveDelivery p node)) = .ok result := answer
    rw [reply]
    exact mem
  obtain ⟨request, mem⟩ := executed
  have run := Program.runs_with (replies exec)
    (executeNode Vespid.Sample.sampleEnv permissiveDelivery p node 0)
  have answered := answeredBy_replies exec
    (executeNode Vespid.Sample.sampleEnv permissiveDelivery p node 0)
  refine ⟨request, permissiveDelivery, p, 0, _, _, rfl, run, answered, .ok (), ?_⟩
  exact List.mem_cons_of_mem _ mem

end Sample

/-- Request ids tell the positions of a DSL apart exactly where its remote nodes have distinct
ids. -/
theorem requestsApart_iff (dsl : WorkflowDslAny) : RequestsApart dsl ↔ RemoteIdsDistinct dsl := by
  constructor
  · intro apart i j different node node' here there remote remote' same
    obtain ⟨request, dispatches⟩ := Sample.permissive_dispatches remote
    obtain ⟨request', dispatches'⟩ := Sample.permissive_dispatches remote'
    refine apart _ _ Sample.permissive_end i j different node node' here there 1 1 request request'
      dispatches dispatches' ?_
    rw [(dispatches.own Sample.permissive_end).2, (dispatches'.own Sample.permissive_end).2, same]
  · intro distinct env services actions i j different node node' here there attempt attempt'
      request request' dispatches dispatches' same
    obtain ⟨remote, id⟩ := dispatches.own actions
    obtain ⟨remote', id'⟩ := dispatches'.own actions
    rw [id, id'] at same
    exact distinct i j different node node' here there remote remote' (requestIdOf_inj same).1

namespace Sample

/-- Two remote nodes of one id. -/
def twins : WorkflowDsl := { trigger := .manual, nodes := [remoteShell, remoteShell] }

end Sample

/-- An accepted list dispatches two nodes under one request id. -/
theorem requests_not_apart :
    ¬∀ dsl, workflowDslAnySchema dsl → (∀ graph, dsl = .v3 graph → acceptedV3 graph) →
      RequestsApart dsl := by
  intro apart
  have schema : workflowDslAnySchema (.v2 Sample.twins) := by decide +kernel
  have distinct := (requestsApart_iff _).mp (apart (.v2 Sample.twins) schema
    fun graph same => by cases same)
  exact distinct (.index 0) (.index 1) (by decide) _ _ rfl rfl rfl rfl rfl

end Vespid.Worker
