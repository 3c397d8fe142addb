import Mathlib.Data.List.Induction
import Vespid.Worker.RunJob

/-!
# The graph loop, iteration by iteration

What one iteration of the v3 loop adds to the steps, whatever the executors answer, and how
many iterations there can be. The loop looks for a node by its key and records its step under
the node's id, so the bound needs the node it picks to stand under its own id.
-/

namespace Vespid.Worker

open Workflow Interleaving

/-! ### Steps by node id -/

namespace StepMap
variable {steps : List WorkflowExecutionStep} {step : WorkflowExecutionStep} {nodeId : String}

theorem ofSteps_append (steps : List WorkflowExecutionStep) (step : WorkflowExecutionStep) :
    ofSteps (steps ++ [step]) = OrderedMap.set (ofSteps steps) step.nodeId step := by
  simp [ofSteps, List.foldl_append]

theorem has_ofSteps (steps : List WorkflowExecutionStep) (nodeId : String) :
    (ofSteps steps).has nodeId ↔ nodeId ∈ steps.map (·.nodeId) := by
  induction steps using List.reverseRecOn with
  | nil => simp [ofSteps, has]
  | append_singleton steps step ih =>
    rw [ofSteps_append, has, OrderedMap.lookup_set]
    by_cases same : nodeId = step.nodeId
    · simp [same]
    · rw [if_neg same, ← has, ih]
      simp [same]

/-- Where ids are distinct, a step is found under its id. -/
theorem lookup_ofSteps (distinct : (steps.map (·.nodeId)).Nodup) (mem : step ∈ steps) :
    (ofSteps steps).lookup step.nodeId = some step := by
  induction steps using List.reverseRecOn with
  | nil => cases mem
  | append_singleton steps last ih =>
    rw [List.map_append, List.map_cons, List.map_nil] at distinct
    obtain ⟨before, -, apart⟩ := List.nodup_append.mp distinct
    rw [ofSteps_append, OrderedMap.lookup_set]
    rcases List.mem_append.mp mem with old | new
    · have other : step.nodeId ≠ last.nodeId :=
        apart _ (List.mem_map_of_mem old) _ List.mem_cons_self
      rw [if_neg other]
      exact ih before old
    · rw [List.mem_singleton.mp new, if_pos rfl]

end StepMap

/-! ### The node the loop takes -/

section pick
variable {js : JsRuntime} {dsl : WorkflowDslV3} {m : StepMap} {key : String} {node : WorkflowNode}

theorem mem_readyNodes : key ∈ readyNodes js dsl m ↔ key ∈ dsl.nodeIds ∧ nodeReady dsl m key := by
  simp [readyNodes, sortIds, List.mem_insertionSort]

theorem pickNode_some (picked : pickNode js dsl m = some (key, node)) :
    key ∈ dsl.nodeIds ∧ nodeReady dsl m key ∧ dsl.node? key = some node := by
  unfold pickNode at picked
  split at picked
  · cases picked
  · rename_i first rest ready
    split at picked
    · cases picked
    · obtain ⟨found, here, same⟩ := Option.map_eq_some_iff.mp picked
      obtain ⟨rfl, rfl⟩ := Prod.mk.inj same
      have mem : first ∈ readyNodes js dsl m := by
        rw [ready]
        exact List.mem_cons_self
      exact ⟨(mem_readyNodes.mp mem).1, (mem_readyNodes.mp mem).2, here⟩

theorem nodeReady_iff : nodeReady dsl m key ↔
    m.has key = false ∧ ∀ e ∈ dsl.incoming key, satisfied m e := by
  simp [nodeReady]

/-- The loop ends where no node is ready. -/
theorem pickNode_none (named : "" ∉ dsl.nodeIds) (none : pickNode js dsl m = none) :
    ∀ key ∈ dsl.nodeIds, nodeReady dsl m key = false := by
  intro key mem
  by_contra ready
  have ready : nodeReady dsl m key := by simpa using ready
  have present : key ∈ readyNodes js dsl m := mem_readyNodes.mpr ⟨mem, ready⟩
  unfold pickNode at none
  split at none
  · rename_i empty
    rw [empty] at present
    cases present
  · rename_i first rest readies
    have listed : first ∈ dsl.nodeIds := by
      have here : first ∈ readyNodes js dsl m := by
        rw [readies]
        exact List.mem_cons_self
      exact (mem_readyNodes.mp here).1
    split at none
    · rename_i blank
      exact named (blank ▸ listed)
    · have found := WorkflowDslV3.node?_isSome_iff.mpr listed
      rw [Option.map_eq_none_iff.mp none] at found
      cases found

end pick

/-! ### What an iteration returns -/

/-- Executors answer as `outcomes` says; every other operation may be answered in any way. -/
def answeredBy (outcomes : ExecutorContext → Except String NodeResult → Prop) :
    (op : RunOp) → op.Reply → Prop
  | .execute context, answer => outcomes context answer
  | _, _ => True

/-- The output recorded for a node that has run. -/
def OutputOf (env : RunEnv) (dsl : WorkflowDslV3) (m : StepMap)
    (outcomes : ExecutorContext → Except String NodeResult → Prop) (node : WorkflowNode)
    (output : Option Json) : Prop :=
  match node with
  | .condition _ config => ∃ c, config = some c ∧ output = some (conditionOutput env.js c env.run.input)
  | .parallelJoin .. => output = some (joinOutput dsl m node.id)
  | _ => ∃ context result, outcomes context (.ok result) ∧ context.node = node ∧
      result.status = .succeeded ∧ output = result.output

structure StepOf (env : RunEnv) (dsl : WorkflowDslV3) (m : StepMap)
    (outcomes : ExecutorContext → Except String NodeResult → Prop) (node : WorkflowNode)
    (step : WorkflowExecutionStep) : Prop where
  nodeId : step.nodeId = node.id
  nodeType : step.nodeType = node.type
  succeeded : step.status = .succeeded
  output : OutputOf env dsl m outcomes node step.output

section returns
variable {env : RunEnv} {d : Delivery} {p : Progress} {dsl : WorkflowDslV3} {m : StepMap}
  {outcomes : ExecutorContext → Except String NodeResult → Prop}

/-- A node that `executeNode` has finished adds one step, with its executor's output. -/
def Finished (outcomes : ExecutorContext → Except String NodeResult → Prop) (p : Progress)
    (node : WorkflowNode) : NodeOutcome → Prop
  | .finished p' => ∃ step context result, p'.steps = p.steps ++ [step] ∧
      step.nodeId = node.id ∧ step.nodeType = node.type ∧ step.status = .succeeded ∧
      outcomes context (.ok result) ∧ context.node = node ∧ result.status = .succeeded ∧
      step.output = result.output
  | _ => True

theorem recordResult_returns {node : WorkflowNode} {result : NodeResult} {context : ExecutorContext}
    {cursor : Nat} (answered : result.status = .succeeded → outcomes context (.ok result))
    (of : context.node = node) :
    (recordResult env d p node result cursor).Returns (answeredBy outcomes)
      (Finished outcomes p node) := by
  unfold recordResult
  cases status : result.status with
  | blocked =>
    dsimp only
    split
    · exact trivial
    · split
      · exact trivial
      · simp only [dispatchBlocked, ask, Program.issue_eq, Program.call_bind, Program.done_bind,
          Program.returns_call]
        intro dispatched _
        cases dispatched with
        | error message => exact trivial
        | ok _ => exact fun _ _ _ _ _ _ _ _ => trivial
  | failed => exact fun _ _ => trivial
  | succeeded =>
    intro _ _
    exact ⟨_, context, result, rfl, rfl, rfl, rfl, answered status, of, status, rfl⟩

theorem runExecutor_returns {node : WorkflowNode} {cursor : Nat} :
    (runExecutor env d p node cursor).Returns (answeredBy outcomes) (Finished outcomes p node) := by
  unfold runExecutor
  split
  · exact fun _ _ => trivial
  · simp only [ask, Program.issue_eq, Program.call_bind, Program.done_bind, Program.returns_call]
    intro answer answered
    cases answer with
    | ok result => exact recordResult_returns (fun _ => answered) rfl
    | error message =>
      have never : (failed message).status = .succeeded →
          outcomes (executorContext env d p node) (.ok (failed message)) := by
        intro succeeded
        cases succeeded
      exact recordResult_returns never rfl

theorem executeNode_returns {node : WorkflowNode} {cursor : Nat} :
    (executeNode env d p node cursor).Returns (answeredBy outcomes) (Finished outcomes p node) := by
  simp only [executeNode, appendNodeEvent, appendEvent, ask, Program.issue_eq, Program.call_bind,
    Program.done_bind, Program.returns_call]
  intro _ _
  cases (evaluateNodePolicy (buildNodePolicyContext node) d.policyRules).decision with
  | allow => exact runExecutor_returns
  | deny => exact fun _ _ => trivial
  | requireApproval =>
    simp only [Program.returns_call]
    intro hasApproval _
    split
    · exact runExecutor_returns
    · simp only [requestApproval, ask, Program.issue_eq, Program.call_bind, Program.done_bind,
        Program.returns_call]
      intro now _ approval _
      cases approval with
      | none => exact trivial
      | some approval => exact fun _ _ _ _ => trivial

/-- An iteration that goes on has recorded the step of the node it picked. -/
def Iterated (env : RunEnv) (outcomes : ExecutorContext → Except String NodeResult → Prop)
    (d : Delivery) (dsl : WorkflowDslV3) (m : StepMap) (p : Progress) :
    NodeLoop ⊕ Outcome → Prop
  | .inl loop => ∃ key node step p', pickNode env.js dsl m = some (key, node) ∧
      loop = .v3 d dsl (OrderedMap.set m step.nodeId step) p' ∧ p'.steps = p.steps ++ [step] ∧
      StepOf env dsl m outcomes node step
  | .inr _ => True

theorem ended_returns {q : RunProgram Outcome} :
    (q >>= fun o => Program.done (Sum.inr o)).Returns (answeredBy outcomes)
      (Iterated env outcomes d dsl m p) :=
  Program.returns_bind q.returns_true fun _ _ => trivial

theorem recordStep_returns {key : String} {node : WorkflowNode} {output : Json}
    (picked : pickNode env.js dsl m = some (key, node))
    (of : OutputOf env dsl m outcomes node (some output)) :
    (recordStep env d dsl m p node output).Returns (answeredBy outcomes)
      (Iterated env outcomes d dsl m p) := by
  simp only [recordStep, checkpointGraph, appendNodeEvent, appendEvent, ask, Program.issue_eq,
    Program.call_bind, Program.done_bind, Program.pure_def, Program.returns_call,
    Program.returns_done]
  intro _ _ _ _ _ _
  refine ⟨key, node, { nodeId := node.id, nodeType := node.type, status := .succeeded,
                       output := some output }, _, picked, rfl, rfl, ?_⟩
  exact ⟨rfl, rfl, rfl, of⟩

theorem graphIteration_returns :
    (graphIteration env d dsl m p).Returns (answeredBy outcomes)
      (Iterated env outcomes d dsl m p) := by
  have executed {key : String} {node : WorkflowNode}
      (picked : pickNode env.js dsl m = some (key, node))
      (ordinary : ∀ step, (∃ context result, outcomes context (.ok result) ∧ context.node = node ∧
        result.status = .succeeded ∧ step = result.output) → OutputOf env dsl m outcomes node step) :
      (executeNode env d p node 0 >>= afterNode env d dsl m).Returns (answeredBy outcomes)
        (Iterated env outcomes d dsl m p) := by
    refine Program.returns_bind executeNode_returns fun outcome finished => ?_
    cases outcome with
    | blocked => exact trivial
    | threw message => exact ended_returns
    | finished p' =>
      obtain ⟨step, context, result, steps, id, type, status, answered, of, succeeded, output⟩ :=
        finished
      simp only [afterNode, checkpointGraph, ask, Program.issue_eq, Program.call_bind,
        Program.done_bind, Program.pure_def, Program.returns_call, Program.returns_done]
      intro _ _
      have last : recordLast m p'.steps = OrderedMap.set m step.nodeId step := by
        simp [recordLast, steps]
      rw [last]
      refine ⟨key, node, step, _, picked, rfl, steps, id, type, status, ordinary _ ?_⟩
      exact ⟨context, result, answered, of, succeeded, output⟩
  unfold graphIteration
  split
  · exact ended_returns
  · rename_i key node picked
    split
    · exact fun _ _ _ _ => ended_returns
    · exact recordStep_returns picked ⟨_, rfl, rfl⟩
    · exact recordStep_returns picked rfl
    · rename_i notCondition notConfigured notJoin
      refine executed picked fun output facts => ?_
      cases node with
      | condition id config =>
        cases config with
        | none => exact (notCondition id rfl).elim
        | some config => exact (notConfigured id config rfl).elim
      | parallelJoin id config => exact (notJoin id config rfl).elim
      | _ => exact facts

end returns

/-! ### Fixed replies -/

namespace Sample

/-- Executors answer as `exec` says. -/
def replies (exec : ExecutorContext → Except String NodeResult) : (op : RunOp) → op.Reply
  | .execute context => exec context
  | .getWorkflowRunById | .getOrganizationSettings | .getWorkflowById
  | .markWorkflowRunRunning _ | .createWorkflowApprovalRequest .. => none
  | .getWorkflowApprovalRequestById _ | .decideWorkflowApprovalRequest .. => none
  | .getWorkflowRunByBlockedRequestId _ => none
  | .listOrganizationPolicyRules => []
  | .clearWorkflowRunBlock .. | .hasApprovedWorkflowApprovalForRunNode _ => false
  | .dispatchViaGatewayAsync _ => .ok ()
  | .fetchGatewayResult _ => .ok { status := .succeeded, output := none, error := none }
  | .dateNow => 0
  | .appendWorkflowRunEvent _ | .markWorkflowRunBlocked .. | .updateWorkflowRunProgress .. => ()
  | .markWorkflowRunQueuedForRetry .. | .markWorkflowRunSucceeded _ => ()
  | .markWorkflowRunFailed _ | .enqueueContinuationPoll .. | .queueRemove | .queueAdd .. => ()

theorem answeredBy_replies (exec : ExecutorContext → Except String NodeResult) {α : Type} (q : RunProgram α) :
    ∀ event ∈ q.traceWith (replies exec), answeredBy (fun context answer =>
      answer = exec context) event.op event.reply := by
  intro event mem
  rw [Program.eq_of_mem_traceWith mem]
  cases event.op <;> first | exact rfl | trivial

end Sample

end Vespid.Worker
