import Vespid.Lib.Lockstep
import Vespid.Worker.RequestIds
import Vespid.Workflow.Upgrade

/-!
# Running an upgraded list

The list loop on a v2 list beside the graph loop on its upgrade, under the same replies. The
graph loop also keeps a report of the graph in the runtime, which executors do not look at.
-/

namespace Vespid.Worker

open Workflow Interleaving

/-! ### Runtimes up to the report -/

/-- No key occurs twice. -/
def Keyed : Json → Prop
  | .obj fields => (fields.map Prod.fst).Nodup
  | _ => True

/-- Runtimes that differ in the report of the graph only. -/
structure SameRuntime (runtime runtime' : Json) : Prop where
  keyed : Keyed runtime
  keyed' : Keyed runtime'
  fields : ∀ key, key ≠ "graphV3" → runtime.field? key = runtime'.field? key

/-- What an executor has to say about the runtime, up to the report. -/
structure SameOverride (override override' : Option Json) : Prop where
  keyed : ∀ value ∈ override, Keyed value
  keyed' : ∀ value ∈ override', Keyed value
  fields : ∀ key, key ≠ "graphV3" →
    override.bind (·.field? key) = override'.bind (·.field? key)

theorem lookup_merge {base overrides : List (String × Json)}
    (distinct : (overrides.map Prod.fst).Nodup) (key : String) :
    (OrderedMap.merge base overrides).lookup key = (overrides.lookup key).or (base.lookup key) := by
  induction overrides generalizing base with
  | nil => rfl
  | cons entry rest ih =>
    obtain ⟨k, v⟩ := entry
    rw [List.map_cons, List.nodup_cons] at distinct
    rw [OrderedMap.merge, List.foldl_cons, ← OrderedMap.merge, ih distinct.2, OrderedMap.lookup_set]
    by_cases same : key = k
    · subst same
      have absent : rest.lookup key = none := by
        rw [← Option.not_isSome_iff_eq_none, OrderedMap.lookup_isSome_iff]
        exact distinct.1
      simp [absent]
    · have other : (key == k) = false := by simpa using same
      simp [same, List.lookup_cons, other]

theorem keyed_merge {base overrides : List (String × Json)} (distinct : (base.map Prod.fst).Nodup) :
    ((OrderedMap.merge base overrides).map Prod.fst).Nodup := by
  induction overrides generalizing base with
  | nil => exact distinct
  | cons entry rest ih => exact ih (OrderedMap.nodup_keys_set distinct ..)

theorem keyed_mergeRuntime {base : Json} {override : Option Json} (keyed : Keyed base)
    (told : ∀ value ∈ override, Keyed value) : Keyed (mergeRuntime base override) := by
  unfold mergeRuntime
  cases override with
  | none => exact keyed
  | some value =>
    cases value with
    | obj fields =>
      cases base with
      | obj old => exact keyed_merge keyed
      | _ => exact told _ rfl
    | _ => exact keyed

theorem field?_merged {base : Json} {override : Option Json}
    (told : ∀ value ∈ override, Keyed value) (key : String) :
    (mergeRuntime base override).field? key =
      (override.bind (·.field? key)).or (base.field? key) := by
  unfold mergeRuntime
  cases override with
  | none => rfl
  | some value =>
    cases value with
    | obj fields =>
      cases base with
      | obj old => exact lookup_merge (told _ rfl) key
      | _ => simp [Json.asObject, Json.field?]
    | _ => rfl

theorem SameRuntime.merge {runtime runtime' : Json} {override override' : Option Json}
    (same : SameRuntime runtime runtime') (told : SameOverride override override') :
    SameRuntime (mergeRuntime runtime override) (mergeRuntime runtime' override') := by
  refine ⟨keyed_mergeRuntime same.keyed told.keyed, keyed_mergeRuntime same.keyed' told.keyed',
    fun key other => ?_⟩
  rw [field?_merged told.keyed, field?_merged told.keyed', told.fields key other,
    same.fields key other]

/-- The graph loop writes its report. -/
theorem SameRuntime.report {runtime runtime' : Json} (same : SameRuntime runtime runtime')
    (report : Json) :
    SameRuntime runtime (mergeRuntime runtime' (some (.obj [("graphV3", report)]))) := by
  have told : SameOverride none (some (.obj [("graphV3", report)])) := by
    refine ⟨fun _ mem => ?_, fun value mem => ?_, fun key other => ?_⟩
    · cases mem
    · obtain rfl := Option.some.inj mem
      exact List.nodup_singleton _
    · have miss : (key == "graphV3") = false := by simpa using other
      simp [List.lookup_cons, miss]
  exact same.merge told

/-! ### What is performed -/

/-- The action of a node, which a join or a condition does not have. -/
def actionOf : WorkflowNode → Option WorkflowNode
  | .condition .. | .parallelJoin .. => none
  | .connectorGithubIssueCreate id config => some (.connectorAction id
      { connectorId := "github", actionId := "issue.create"
        input := some (githubIssueCreateInput config), secretId := config.secretId
        execution := none })
  | node => some node

/-- A join or a condition that has been passed. -/
def passedNode (event : RunEvent) : Option (String × Option WorkflowNode) :=
  if event.eventType = "node_succeeded" ∧
      (event.nodeType = some .condition ∨ event.nodeType = some .parallelJoin) then
    event.nodeId.map (·, none)
  else none

/-- The node ids with the actions that executors are asked for, and the joins and conditions. -/
def performed (event : Event RunOps) : Option (String × Option WorkflowNode) :=
  match event.op with
  | .execute context => (actionOf context.node).map fun action => (context.nodeId, some action)
  | .appendWorkflowRunEvent event => passedNode event
  | _ => none

section runs
variable (env : RunEnv) (answer : (op : RunOp) → op.Reply)

/-- What `n` iterations of a node loop perform, or fewer where it ends. -/
def performedIn : Nat → NodeLoop → List (String × Option WorkflowNode)
  | 0, _ => []
  | n + 1, loop =>
    (runJobIteration env loop).shown answer performed ++
      match (runJobIteration env loop).valueWith answer with
      | .inl next => performedIn n next
      | .inr _ => []

/-- What an attempt performs that enters its node loop from `p`. -/
def performedFrom (n : Nat) (d : Delivery) (cursorNodeIndex : Nat) (p : Progress)
    (dsl : WorkflowDslAny) : List (String × Option WorkflowNode) :=
  (startLoop env d cursorNodeIndex p (some dsl)).shown answer performed ++
    match (startLoop env d cursorNodeIndex p (some dsl)).valueWith answer with
    | .inl loop => performedIn env answer n loop
    | .inr _ => []

end runs

/-- Replies of executors that differ in the runtime only, and there up to the report. -/
def SameReply : Except String NodeResult → Except String NodeResult → Prop
  | .ok result, .ok result' => { result with runtime := none } = { result' with runtime := none } ∧
      SameOverride result.runtime result'.runtime
  | .error message, .error message' => message = message'
  | _, _ => False

/-- Executors do not look at the report. -/
def IgnoresReport (execute : ExecutorContext → Except String NodeResult) : Prop :=
  ∀ context runtime, SameRuntime context.runtime runtime →
    SameReply (execute context) (execute { context with runtime })

/-- The progress of a list and of its upgrade after `i` nodes, as a delivery finds them. -/
structure Resumes (dsl : WorkflowDsl) (i : Nat) (p p' : Progress) : Prop where
  steps : p'.steps = p.steps
  done : p.steps.map (·.nodeId) = (dsl.nodes.map (·.id)).take i
  within : i ≤ dsl.nodes.length
  succeeded : ∀ step ∈ p.steps, step.status = .succeeded
  runtime : SameRuntime p.runtime p'.runtime

/-- However far a run has come and whatever is replied, the list and its upgrade perform the
same. -/
def SameRuns (dsl : WorkflowDsl) : Prop :=
  ∀ (env : RunEnv) (answer : (op : RunOp) → op.Reply) (d : Delivery),
    IgnoresReport (fun context => answer (.execute context)) →
    ∀ i p p', Resumes dsl i p p' → ∀ n, performedFrom env answer n d i p (.v2 dsl) =
      performedFrom env answer n d 0 p' (.v3 (upgradeV2ToV3 dsl))

/-! ### One node -/

/-- Outcomes of a node that is recorded as one step or not at all. -/
inductive SameOutcome (node : WorkflowNode) (p : Progress) : NodeOutcome → NodeOutcome → Prop
  | blocked : SameOutcome node p .blocked .blocked
  | threw (message : String) : SameOutcome node p (.threw message) (.threw message)
  | finished {q q' : Progress} {step : WorkflowExecutionStep} (id : step.nodeId = node.id)
      (succeeded : step.status = .succeeded) (steps : q.steps = p.steps ++ [step])
      (same : q'.steps = q.steps) (runtime : SameRuntime q.runtime q'.runtime) :
      SameOutcome node p (.finished q) (.finished q')

section node
variable {env : RunEnv} {answer : (op : RunOp) → op.Reply} {d : Delivery} {p p' : Progress}
  {node : WorkflowNode}

theorem pendingRemoteResult_same {runtime runtime' : Json} (same : SameRuntime runtime runtime') :
    pendingRemoteResultOf runtime = pendingRemoteResultOf runtime' := by
  unfold pendingRemoteResultOf
  rw [same.fields "pendingRemoteResult" (by decide)]

theorem recordResult_lockstep {result result' : NodeResult} (cursor cursor' : Nat)
    (steps : p'.steps = p.steps) (runtime : SameRuntime p.runtime p'.runtime)
    (same : { result with runtime := none } = { result' with runtime := none })
    (told : SameOverride result.runtime result'.runtime) :
    Program.Lockstep answer performed (SameOutcome node p)
      (recordResult env d p node result cursor) (recordResult env d p' node result' cursor') := by
  obtain ⟨status, output, error, block, override⟩ := result
  obtain ⟨status', output', error', block', override'⟩ := result'
  obtain ⟨rfl, rfl, rfl, rfl, -⟩ := NodeResult.mk.inj same
  unfold recordResult
  cases status with
  | blocked =>
    dsimp only
    split
    · exact .done (.threw _)
    · cases block with
      | none => exact .done (.threw _)
      | some block =>
        simp only [dispatchBlocked, appendNodeEvent, appendEvent, ask, Program.issue_eq,
          Program.call_bind, Program.done_bind]
        refine .both rfl ?_
        generalize answer (.dispatchViaGatewayAsync _) = dispatched
        cases dispatched with
        | error message => exact .done (.threw _)
        | ok _ => exact .both rfl (.both rfl (.both rfl (.both rfl (.done .blocked))))
  | failed => exact .both rfl (.done (.threw _))
  | succeeded =>
    refine .both rfl (.done (.finished ?_ ?_ rfl ?_ (runtime.merge told)))
    · rfl
    · rfl
    · dsimp only
      rw [steps]

theorem runExecutor_lockstep (cursor cursor' : Nat)
    (ignores : IgnoresReport fun context => answer (.execute context))
    (steps : p'.steps = p.steps) (runtime : SameRuntime p.runtime p'.runtime) :
    Program.Lockstep answer performed (SameOutcome node p) (runExecutor env d p node cursor)
      (runExecutor env d p' node cursor') := by
  have context : executorContext env d p' node =
      { executorContext env d p node with runtime := p'.runtime } := by
    simp only [executorContext, steps, pendingRemoteResult_same runtime]
  unfold runExecutor
  split
  · exact .both rfl (.done (.threw _))
  · simp only [ask, Program.issue_eq, Program.call_bind, Program.done_bind]
    refine .both ?_ ?_
    · rw [context]
      rfl
    · have same : SameReply (answer (.execute (executorContext env d p node)))
          (answer (.execute (executorContext env d p' node))) := by
        rw [context]
        exact ignores (executorContext env d p node) p'.runtime runtime
      generalize answer (.execute (executorContext env d p node)) = reply at same ⊢
      generalize answer (.execute (executorContext env d p' node)) = reply' at same ⊢
      cases reply with
      | error message =>
        cases reply' with
        | error message' =>
          obtain rfl : message = message' := same
          exact recordResult_lockstep cursor cursor' steps runtime rfl
            ⟨nofun, nofun, fun _ _ => rfl⟩
        | ok result' => exact same.elim
      | ok result =>
        cases reply' with
        | error message' => exact same.elim
        | ok result' => exact recordResult_lockstep cursor cursor' steps runtime same.1 same.2

theorem executeNode_lockstep (cursor cursor' : Nat)
    (ignores : IgnoresReport fun context => answer (.execute context))
    (steps : p'.steps = p.steps) (runtime : SameRuntime p.runtime p'.runtime) :
    Program.Lockstep answer performed (SameOutcome node p) (executeNode env d p node cursor)
      (executeNode env d p' node cursor') := by
  have executor : Program.Lockstep answer performed (SameOutcome node p)
      (runExecutor env d p node cursor) (runExecutor env d p' node cursor') :=
    runExecutor_lockstep cursor cursor' ignores steps runtime
  simp only [executeNode, appendNodeEvent, appendEvent, ask, Program.issue_eq, Program.call_bind,
    Program.done_bind]
  refine .both rfl ?_
  cases (evaluateNodePolicy (buildNodePolicyContext node) d.policyRules).decision with
  | allow => exact executor
  | deny => exact .both rfl (.done (.threw _))
  | requireApproval =>
    refine .both rfl ?_
    split
    · exact executor
    · simp only [requestApproval, appendNodeEvent, appendEvent, ask, Program.issue_eq,
        Program.call_bind, Program.done_bind]
      refine .both rfl (.both rfl ?_)
      generalize answer (.createWorkflowApprovalRequest ..) = approval
      cases approval with
      | none => exact .done (.threw _)
      | some approval => exact .both rfl (.both rfl (.done .blocked))

end node

/-! ### The next node -/

/-- Nodes that both loops hand to their executors as they are. -/
def Plain (node : WorkflowNode) : Prop :=
  node.type ≠ .condition ∧ node.type ≠ .parallelJoin ∧ node.type ≠ .connectorGithubIssueCreate

section pick
variable {dsl : WorkflowDsl} {i : Nat} {p p' : Progress} {js : JsRuntime} {node : WorkflowNode}

theorem mem_take_iff {ids : List String} (distinct : ids.Nodup) {j : Nat} (inside : j < ids.length) :
    ids[j] ∈ ids.take i ↔ j < i := by
  constructor
  · intro mem
    obtain ⟨k, short, same⟩ := List.mem_take_iff_getElem.mp mem
    have := (distinct.getElem_inj_iff).mp same
    omega
  · intro before
    exact List.mem_take_iff_getElem.mpr ⟨j, by omega, rfl⟩

theorem Resumes.hasSucceeded_iff (resumes : Resumes dsl i p p') (chainable : Chainable dsl)
    (id : String) :
    (StepMap.ofSteps p.steps).hasSucceeded id ↔ id ∈ (dsl.nodes.map (·.id)).take i := by
  have distinct : (p.steps.map (·.nodeId)).Nodup := by
    rw [resumes.done]
    exact (List.take_sublist ..).nodup chainable.ids
  rw [← resumes.done]
  constructor
  · intro succeeded
    refine (StepMap.has_ofSteps p.steps id).mp ?_
    unfold StepMap.hasSucceeded at succeeded
    unfold StepMap.has
    cases found : (StepMap.ofSteps p.steps).lookup id with
    | none => simp [found] at succeeded
    | some step => rfl
  · intro mem
    obtain ⟨step, recorded, rfl⟩ := List.mem_map.mp mem
    simp [StepMap.hasSucceeded, StepMap.lookup_ofSteps distinct recorded,
      resumes.succeeded step recorded]

theorem satisfied_chain {m : StepMap} {e : WorkflowEdgeV3}
    (edge : e ∈ (upgradeV2ToV3 dsl).edges) : satisfied m e = m.hasSucceeded e.from := by
  have always : e.kindOrAlways = .always := by
    rw [(mem_upgradeEdges edge).1]
    rfl
  unfold satisfied edgeStatus
  rw [always]
  cases m.hasSucceeded e.from <;> rfl

/-- Of the nodes of the list, the next one is ready and no other. -/
theorem Resumes.ready_iff (resumes : Resumes dsl i p p') (chainable : Chainable dsl)
    (named : "" ∉ dsl.nodes.map (·.id)) {j : Nat} (inside : j < (dsl.nodes.map (·.id)).length) :
    nodeReady (upgradeV2ToV3 dsl) (.ofSteps p.steps) (dsl.nodes.map (·.id))[j] ↔ j = i := by
  rw [nodeReady_iff, ← Bool.not_eq_true, StepMap.has_ofSteps, resumes.done,
    mem_take_iff chainable.ids inside]
  constructor
  · rintro ⟨new, sources⟩
    by_contra other
    obtain ⟨k, rfl⟩ : ∃ k, j = k + 1 := ⟨j - 1, by omega⟩
    have edge := upgradeEdges_get named (List.getElem?_eq_getElem (by omega))
      (List.getElem?_eq_getElem inside)
    have incoming := sources _ (List.mem_filter.mpr ⟨edge, by simp [upgradeEdge]⟩)
    rw [satisfied_chain edge, resumes.hasSucceeded_iff chainable] at incoming
    have before := (mem_take_iff chainable.ids (by omega)).mp incoming
    omega
  · rintro rfl
    refine ⟨lt_irrefl _, fun e mem => ?_⟩
    obtain ⟨edge, target⟩ := List.mem_filter.mp mem
    simp only [decide_eq_true_eq] at target
    rw [satisfied_chain edge, resumes.hasSucceeded_iff chainable]
    obtain ⟨-, k, source, next⟩ := mem_upgradeEdges edge
    obtain ⟨short, source⟩ := List.getElem?_eq_some_iff.mp source
    obtain ⟨short', next⟩ := List.getElem?_eq_some_iff.mp next
    have same := (chainable.ids.getElem_inj_iff).mp (next.trans target)
    rw [← source]
    exact (mem_take_iff chainable.ids short).mpr (by omega)

theorem node?_upgrade (chainable : Chainable dsl) (mem : node ∈ dsl.nodes) :
    (upgradeV2ToV3 dsl).node? node.id = some (upgradeNode node) :=
  OrderedMap.lookup_of_mem (upgradeV2ToV3 dsl).keysDistinct
    ((nodes_perm chainable).mem_iff.mpr (List.mem_map_of_mem mem))

/-- A node the graph loop picks is the next one of the list. -/
theorem Resumes.picked (resumes : Resumes dsl i p p') (chainable : Chainable dsl)
    (named : "" ∉ dsl.nodes.map (·.id)) {key : String}
    (picked : pickNode js (upgradeV2ToV3 dsl) (.ofSteps p.steps) = some (key, node)) :
    ∃ next, dsl.nodes[i]? = some next ∧ key = next.id ∧ node = upgradeNode next := by
  obtain ⟨listed, ready, found⟩ := pickNode_some picked
  obtain ⟨j, inside, rfl⟩ := List.getElem_of_mem ((mem_nodeIds chainable).mp listed)
  obtain rfl := (resumes.ready_iff chainable named inside).mp ready
  have within : j < dsl.nodes.length := by simpa using inside
  refine ⟨dsl.nodes[j], List.getElem?_eq_getElem within, by simp, ?_⟩
  rw [List.getElem_map, node?_upgrade chainable (List.getElem_mem within)] at found
  exact (Option.some.inj found).symm

theorem Resumes.pickNode_next (resumes : Resumes dsl i p p') (chainable : Chainable dsl)
    (named : "" ∉ dsl.nodes.map (·.id)) (here : dsl.nodes[i]? = some node) :
    pickNode js (upgradeV2ToV3 dsl) (.ofSteps p.steps) = some (node.id, upgradeNode node) := by
  obtain ⟨within, here'⟩ := List.getElem?_eq_some_iff.mp here
  cases picked : pickNode js (upgradeV2ToV3 dsl) (.ofSteps p.steps) with
  | none =>
    have inside : i < (dsl.nodes.map (·.id)).length := by simpa using within
    have listed := (mem_nodeIds chainable).mpr (List.getElem_mem inside)
    have blank : "" ∉ (upgradeV2ToV3 dsl).nodeIds := mt (mem_nodeIds chainable).mp named
    have idle := pickNode_none blank picked _ listed
    rw [(resumes.ready_iff chainable named inside).mpr rfl] at idle
    cases idle
  | some entry =>
    obtain ⟨key, found⟩ := entry
    obtain ⟨next, here'', rfl, rfl⟩ := resumes.picked chainable named picked
    obtain rfl := Option.some.inj (here.symm.trans here'')
    rfl

theorem Resumes.pickNode_end (resumes : Resumes dsl i p p') (chainable : Chainable dsl)
    (named : "" ∉ dsl.nodes.map (·.id)) (ended : dsl.nodes[i]? = none) :
    pickNode js (upgradeV2ToV3 dsl) (.ofSteps p.steps) = none := by
  cases picked : pickNode js (upgradeV2ToV3 dsl) (.ofSteps p.steps) with
  | none => rfl
  | some entry =>
    obtain ⟨key, found⟩ := entry
    obtain ⟨next, here, -⟩ := resumes.picked chainable named picked
    rw [ended] at here
    cases here

end pick

/-! ### The loops -/

section loops
variable {env : RunEnv} {answer : (op : RunOp) → op.Reply} {d : Delivery} {dsl : WorkflowDsl}
  {i : Nat} {p p' : Progress} {node : WorkflowNode}

/-- What an iteration of either loop comes to. -/
inductive SameLoop (dsl : WorkflowDsl) (d : Delivery) (i : Nat) :
    NodeLoop ⊕ Outcome → NodeLoop ⊕ Outcome → Prop
  | goesOn {q q' : Progress} (resumes : Resumes dsl (i + 1) q q') : SameLoop dsl d i
      (.inl (.v2 d dsl.nodes (i + 1) q)) (.inl (.v3 d (upgradeV2ToV3 dsl) (.ofSteps q.steps) q'))
  | ends (outcome outcome' : Outcome) : SameLoop dsl d i (.inr outcome) (.inr outcome')

theorem upgradeNode_plain (plain : Plain node) : upgradeNode node = node := by
  cases node with
  | connectorGithubIssueCreate => exact (plain.2.2 rfl).elim
  | _ => rfl

/-- An iteration over a node that the graph loop hands to its executor. -/
theorem graphIteration_plain {graph : WorkflowDslV3} {m : StepMap} {key : String}
    (picked : pickNode env.js graph m = some (key, node)) (notCondition : node.type ≠ .condition)
    (notJoin : node.type ≠ .parallelJoin) : graphIteration env d graph m p = (do
      match ← executeNode env d p node 0 with
      | .blocked => return .inr .returned
      | .threw message => return .inr (← failAttempt env d.attemptCount message)
      | .finished p =>
        let m := recordLast m p.steps
        let p ← checkpointGraph env graph m p
        return .inl (.v3 d graph m p)) := by
  unfold graphIteration
  rw [picked]
  cases node with
  | condition => exact (notCondition rfl).elim
  | parallelJoin => exact (notJoin rfl).elim
  | _ => rfl

theorem Resumes.step {q q' : Progress} {step : WorkflowExecutionStep}
    (resumes : Resumes dsl i p p') (here : dsl.nodes[i]? = some node)
    (id : step.nodeId = node.id) (succeeded : step.status = .succeeded)
    (steps : q.steps = p.steps ++ [step]) (same : q'.steps = q.steps)
    (runtime : SameRuntime q.runtime q'.runtime) : Resumes dsl (i + 1) q q' := by
  obtain ⟨within, -⟩ := List.getElem?_eq_some_iff.mp here
  refine ⟨same, ?_, within, ?_, runtime⟩
  · rw [steps, List.map_append, resumes.done, List.map_cons, List.map_nil, id, List.take_add_one,
      List.getElem?_map, here]
    rfl
  · intro s mem
    rw [steps] at mem
    rcases List.mem_append.mp mem with old | new
    · exact resumes.succeeded s old
    · rw [List.mem_singleton.mp new]
      exact succeeded

theorem iteration_lockstep (chainable : Chainable dsl) (named : "" ∉ dsl.nodes.map (·.id))
    (ignores : IgnoresReport fun context => answer (.execute context))
    (resumes : Resumes dsl i p p') (here : dsl.nodes[i]? = some node) (plain : Plain node) :
    Program.Lockstep answer performed (SameLoop dsl d i) (listIteration env d dsl.nodes i p)
      (graphIteration env d (upgradeV2ToV3 dsl) (.ofSteps p.steps) p') := by
  have picked : pickNode env.js (upgradeV2ToV3 dsl) (.ofSteps p.steps) =
      some (node.id, upgradeNode node) := resumes.pickNode_next chainable named here
  rw [upgradeNode_plain plain] at picked
  rw [graphIteration_plain picked plain.1 plain.2.1]
  unfold listIteration
  rw [here]
  refine .bind (executeNode_lockstep i 0 ignores resumes.steps resumes.runtime) ?_
  intro outcome outcome' same
  cases same with
  | blocked => exact .done (.ends _ _)
  | threw message => exact .bind (.refl _) fun _ _ _ => .done (.ends _ _)
  | @finished q q' step id succeeded steps same runtime =>
    simp only [checkpointGraph, ask, Program.issue_eq, Program.call_bind, Program.done_bind,
      Program.pure_def]
    refine .both rfl (.done ?_)
    have recorded : recordLast (.ofSteps p.steps) q'.steps = .ofSteps q.steps := by
      rw [same, steps, StepMap.ofSteps_append]
      simp [recordLast]
    rw [recorded]
    exact .goesOn (resumes.step here id succeeded steps same (runtime.report _))

/-! ### Where the list ends -/

/-- Operations that perform nothing. -/
def silent (op : RunOp) : Prop := ∀ reply, performed ⟨op, reply⟩ = none

theorem succeedAttempt_silent : (succeedAttempt d p).Only silent := by
  simp only [succeedAttempt, appendEvent, ask, Program.issue_eq, Program.call_bind,
    Program.done_bind]
  exact ⟨fun _ => rfl, fun _ => ⟨fun _ => rfl, fun _ => trivial⟩⟩

theorem appendSkipped_silent (graph : WorkflowDslV3) (ids : List String) :
    (appendSkipped d graph ids).Only silent := by
  induction ids with
  | nil => trivial
  | cons id ids ih =>
    unfold appendSkipped
    cases graph.node? id with
    | none => exact ih
    | some node => exact ⟨fun _ => rfl, fun _ => ih⟩

theorem finishGraph_silent (graph : WorkflowDslV3) (m : StepMap) :
    (finishGraph env d graph m p).Only silent :=
  Program.only_bind (appendSkipped_silent graph _) fun _ => succeedAttempt_silent

theorem iteration_ends (chainable : Chainable dsl) (named : "" ∉ dsl.nodes.map (·.id))
    (resumes : Resumes dsl i p p') (ended : dsl.nodes[i]? = none) :
    Program.Lockstep answer performed (SameLoop dsl d i) (listIteration env d dsl.nodes i p)
      (graphIteration env d (upgradeV2ToV3 dsl) (.ofSteps p.steps) p') := by
  have picked : pickNode env.js (upgradeV2ToV3 dsl) (.ofSteps p.steps) = none :=
    resumes.pickNode_end chainable named ended
  unfold listIteration graphIteration
  rw [ended, picked]
  refine ⟨?_, ?_⟩
  · rw [Program.shown_eq_nil, Program.shown_eq_nil]
    · exact Program.only_bind (finishGraph_silent _ _) fun _ => trivial
    · exact Program.only_bind succeedAttempt_silent fun _ => trivial
  · rw [Program.valueWith_bind, Program.valueWith_bind]
    exact .ends _ _

theorem performedIn_same (chainable : Chainable dsl) (named : "" ∉ dsl.nodes.map (·.id))
    (plain : ∀ node ∈ dsl.nodes, Plain node)
    (ignores : IgnoresReport fun context => answer (.execute context))
    (resumes : Resumes dsl i p p') (n : Nat) :
    performedIn env answer n (.v2 d dsl.nodes i p) =
      performedIn env answer n (.v3 d (upgradeV2ToV3 dsl) (.ofSteps p.steps) p') := by
  induction n generalizing i p p' with
  | zero => rfl
  | succ n ih =>
    have step : Program.Lockstep answer performed (SameLoop dsl d i)
        (runJobIteration env (.v2 d dsl.nodes i p))
        (runJobIteration env (.v3 d (upgradeV2ToV3 dsl) (.ofSteps p.steps) p')) := by
      cases here : dsl.nodes[i]? with
      | none => exact iteration_ends chainable named resumes here
      | some node =>
        exact iteration_lockstep chainable named ignores resumes here
          (plain node (List.mem_of_getElem? here))
    obtain ⟨shown, same⟩ := step
    simp only [performedIn, shown]
    congr 1
    generalize (runJobIteration env (.v2 d dsl.nodes i p)).valueWith answer = value at same ⊢
    generalize (runJobIteration env
      (.v3 d (upgradeV2ToV3 dsl) (.ofSteps p.steps) p')).valueWith answer = value' at same ⊢
    cases same with
    | goesOn resumes => exact ih resumes
    | ends => rfl

theorem performedFrom_list (schema : workflowDslSchema dsl) (n : Nat) :
    performedFrom env answer n d i p (.v2 dsl) =
      performedIn env answer n (.v2 d dsl.nodes i p) := by
  have parsed : env.parseDsl (some (.v2 dsl)) = .ok (.v2 dsl) := if_pos schema
  simp [performedFrom, startLoop, parsed, Program.shown, Program.traceWith, Program.valueWith]

theorem performedFrom_graph {graph : WorkflowDslV3} (accepted : acceptedV3 graph) (n : Nat) :
    performedFrom env answer n d i p (.v3 graph) =
      performedIn env answer n (.v3 d graph (.ofSteps p.steps) p) := by
  have parsed : env.parseDsl (some (.v3 graph)) = .ok (.v3 graph) := if_pos accepted.1
  simp [performedFrom, startLoop, parsed, accepted.2, Program.shown, Program.traceWith,
    Program.valueWith]

end loops

/-! ### Nodes that only one of the loops treats as its executor's -/

namespace Sample

def denyType (type : NodeType) : OrgPolicyRule :=
  { id := "deny", name := "deny", enabled := true, priority := 0, createdAt := 0, effect := .deny
    scope := .obj [("nodeType", .str type.literal)] }

/-- Nodes of one type are denied, and all others are let through. -/
def gate (type : NodeType) : Delivery :=
  { attemptCount := 1, organizationSettings := .obj [], policyRules := [denyType type, allowAll] }

def succeeds (_ : ExecutorContext) : Except String NodeResult := .ok { status := .succeeded }

def fresh : Progress := { steps := [], runtime := .null }

end Sample

section gate
open Sample

variable {type : NodeType} {node : WorkflowNode} {p p' : Progress} {dsl : WorkflowDsl} {i : Nat}

theorem nodeType_literal (node : WorkflowNode) :
    (buildNodePolicyContext node).nodeType = node.type.literal := by
  cases node <;> rfl

theorem literal_inj {type type' : NodeType} (same : type.literal = type'.literal) : type = type' := by
  cases type <;> cases type' <;> first | rfl | exact absurd same (by decide)

theorem denyType_matches (context : NodePolicyContext) :
    ruleMatchesContext (denyType type) context = (type.literal == context.nodeType) := by
  have named : type.literal ≠ "" := by cases type <;> decide
  simp [ruleMatchesContext, denyType, Json.asObject, scopeString, readStringArray,
    List.lookup_cons, named]

theorem gate_decision (node : WorkflowNode) :
    (evaluateNodePolicy (buildNodePolicyContext node) (gate type).policyRules).decision =
      if type = node.type then .deny else .allow := by
  unfold evaluateNodePolicy
  simp only [gate, List.find?_cons, denyType_matches, nodeType_literal]
  by_cases same : type = node.type
  · subst same
    simp [denyType]
  · have other : (type.literal == node.type.literal) = false := by
      simpa using fun literal => same (literal_inj literal)
    rw [other, if_neg same]
    rfl

theorem ignoresReport_succeeds : IgnoresReport fun context => replies succeeds (.execute context) :=
  fun _ _ _ => ⟨rfl, nofun, nofun, fun _ _ => rfl⟩

/-- A node of another type is executed. -/
theorem executeNode_passes (other : type ≠ node.type) (cursor : Nat) :
    executeNode Vespid.Sample.sampleEnv (gate type) p node cursor =
      appendNodeEvent (gate type) "node_started" .info node none >>= fun _ =>
        runExecutor Vespid.Sample.sampleEnv (gate type) p node cursor := by
  have decision := @gate_decision type node
  rw [if_neg other] at decision
  unfold executeNode
  simp only [decision]

theorem executeNode_finishes (other : type ≠ node.type) (cursor : Nat) :
    ∃ q, (executeNode Vespid.Sample.sampleEnv (gate type) p node cursor).valueWith
      (replies succeeds) = .finished q := by
  rw [executeNode_passes other]
  exact ⟨_, rfl⟩

theorem executeNode_shows (other : type ≠ node.type) (cursor : Nat) {action : WorkflowNode}
    (acts : actionOf node = some action) : (node.id, some action) ∈
      (executeNode Vespid.Sample.sampleEnv (gate type) p node cursor).shown (replies succeeds)
        performed := by
  have asked : performed ⟨.execute (executorContext Vespid.Sample.sampleEnv (gate type) p node),
      replies succeeds (.execute (executorContext Vespid.Sample.sampleEnv (gate type) p node))⟩ =
      some (node.id, some action) := by
    simp only [performed, executorContext, acts, Option.map_some]
  rw [executeNode_passes other, Program.shown_bind]
  refine List.mem_append_right _ (List.mem_filterMap.mpr ⟨_, List.mem_cons_self, asked⟩)

theorem failAttempt_silent {env : RunEnv} (attemptCount : Nat) (message : String) :
    (failAttempt env attemptCount message).Only silent := by
  unfold failAttempt
  split <;> exact ⟨fun _ => rfl, fun _ => ⟨fun _ => rfl, fun _ => trivial⟩⟩

/-- The list loop stops at a node that is denied. -/
theorem performedIn_denied (here : dsl.nodes[i]? = some node) :
    performedIn Vespid.Sample.sampleEnv (replies succeeds) 1 (.v2 (gate node.type) dsl.nodes i p) =
      [] := by
  have decision := @gate_decision node.type node
  rw [if_pos rfl] at decision
  have denied : (executeNode Vespid.Sample.sampleEnv (gate node.type) p node i).Only silent := by
    simp only [executeNode, decision]
    exact ⟨fun _ => rfl, fun _ => ⟨fun _ => rfl, fun _ => trivial⟩⟩
  have silently : (listIteration Vespid.Sample.sampleEnv (gate node.type) dsl.nodes i p).Only
      silent := by
    unfold listIteration
    rw [here]
    refine Program.only_bind denied fun outcome => ?_
    cases outcome with
    | blocked => trivial
    | threw message => exact Program.only_bind (failAttempt_silent _ _) fun _ => trivial
    | finished q => exact ⟨fun _ => rfl, fun _ => trivial⟩
  have nothing : (runJobIteration Vespid.Sample.sampleEnv (.v2 (gate node.type) dsl.nodes i p)).shown
      (replies succeeds) performed = [] := Program.shown_eq_nil silently
  simp only [performedIn, nothing, List.nil_append]
  split <;> rfl

/-- The graph loop goes on with what the upgrade has made of it. -/
theorem performedIn_passes (chainable : Chainable dsl) (named : "" ∉ dsl.nodes.map (·.id))
    (resumes : Resumes dsl i p p') (here : dsl.nodes[i]? = some node)
    (apart : node.type = .parallelJoin ∨ node.type = .connectorGithubIssueCreate) :
    performedIn Vespid.Sample.sampleEnv (replies succeeds) 1
      (.v3 (gate node.type) (upgradeV2ToV3 dsl) (.ofSteps p.steps) p') ≠ [] := by
  have picked : pickNode Vespid.Sample.sampleEnv.js (upgradeV2ToV3 dsl) (.ofSteps p.steps) =
      some (node.id, upgradeNode node) := resumes.pickNode_next chainable named here
  suffices shows : (graphIteration Vespid.Sample.sampleEnv (gate node.type) (upgradeV2ToV3 dsl)
      (.ofSteps p.steps) p').shown (replies succeeds) performed ≠ [] by
    intro nothing
    exact shows (List.append_eq_nil_iff.mp nothing).1
  cases node with
  | parallelJoin id config =>
    unfold graphIteration
    rw [picked]
    simp only [upgradeNode, recordStep, appendNodeEvent, appendEvent, ask, Program.issue_eq,
      Program.call_bind, Program.done_bind, Program.shown_call]
    simp [performed, passedNode, WorkflowNode.type]
  | connectorGithubIssueCreate id config =>
    rw [graphIteration_plain picked (by rintro ⟨⟩) (by rintro ⟨⟩), Program.shown_bind]
    intro nothing
    have other : (WorkflowNode.connectorGithubIssueCreate id config).type ≠
        (upgradeNode (.connectorGithubIssueCreate id config)).type := (by rintro ⟨⟩)
    have shows := executeNode_shows other 0 rfl (p := p')
    rw [(List.append_eq_nil_iff.mp nothing).1] at shows
    cases shows
  | _ => rcases apart with same | same <;> cases same

/-- Over the nodes before, both loops perform the same and go on. -/
theorem performedIn_before (chainable : Chainable dsl) (named : "" ∉ dsl.nodes.map (·.id))
    (j : Nat) (resumes : Resumes dsl i p p')
    (plain : ∀ k, i ≤ k → k < i + j → ∃ node, dsl.nodes[k]? = some node ∧ Plain node ∧
      type ≠ node.type) :
    ∃ first q q', Resumes dsl (i + j) q q' ∧ ∀ n,
      performedIn Vespid.Sample.sampleEnv (replies succeeds) (j + n)
          (.v2 (gate type) dsl.nodes i p) =
        first ++ performedIn Vespid.Sample.sampleEnv (replies succeeds) n
          (.v2 (gate type) dsl.nodes (i + j) q) ∧
      performedIn Vespid.Sample.sampleEnv (replies succeeds) (j + n)
          (.v3 (gate type) (upgradeV2ToV3 dsl) (.ofSteps p.steps) p') =
        first ++ performedIn Vespid.Sample.sampleEnv (replies succeeds) n
          (.v3 (gate type) (upgradeV2ToV3 dsl) (.ofSteps q.steps) q') := by
  induction j generalizing i p p' with
  | zero => exact ⟨[], p, p', resumes, fun n => by simp⟩
  | succ j ih =>
    obtain ⟨node, here, isPlain, other⟩ := plain i le_rfl (by omega)
    have step : Program.Lockstep (replies succeeds) performed (SameLoop dsl (gate type) i)
        (runJobIteration Vespid.Sample.sampleEnv (.v2 (gate type) dsl.nodes i p))
        (runJobIteration Vespid.Sample.sampleEnv
          (.v3 (gate type) (upgradeV2ToV3 dsl) (.ofSteps p.steps) p')) :=
      iteration_lockstep chainable named ignoresReport_succeeds resumes here isPlain
    obtain ⟨shown, same⟩ := step
    have goesOn : ∃ next, (runJobIteration Vespid.Sample.sampleEnv
        (.v2 (gate type) dsl.nodes i p)).valueWith (replies succeeds) = .inl next := by
      obtain ⟨q, finished⟩ := executeNode_finishes (p := p) other i
      change ∃ next, (listIteration Vespid.Sample.sampleEnv (gate type) dsl.nodes i p).valueWith
        (replies succeeds) = .inl next
      unfold listIteration
      rw [here]
      dsimp only
      rw [Program.valueWith_bind, finished]
      exact ⟨_, rfl⟩
    obtain ⟨next, value⟩ := goesOn
    rw [value] at same
    generalize value' : (runJobIteration Vespid.Sample.sampleEnv (.v3 (gate type)
      (upgradeV2ToV3 dsl) (.ofSteps p.steps) p')).valueWith (replies succeeds) = reached at same
    cases same with
    | @goesOn q q' resumes' =>
      obtain ⟨first, r, r', resumes'', later⟩ := ih resumes' fun k above below =>
        plain k (by omega) (by omega)
      rw [Nat.add_right_comm, Nat.add_assoc] at resumes'' later
      refine ⟨(runJobIteration Vespid.Sample.sampleEnv (.v3 (gate type) (upgradeV2ToV3 dsl)
        (.ofSteps p.steps) p')).shown (replies succeeds) performed ++ first, r, r', resumes'',
        fun n => ?_⟩
      obtain ⟨list, graph⟩ := later n
      rw [Nat.add_right_comm j 1 n]
      refine ⟨?_, ?_⟩
      · simp only [performedIn, value, list, shown, List.append_assoc]
      · simp only [performedIn, value', graph, List.append_assoc]

theorem resumes_fresh : Resumes dsl 0 fresh fresh :=
  ⟨rfl, rfl, Nat.zero_le _, nofun, trivial, trivial, fun _ _ => rfl⟩

instance (node : WorkflowNode) : Decidable (Plain node) :=
  inferInstanceAs (Decidable (_ ∧ _ ∧ _))

/-- Where the runs are the same, there is no join and no node of the legacy type. -/
theorem plain_of_sameRuns (schema : workflowDslSchema dsl) (chainable : Chainable dsl)
    (same : SameRuns dsl) : ∀ node ∈ dsl.nodes, Plain node := by
  by_contra some_
  push Not at some_
  have found : (dsl.nodes.find? fun node => ¬Plain node).isSome := by
    rw [List.find?_isSome]
    obtain ⟨node, listed, apart⟩ := some_
    exact ⟨node, listed, by simpa using apart⟩
  obtain ⟨node, found⟩ := Option.isSome_iff_exists.mp found
  obtain ⟨apart, before, after, split, plain⟩ := List.find?_eq_some_iff_append.mp found
  have here : dsl.nodes[before.length]? = some node := by simp [split]
  have conditional := chainable.unconditional node (List.mem_of_getElem? here)
  have apart : node.type = .parallelJoin ∨ node.type = .connectorGithubIssueCreate := by
    by_contra neither
    rw [not_or] at neither
    simp only [decide_eq_true_eq] at apart
    exact apart ⟨conditional, neither.1, neither.2⟩
  have named := nonempty_ids schema
  have earlier : ∀ k, 0 ≤ k → k < 0 + before.length →
      ∃ n, dsl.nodes[k]? = some n ∧ Plain n ∧ node.type ≠ n.type := by
    intro k _ below
    have short : k < before.length := by omega
    have isPlain : Plain before[k] := by simpa using plain before[k] (List.getElem_mem short)
    refine ⟨before[k], by simp [split, List.getElem?_append_left short], isPlain, ?_⟩
    rcases apart with type | type
    · rw [type]
      exact Ne.symm isPlain.2.1
    · rw [type]
      exact Ne.symm isPlain.2.2
  obtain ⟨first, q, q', resumes, later⟩ := performedIn_before chainable named before.length
    resumes_fresh earlier
  rw [Nat.zero_add] at resumes later
  have runs := same Vespid.Sample.sampleEnv (replies succeeds) (gate node.type)
    ignoresReport_succeeds 0 fresh fresh resumes_fresh (before.length + 1)
  rw [performedFrom_list schema, performedFrom_graph (accepted_of_chainable schema chainable)] at runs
  obtain ⟨list, graph⟩ := later 1
  have both := list.symm.trans (runs.trans graph)
  have last := List.append_cancel_left both
  rw [performedIn_denied here] at last
  exact performedIn_passes chainable named resumes here apart last.symm

end gate

/-! ### The executors ignore the report -/

section executors
variable {services : ExecutorServices} {context : ExecutorContext} {runtime : Json}

/-- Actions that say something about the runtime say it with keys that occur once. -/
def KeyedActions (services : ExecutorServices) : Prop :=
  ∀ connectorId actionId input secret result,
    services.performAction connectorId actionId input secret = .ok result →
      ∀ value ∈ result.runtime, Keyed value

theorem SameOverride.refl {override : Option Json} (keyed : ∀ value ∈ override, Keyed value) :
    SameOverride override override := ⟨keyed, keyed, fun _ _ => rfl⟩

theorem SameReply.refl {reply : Except String NodeResult}
    (keyed : ∀ result, reply = .ok result → ∀ value ∈ result.runtime, Keyed value) :
    SameReply reply reply := by
  cases reply with
  | error message => rfl
  | ok result => exact ⟨rfl, .refl (keyed result rfl)⟩

theorem clearPending_same (same : SameRuntime context.runtime runtime) :
    SameOverride (some (clearPending context.runtime)) (some (clearPending runtime)) := by
  have keyed {value : Json} (known : Keyed value) : Keyed (clearPending value) := by
    refine OrderedMap.nodup_keys_set ?_ ..
    cases value with
    | obj fields => exact known
    | _ => exact List.nodup_nil
  have fields (value : Json) (key : String) : (clearPending value).field? key =
      if key = "pendingRemoteResult" then some .null else value.field? key := by
    have set := OrderedMap.lookup_set (value.asObject.getD []) "pendingRemoteResult" key Json.null
    refine Eq.trans set ?_
    cases value <;> rfl
  refine ⟨?_, ?_, fun key other => ?_⟩
  · rintro value ⟨⟩
    exact keyed same.keyed
  · rintro value ⟨⟩
    exact keyed same.keyed'
  · rw [Option.bind_some, Option.bind_some, fields, fields, same.fields key other]

theorem resumeResult_same (same : SameRuntime context.runtime runtime) (pending : Json) :
    SameReply (.ok (resumeResult context pending))
      (.ok (resumeResult { context with runtime } pending)) := by
  unfold resumeResult
  dsimp only
  split
  · exact ⟨rfl, clearPending_same same⟩
  · exact ⟨rfl, clearPending_same same⟩
  · exact ⟨rfl, .refl nofun⟩

theorem resumeOr_same (same : SameRuntime context.runtime runtime)
    {dispatch : Except String NodeResult}
    (keyed : ∀ result, dispatch = .ok result → ∀ value ∈ result.runtime, Keyed value) :
    SameReply (resumeOr context dispatch) (resumeOr { context with runtime } dispatch) := by
  unfold resumeOr
  dsimp only
  split
  · split
    · exact resumeResult_same same _
    · exact .refl keyed
  · exact .refl keyed

theorem connectorActionExecutor_same (keyed : KeyedActions services)
    (same : SameRuntime context.runtime runtime) (config : ConnectorActionConfig) :
    SameReply (connectorActionExecutor services context config)
      (connectorActionExecutor services { context with runtime } config) := by
  unfold connectorActionExecutor
  split
  · exact .refl fun result ok => by cases ok; exact nofun
  split
  · exact .refl fun result ok => by cases ok; exact nofun
  split
  · refine resumeOr_same same fun result ok => ?_
    cases secret : actionSecret services config.connectorId config.actionId config.secretId with
    | error message =>
      rw [secret] at ok
      cases ok
    | ok value =>
      rw [secret] at ok
      cases ok
      exact nofun
  · refine .refl fun result ok => ?_
    cases secret : actionSecret services config.connectorId config.actionId config.secretId with
    | error message =>
      rw [secret] at ok
      cases ok
    | ok value =>
      rw [secret] at ok
      exact keyed _ _ _ _ result ok

/-- What the community executors answer does not depend on the report of the graph. -/
theorem communityExecute_ignoresReport (keyed : KeyedActions services) :
    IgnoresReport (communityExecute services) := by
  intro context runtime same
  unfold communityExecute
  dsimp only
  cases context.node with
  | httpRequest | condition | parallelJoin => exact .refl fun result ok => by cases ok; exact nofun
  | agentRun id config =>
    refine resumeOr_same same fun result ok => ?_
    dsimp only at ok
    split at ok <;> cases ok <;> exact nofun
  | agentExecute id config =>
    unfold agentExecuteExecutor
    dsimp only
    split
    · exact resumeOr_same same fun result ok => by cases ok; exact nofun
    · exact .refl fun result ok => by cases ok; exact nofun
  | connectorAction id config => exact connectorActionExecutor_same keyed same config
  | connectorGithubIssueCreate id config => exact connectorActionExecutor_same keyed same _

end executors

/-! ### What the upgrade keeps -/

/-- Chains of nodes that both loops hand to their executors as they are. -/
structure Upgradable (dsl : WorkflowDsl) : Prop extends Chainable dsl where
  plain : ∀ node ∈ dsl.nodes,
    node.type ≠ .parallelJoin ∧ node.type ≠ .connectorGithubIssueCreate

theorem sameRuns_of_upgradable {dsl : WorkflowDsl} (schema : workflowDslSchema dsl)
    (upgradable : Upgradable dsl) : SameRuns dsl := by
  intro env answer d ignores i p p' resumes n
  have chainable := upgradable.toChainable
  have plain (node : WorkflowNode) (mem : node ∈ dsl.nodes) : Plain node :=
    ⟨chainable.unconditional node mem, upgradable.plain node mem⟩
  rw [performedFrom_list schema, performedFrom_graph (accepted_of_chainable schema chainable),
    resumes.steps]
  exact performedIn_same chainable (nonempty_ids schema) plain ignores resumes n

/-- The upgrade keeps validity, nodes and runs exactly for upgradable lists. -/
theorem upgrade_preserves_iff {dsl : WorkflowDsl} (schema : workflowDslSchema dsl) :
    (acceptedV3 (upgradeV2ToV3 dsl) ∧ (upgradeV2ToV3 dsl).nodes.length = dsl.nodes.length ∧
      SameRuns dsl) ↔ Upgradable dsl := by
  constructor
  · rintro ⟨accepted, count, same⟩
    have chainable := (accepted_iff_chainable schema).mp ⟨accepted, count⟩
    exact ⟨chainable, fun node mem => (plain_of_sameRuns schema chainable same node mem).2⟩
  · intro upgradable
    obtain ⟨accepted, count⟩ := (accepted_iff_chainable schema).mpr upgradable.toChainable
    exact ⟨accepted, count, sameRuns_of_upgradable schema upgradable⟩

namespace Sample

/-- A list of requests under the given ids. -/
def requests (ids : List String) : WorkflowDsl :=
  { trigger := .manual, nodes := ids.map fun id => .httpRequest id none }

end Sample

theorem upgrade_preserves_requests :
    acceptedV3 (upgradeV2ToV3 (Sample.requests ["a", "b"])) ∧
      (upgradeV2ToV3 (Sample.requests ["a", "b"])).nodes.length = 2 ∧
      SameRuns (Sample.requests ["a", "b"]) := by
  have chainable : Chainable (Sample.requests ["a", "b"]) := by
    refine ⟨?_, ?_, ?_, ?_, ?_⟩ <;> decide
  exact (upgrade_preserves_iff (by decide)).mpr ⟨chainable, by decide⟩

/-- Two nodes under one id become one. -/
theorem upgrade_merges : ¬∀ dsl : WorkflowDsl, workflowDslSchema dsl →
    acceptedV3 (upgradeV2ToV3 dsl) ∧ (upgradeV2ToV3 dsl).nodes.length = dsl.nodes.length ∧
      SameRuns dsl := by
  intro claim
  have count := (claim (Sample.requests ["a", "a"]) (by decide)).2.1
  exact absurd count (by decide)

end Vespid.Worker
