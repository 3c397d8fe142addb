import Vespid.Workflow.Dsl

/-!
# Constraints on v3 graphs

`validateV3GraphConstraints`: existing endpoints and distinct edge ids, the out-edges of
condition nodes, a count of the nodes reached in topological order, and remote nodes inside
parallel regions. The loops that drain a queue or a stack run on fuel; every node enters
either at most once, so the fuel given is enough.
-/

namespace Vespid.Workflow

/-- Whether a node leaves the worker and comes back with a remote result. -/
def isRemoteExecutionMode : WorkflowNode → Bool
  | .agentExecute _ config =>
    ((config.bind (·.execution)).map (·.mode)).getD .executor == .executor
  | .agentRun .. => true
  | .connectorAction _ config => (config.execution.map (·.mode)).getD .cloud == .executor
  | _ => false

inductive ValidationCode where
  | graphNodeMissing | graphEdgeInvalid | graphCycleDetected | conditionEdgeConstraints
  | parallelRemoteNotSupported
  deriving DecidableEq

def ValidationCode.literal : ValidationCode → String
  | graphNodeMissing => "GRAPH_NODE_MISSING"
  | graphEdgeInvalid => "GRAPH_EDGE_INVALID"
  | graphCycleDetected => "GRAPH_CYCLE_DETECTED"
  | conditionEdgeConstraints => "CONDITION_EDGE_CONSTRAINTS"
  | parallelRemoteNotSupported => "PARALLEL_REMOTE_NOT_SUPPORTED"

structure ValidationIssue where
  code : ValidationCode
  message : String
  nodeId : Option String := none
  edgeId : Option String := none
  deriving DecidableEq

/-- The edge loop: `edgeIds` are the ids seen so far. -/
def checkEdges (nodeIds edgeIds : List String) : List WorkflowEdgeV3 → Option ValidationIssue
  | [] => none
  | edge :: rest =>
    if edge.id ∈ edgeIds then
      some { code := .graphEdgeInvalid, message := "Duplicate edge id: " ++ edge.id,
             edgeId := some edge.id }
    else if ¬(edge.from ∈ nodeIds ∧ edge.to ∈ nodeIds) then
      some { code := .graphEdgeInvalid,
             message := "Edge must connect existing nodes: " ++ edge.id, edgeId := some edge.id }
    else checkEdges nodeIds (edge.id :: edgeIds) rest

/-- The check of one node's out-edges, for condition nodes. -/
def checkConditionEdges (dsl : WorkflowDslV3) (entry : String × WorkflowNode) :
    Option ValidationIssue :=
  if entry.2.type ≠ .condition then none
  else
    let out := dsl.outgoing entry.1
    let kinds := out.map (·.kindOrAlways)
    let trueCount := kinds.count .condTrue
    let falseCount := kinds.count .condFalse
    let other := kinds.countP fun k => k ≠ .condTrue && k ≠ .condFalse
    if trueCount ≠ 1 ∨ falseCount ≠ 1 ∨ other ≠ 0 ∨ out.length ≠ 2 then
      some { code := .conditionEdgeConstraints,
             message := "Condition node " ++ entry.1 ++
               " must have exactly one cond_true and one cond_false outgoing edge",
             nodeId := some entry.1 }
    else none

/-! ### Topological count -/

abbrev InDegree := List (String × Int)

def initialInDegree (dsl : WorkflowDslV3) : InDegree :=
  dsl.edges.foldl (fun deg edge => OrderedMap.set deg edge.to ((deg.lookup edge.to).getD 0 + 1))
    (dsl.nodeIds.map fun id => (id, 0))

/-- One edge out of a visited node: its target joins the queue when its count reaches zero. -/
def relaxEdge (acc : InDegree × List String) (edge : WorkflowEdgeV3) : InDegree × List String :=
  let deg := (acc.1.lookup edge.to).getD 0 - 1
  (OrderedMap.set acc.1 edge.to deg, if deg = 0 then acc.2 ++ [edge.to] else acc.2)

/-- `while (queue.length > 0)`: the number of visited nodes. -/
def visitAll (dsl : WorkflowDslV3) : Nat → InDegree → List String → Nat
  | 0, _, _ => 0
  | _, _, [] => 0
  | fuel + 1, inDegree, id :: queue =>
    let relaxed := (dsl.outgoing id).foldl relaxEdge (inDegree, queue)
    visitAll dsl fuel relaxed.1 relaxed.2 + 1

def initialQueue (inDegree : InDegree) : List String :=
  (inDegree.filter fun entry => entry.2 = 0).map Prod.fst

def visitedCount (dsl : WorkflowDslV3) : Nat :=
  visitAll dsl dsl.nodes.length (initialInDegree dsl) (initialQueue (initialInDegree dsl))

/-! ### Remote nodes in parallel regions -/

/-- Drain `stack` (top first), adding to `seen` what `next` leads to. -/
def search (next : String → List String) : Nat → List String → List String → List String
  | 0, seen, _ => seen
  | _, seen, [] => seen
  | fuel + 1, seen, current :: stack =>
    let found := (next current).foldl
      (fun acc id => if id ∈ acc.1 then acc else (acc.1 ++ [id], id :: acc.2)) (seen, stack)
    search next fuel found.1 found.2

def computeCanReach (dsl : WorkflowDslV3) (targetId : String) : List String :=
  search (fun id => (dsl.incoming id).map (·.from)) (dsl.nodes.length + 1) [] [targetId]

def computeReachableFrom (dsl : WorkflowDslV3) (startId : String) : List String :=
  search (fun id => (dsl.outgoing id).map (·.to)) (dsl.nodes.length + 1) [startId] [startId]

def remoteIssue (nodeId : String) : ValidationIssue :=
  { code := .parallelRemoteNotSupported
    message := "Remote execution is not supported inside parallel regions in v3 MVP (node " ++
      nodeId ++ ")"
    nodeId := some nodeId }

/-- The nodes other than the join on a branch from `edge` to it that run remotely. -/
def remoteOnBranch (dsl : WorkflowDslV3) (joinId : String) (canReachJoin : List String)
    (edge : WorkflowEdgeV3) : Option ValidationIssue :=
  (computeReachableFrom dsl edge.to).findSome? fun nodeId =>
    if nodeId = joinId then none
    else if nodeId ∉ canReachJoin then none
    else match dsl.node? nodeId with
      | some node => if isRemoteExecutionMode node then some (remoteIssue nodeId) else none
      | none => none

def checkParallelRegions (dsl : WorkflowDslV3) : Option ValidationIssue :=
  (dsl.nodes.filter fun entry => entry.2.type = .parallelJoin).findSome? fun join =>
    let canReachJoin := computeCanReach dsl join.1
    canReachJoin.findSome? fun rootId =>
      let alwaysEdges := (dsl.outgoing rootId).filter fun e => e.kindOrAlways = .always
      if alwaysEdges.length < 2 then none
      else alwaysEdges.findSome? (remoteOnBranch dsl join.1 canReachJoin)

/-- The issue the validator reports, or none where it answers ok. -/
def validateV3GraphConstraints (dsl : WorkflowDslV3) : Option ValidationIssue :=
  if dsl.nodes.isEmpty then
    some { code := .graphNodeMissing, message := "Graph must include at least one node" }
  else match checkEdges dsl.nodeIds [] dsl.edges with
    | some issue => some issue
    | none => match dsl.nodes.findSome? (checkConditionEdges dsl) with
      | some issue => some issue
      | none =>
        if visitedCount dsl ≠ dsl.nodes.length then
          some { code := .graphCycleDetected
                 message := "Graph must be a DAG (cycles are not supported in v3 MVP)" }
        else checkParallelRegions dsl

/-- A v3 workflow the worker accepts: its schema and the graph constraints. -/
def acceptedV3 (dsl : WorkflowDslV3) : Prop :=
  workflowDslV3Schema dsl = true ∧ validateV3GraphConstraints dsl = none

instance (dsl : WorkflowDslV3) : Decidable (acceptedV3 dsl) :=
  inferInstanceAs (Decidable (_ ∧ _))

end Vespid.Workflow
