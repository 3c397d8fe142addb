import Vespid.Db.WorkflowRuns
import Mathlib.Data.List.Sort

/-!
# The v3 graph loop

What the worker computes between two statements of its graph loop: which edges are
satisfied, which nodes are ready, the result of a condition, and the explanation of the
graph kept in the run's runtime.
-/

namespace Vespid.Worker

open Workflow

/-- `stepByNodeId`: the last step recorded under each node id. -/
abbrev StepMap := List (String × WorkflowExecutionStep)

namespace StepMap

def ofSteps (steps : List WorkflowExecutionStep) : StepMap :=
  steps.foldl (fun m step => OrderedMap.set m step.nodeId step) []

def has (m : StepMap) (nodeId : String) : Bool := (m.lookup nodeId).isSome

def hasSucceeded (m : StepMap) (nodeId : String) : Bool :=
  (m.lookup nodeId).any fun step => step.status = .succeeded

/-- The boolean `result` of an output that is an object. -/
def resultOf (output : Option Json) : Option Bool :=
  match output.bind (·.field? "result") with
  | some (.bool b) => some b
  | _ => none

def getConditionResult (m : StepMap) (nodeId : String) : Option Bool :=
  (m.lookup nodeId).bind fun step => if step.status = .succeeded then resultOf step.output else none

end StepMap

/-! ### Readiness -/

inductive EdgeReason where
  | ok | upstreamNotSucceeded | conditionResultMissing | conditionNotMet
  deriving DecidableEq

def EdgeReason.literal : EdgeReason → String
  | ok => "OK"
  | upstreamNotSucceeded => "UPSTREAM_NOT_SUCCEEDED"
  | conditionResultMissing => "CONDITION_RESULT_MISSING"
  | conditionNotMet => "CONDITION_NOT_MET"

/-- The reason code of an edge; it is satisfied where the code is `OK`. -/
def edgeStatus (m : StepMap) (edge : WorkflowEdgeV3) : EdgeReason :=
  if !m.hasSucceeded edge.from then .upstreamNotSucceeded
  else match edge.kindOrAlways with
    | .always => .ok
    | .condTrue =>
      match m.getConditionResult edge.from with
      | none => .conditionResultMissing
      | some cond => if cond = true then .ok else .conditionNotMet
    | .condFalse =>
      match m.getConditionResult edge.from with
      | none => .conditionResultMissing
      | some cond => if cond = false then .ok else .conditionNotMet

def satisfied (m : StepMap) (edge : WorkflowEdgeV3) : Bool := edgeStatus m edge = .ok

def nodeReady (dsl : WorkflowDslV3) (m : StepMap) (nodeId : String) : Bool :=
  !m.has nodeId && (dsl.incoming nodeId).all (satisfied m)

/-- `ids.sort((a, b) => a.localeCompare(b))` -/
def sortIds (js : JsRuntime) (ids : List String) : List String :=
  ids.insertionSort fun a b => js.localeCompare a b ≠ .gt

def readyNodes (js : JsRuntime) (dsl : WorkflowDslV3) (m : StepMap) : List String :=
  sortIds js (dsl.nodeIds.filter (nodeReady dsl m))

/-- The node the loop takes next: the first ready one. -/
def pickNode (js : JsRuntime) (dsl : WorkflowDslV3) (m : StepMap) : Option (String × WorkflowNode) :=
  match readyNodes js dsl m with
  | [] => none
  | nodeId :: _ => if nodeId = "" then none else (dsl.node? nodeId).map (nodeId, ·)

/-! ### Condition and join nodes -/

/-- `actual.includes(value)` for an array. -/
def arrayIncludes (items : List Json) (value : Option Json) : Bool :=
  items.any fun item => (JsValue.json item).strictEq value

def getInputValueByPath (js : JsRuntime) (input : Json) (rawPath : String) : JsValue :=
  let path := if startsWith rawPath "$." then rawPath.toList.drop 2 else rawPath.toList
  let parts := (splitChars (· == '.') path).filter fun part => part ≠ []
  parts.foldl
    (fun current part =>
      if current.isObject then current.property js (String.ofList part) else .undefined)
    (.json input)

/-- The operand of a numeric comparison: a number as it is, anything else through `Number`. -/
def toNumber (js : JsRuntime) : JsValue → Option Rat
  | .json (.num n) => some n
  | v => js.number v

def evalCondition (js : JsRuntime) (config : ConditionConfig) (actual : JsValue) : Bool :=
  let compare (holds : Rat → Rat → Bool) :=
    match toNumber js actual, toNumber js (config.value.elim .undefined .json) with
    | some a, some b => holds a b
    | _, _ => false
  match config.op with
  | .exists =>
    match actual with
    | .undefined | .json .null => false
    | _ => true
  | .eq => actual.strictEq config.value
  | .neq => !actual.strictEq config.value
  | .contains =>
    match actual, config.value with
    | .json (.str s), some (.str part) => occursIn part.toList s.toList
    | .json (.arr items), value => arrayIncludes items value
    | _, _ => false
  | .gt => compare fun a b => a > b
  | .gte => compare fun a b => a ≥ b
  | .lt => compare fun a b => a < b
  | .lte => compare fun a b => a ≤ b

def conditionOutput (js : JsRuntime) (config : ConditionConfig) (runInput : Option Json) : Json :=
  let actual := getInputValueByPath js (runInput.getD .null) config.path
  .obj [("result", .bool (evalCondition js config actual)),
    ("explain", .obj [("path", .str config.path), ("op", .str config.op.literal),
      ("expected", config.value.getD .null), ("actualPresent", .bool (!actual.isUndefined)),
      ("actualType", .str actual.typeName)])]

def joinOutput (dsl : WorkflowDslV3) (m : StepMap) (nodeId : String) : Json :=
  let incoming := dsl.incoming nodeId
  .obj [("joined", .bool true), ("requiredIncoming", .num incoming.length),
    ("satisfiedIncoming", .num (incoming.countP (satisfied m))),
    ("incomingFrom", .arr (incoming.map fun e => .str e.from))]

/-! ### The explanation of the graph -/

/-- An incoming edge with its status. -/
structure EdgeReport where
  «from» : String
  kind : EdgeKind
  reasonCode : EdgeReason
  deriving DecidableEq

def reportEdge (m : StepMap) (edge : WorkflowEdgeV3) : EdgeReport :=
  { «from» := edge.from, kind := edge.kindOrAlways, reasonCode := edgeStatus m edge }

def EdgeReport.toJson (r : EdgeReport) : Json :=
  .obj [("from", .str r.from), ("kind", .str r.kind.literal),
    ("satisfied", .bool (r.reasonCode = .ok)), ("reasonCode", .str r.reasonCode.literal)]

def EdgeReport.blockerJson (r : EdgeReport) : Json :=
  .obj [("from", .str r.from), ("kind", .str r.kind.literal),
    ("reasonCode", .str r.reasonCode.literal)]

/-- The unsatisfied incoming edges of a node. -/
def blockers (dsl : WorkflowDslV3) (m : StepMap) (nodeId : String) : List EdgeReport :=
  ((dsl.incoming nodeId).map (reportEdge m)).filter fun r => r.reasonCode ≠ .ok

def skipReason (blockers : List EdgeReport) : String :=
  if blockers.length > 0 then "DEPENDENCIES_NOT_SATISFIED" else "NOT_REACHED"

/-- The skipped nodes with the edges that kept them from running. -/
def skippedNodes (js : JsRuntime) (dsl : WorkflowDslV3) (m : StepMap) :
    List (String × List EdgeReport) :=
  ((sortIds js dsl.nodeIds).filter fun id => !m.has id).map fun id => (id, blockers dsl m id)

def skippedJson (skipped : List (String × List EdgeReport)) : Json :=
  .obj (skipped.map fun entry => (entry.1,
    .obj [("reasonCode", .str (skipReason entry.2)),
      ("blockers", .arr (entry.2.map EdgeReport.blockerJson))]))

def conditionEntries (dsl : WorkflowDslV3) (m : StepMap) : List (String × Json) :=
  (m.filter fun entry => entry.2.nodeType = .condition && entry.2.status = .succeeded).map
    fun entry =>
      let config := match dsl.node? entry.1 with
        | some (.condition _ config) => config
        | _ => none
      (entry.1, .obj [
        ("result", (StepMap.resultOf entry.2.output).elim .null .bool),
        ("path", config.elim .null fun c => .str c.path),
        ("op", config.elim .null fun c => .str c.op.literal),
        ("expected", (config.bind (·.value)).getD .null)])

def joinEntries (dsl : WorkflowDslV3) (m : StepMap) : List (String × Json) :=
  (dsl.nodes.filter fun entry => entry.2.type = .parallelJoin).map fun entry =>
    let statuses := (dsl.incoming entry.1).map (reportEdge m)
    (entry.1, .obj [
      ("requiredIncoming", .num statuses.length),
      ("satisfiedIncoming", .num (statuses.countP fun r => r.reasonCode = .ok)),
      ("incoming", .arr (statuses.map EdgeReport.toJson))])

def snapshotGraphV3Runtime (js : JsRuntime) (dsl : WorkflowDslV3)
    (steps : List WorkflowExecutionStep) (m : StepMap) (includeSkipped : Bool) : Json :=
  .obj ([
    ("completedNodeIds", .arr ((steps.filter fun s => s.status = .succeeded).map
      fun s => .str s.nodeId)),
    ("readyNodeIds", .arr ((readyNodes js dsl m).map .str)),
    ("conditions", .obj (conditionEntries dsl m)),
    ("joins", .obj (joinEntries dsl m))] ++
    if includeSkipped then [("skipped", skippedJson (skippedNodes js dsl m))] else [])

end Vespid.Worker
