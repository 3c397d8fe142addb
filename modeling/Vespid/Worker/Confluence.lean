import Vespid.Run.System
import Vespid.Worker.Semantics

/-!
# What a graph run leaves behind

The steps of an attempt that has ended are those of the nodes to be executed, in an order that
respects the edges, and the runtime explains the others. How the loop breaks ties does not
matter as long as the results its edges ask for do not depend on when their node has run.
-/

namespace Vespid.Worker

open Workflow Interleaving Readiness

/-- The incoming edges of a node that recorded steps leave unsatisfied. -/
def unsatisfied (dsl : WorkflowDslV3) (steps : List WorkflowExecutionStep) (key : String) :
    List WorkflowEdgeV3 :=
  (dsl.incoming key).filter fun e =>
    ¬(e.from ∈ steps.map (·.nodeId) ∧ Met e.kindOrAlways (resultIn steps e.from))

/-- `graphV3.skipped` of a run's runtime. -/
def skippedOf (output : WorkflowExecutionResult) : Option Json :=
  (output.runtime.bind (·.field? "graphV3")).bind (·.field? "skipped")

/-- The output of a run that has executed its graph. -/
structure Executed (dsl : WorkflowDslV3) (output : WorkflowExecutionResult) : Prop where
  succeeded : ∀ step ∈ output.steps, step.status = .succeeded
  once : (output.steps.map (·.nodeId)).Nodup
  executed : ∀ key, key ∈ output.steps.map (·.nodeId) ↔
    Executes dsl (resultIn output.steps) key
  ordered : ∀ before step after, output.steps = before ++ step :: after →
    ∀ e ∈ dsl.incoming step.nodeId, e.from ∈ before.map (·.nodeId)
  skipped : ∃ skipped, skippedOf output = some (skippedJson skipped) ∧
    (skipped.map Prod.fst).Nodup ∧
    (∀ key, key ∈ skipped.map Prod.fst ↔
      key ∈ dsl.nodeIds ∧ ¬Executes dsl (resultIn output.steps) key) ∧
    ∀ entry ∈ skipped, (entry.2.map fun r => (r.from, r.kind)) =
      (unsatisfied dsl output.steps entry.1).map fun e => (e.from, e.kindOrAlways)

/-- A condition node, or one with an edge out of it that asks for its result. -/
def Conditional (dsl : WorkflowDslV3) (key : String) : Prop :=
  (∃ config, dsl.node? key = some (.condition key config)) ∨
    ∃ e ∈ dsl.outgoing key, e.kindOrAlways ≠ .always

/-- Two outputs of one graph that differ in the order of their nodes only. -/
structure Agree (dsl : WorkflowDslV3) (output output' : WorkflowExecutionResult) : Prop where
  steps : (output.steps.map (·.nodeId)).Perm (output'.steps.map (·.nodeId))
  results : ∀ key, Conditional dsl key →
    resultIn output.steps key = resultIn output'.steps key
  skipped : ∃ skipped skipped', skippedOf output = some (skippedJson skipped) ∧
    skippedOf output' = some (skippedJson skipped') ∧ skipped.Perm skipped'

/-- Where an edge asks for the result of an executor's node, the executor gives that node one
result, whenever it runs it. -/
def Determined (dsl : WorkflowDslV3)
    (outcomes : ExecutorContext → Except String NodeResult → Prop) : Prop :=
  ∀ key node, dsl.node? key = some node → (∃ e ∈ dsl.outgoing key, e.kindOrAlways ≠ .always) →
    node.type ≠ .condition → node.type ≠ .parallelJoin →
    ∀ context context' result result', context.node = node → context'.node = node →
      outcomes context (.ok result) → outcomes context' (.ok result') →
      StepMap.resultOf result.output = StepMap.resultOf result'.output

/-- The environment with another collation. -/
def withCompare (env : RunEnv) (localeCompare : String → String → Ordering) : RunEnv :=
  { env with js := { env.js with localeCompare } }

variable {env : RunEnv} {outcomes : ExecutorContext → Except String NodeResult → Prop}
  {dsl : WorkflowDslV3} {m m' : StepMap} {p p' : Progress} {d d' : Delivery}
  {output output' : WorkflowExecutionResult} {steps steps' : List WorkflowExecutionStep}
  {compare : String → String → Ordering} {key : String}

/-! ### The skipped map -/

/-- A field the override sets is read back. -/
theorem field?_mergeRuntime (base value : Json) (name : String) :
    (mergeRuntime base (some (.obj [(name, value)]))).field? name = some value := by
  cases base with
  | obj fields => exact OrderedMap.lookup_merge_append_single fields [] name value
  | _ => exact List.lookup_cons_self

theorem truthy_mergeRuntime (base : Json) (fields : List (String × Json)) :
    (mergeRuntime base (some (.obj fields))).truthy := by
  cases base <;> rfl

theorem skippedOf_graphOutput :
    skippedOf (graphOutput env dsl m p) = some (skippedJson (skippedNodes env.js dsl m)) := by
  unfold skippedOf graphOutput buildProgressOutput
  rw [if_pos (truthy_mergeRuntime _ _), Option.bind_some, field?_mergeRuntime, Option.bind_some]
  simp [snapshotGraphV3Runtime, List.lookup_cons]

theorem skippedNodes_keys (js : JsRuntime) : (skippedNodes js dsl m).map Prod.fst =
    (sortIds js dsl.nodeIds).filter fun id => !m.has id := by
  unfold skippedNodes
  rw [List.map_map]
  exact List.map_id _

theorem mem_sortIds (js : JsRuntime) {ids : List String} : key ∈ sortIds js ids ↔ key ∈ ids := by
  simp [sortIds, List.mem_insertionSort]

theorem Taken.blocked (taken : Taken env outcomes dsl m steps) (key : String) :
    ((blockers dsl m key).map fun r => (r.from, r.kind)) =
      (unsatisfied dsl steps key).map fun e => (e.from, e.kindOrAlways) := by
  unfold Worker.blockers unsatisfied
  rw [List.filter_map, List.map_map]
  have same : (dsl.incoming key).filter ((fun r => decide (r.reasonCode ≠ .ok)) ∘ reportEdge m) =
      (dsl.incoming key).filter fun e =>
        ¬(e.from ∈ steps.map (·.nodeId) ∧ Met e.kindOrAlways (resultIn steps e.from)) := by
    refine List.filter_congr fun e _ => ?_
    refine decide_eq_decide.mpr (not_congr ?_)
    rw [← taken.satisfied_iff e]
    simp [reportEdge, satisfied]
  rw [same]
  rfl

/-- The output of an attempt that has ended. -/
theorem Taken.executed (taken : Taken env outcomes dsl m p.steps)
    (schema : workflowDslV3Schema dsl) (ended : pickNode env.js dsl m = none) :
    Executed dsl (graphOutput env dsl m p) := by
  have executes := taken.executes schema ended
  refine ⟨?_, taken.worked.nodup, executes, ?_, skippedNodes env.js dsl m,
    skippedOf_graphOutput, ?_, ?_, ?_⟩
  · intro step mem
    exact taken.succeeded step mem
  · intro before step after split e edge
    have order : p.steps.map (·.nodeId) =
        before.map (·.nodeId) ++ step.nodeId :: after.map (·.nodeId) := by
      have split : p.steps = before ++ step :: after := split
      rw [split]
      simp
    exact taken.worked.needs_before order _ (List.mem_map_of_mem edge)
  · rw [skippedNodes_keys]
    have sorted : (sortIds env.js dsl.nodeIds).Nodup :=
      (List.perm_insertionSort _ _).nodup_iff.mpr dsl.keysDistinct
    exact sorted.filter _
  · intro key
    rw [skippedNodes_keys, List.mem_filter, mem_sortIds]
    refine and_congr_right fun _ => ?_
    have := (taken.has_iff key).trans (executes key)
    simp only [Bool.not_eq_true', ← Bool.not_eq_true]
    exact not_congr this
  · intro entry mem
    obtain ⟨key, -, rfl⟩ := List.mem_map.mp mem
    exact taken.blocked key

/-! ### Ties -/

theorem resultOf_joinOutput : StepMap.resultOf (some (joinOutput dsl m key)) = none := by
  simp [StepMap.resultOf, joinOutput, List.lookup_cons]

theorem Taken.node (taken : Taken env outcomes dsl m steps)
    (mem : key ∈ steps.map (·.nodeId)) : ∃ node m' step, dsl.node? key = some node ∧
      StepOf env dsl m' outcomes node step ∧
      resultIn steps key = StepMap.resultOf step.output := by
  obtain ⟨step, here, rfl⟩ := List.mem_map.mp mem
  obtain ⟨node, m', found, of⟩ := taken.nodes step here
  exact ⟨node, m', step, found, of, taken.toRecorded.result here⟩

/-- Two outputs of one node have the same result. -/
theorem resultOf_outputOf {node : WorkflowNode} {o o' : Option Json}
    (of : OutputOf env dsl m outcomes node o)
    (of' : OutputOf (withCompare env compare) dsl m' outcomes node o')
    (determined : node.type ≠ .condition → node.type ≠ .parallelJoin →
      ∀ context context' result result', context.node = node → context'.node = node →
        outcomes context (.ok result) → outcomes context' (.ok result') →
        StepMap.resultOf result.output = StepMap.resultOf result'.output) :
    StepMap.resultOf o = StepMap.resultOf o' := by
  cases node with
  | condition id config =>
    obtain ⟨c, rfl, rfl⟩ := of
    obtain ⟨c', same, rfl⟩ := of'
    obtain rfl := Option.some.inj same
    rfl
  | parallelJoin id config =>
    have o : o = some _ := of
    have o' : o' = some _ := of'
    rw [o, o', resultOf_joinOutput, resultOf_joinOutput]
  | _ =>
    obtain ⟨context, result, answered, here, -, rfl⟩ := of
    obtain ⟨context', result', answered', here', -, rfl⟩ := of'
    exact determined (by intro type; cases type) (by intro type; cases type)
      _ _ _ _ here here' answered answered'

section ties
variable (determined : Determined dsl outcomes) (keys : dsl.KeysAreIds)
  (taken : Taken env outcomes dsl m steps)
  (taken' : Taken (withCompare env compare) outcomes dsl m' steps')
include determined taken taken'

theorem result_agrees (conditional : Conditional dsl key) (mem : key ∈ steps.map (·.nodeId))
    (mem' : key ∈ steps'.map (·.nodeId)) : resultIn steps key = resultIn steps' key := by
  obtain ⟨node, m₁, step, found, of, result⟩ := taken.node mem
  obtain ⟨node', m₂, step', found', of', result'⟩ := taken'.node mem'
  obtain rfl := Option.some.inj (found.symm.trans found')
  rw [result, result']
  refine resultOf_outputOf of.output of'.output fun notCondition notJoin => ?_
  rcases conditional with ⟨config, same⟩ | asked
  · rw [found] at same
    obtain rfl := Option.some.inj same
    exact (notCondition rfl).elim
  · exact determined key node found asked notCondition notJoin

/-- The nodes to be executed do not depend on the order in which their results came about. -/
theorem executes_agrees (executes : ∀ key, key ∈ steps.map (·.nodeId) ↔
      Executes dsl (resultIn steps) key)
    (executes' : ∀ key, key ∈ steps'.map (·.nodeId) ↔ Executes dsl (resultIn steps') key)
    (reached : Executes dsl (resultIn steps) key) : Executes dsl (resultIn steps') key := by
  have both : Executes dsl (resultIn steps) key ∧ Executes dsl (resultIn steps') key := by
    refine Reached.least (S := fun key =>
      Executes dsl (resultIn steps) key ∧ Executes dsl (resultIn steps') key) reached ?_
    intro n listed opens sources
    refine ⟨.intro listed opens fun s mem => (sources s mem).1,
      .intro listed ?_ fun s mem => (sources s mem).2⟩
    intro e edge
    by_cases kind : e.kindOrAlways = .always
    · rw [kind]
      trivial
    · have source := sources e.from (List.mem_map_of_mem edge)
      have asked : Conditional dsl e.from := by
        refine .inr ⟨e, ?_, kind⟩
        have := List.mem_filter.mp edge
        exact List.mem_filter.mpr ⟨this.1, by simp⟩
      rw [← result_agrees determined taken taken' asked ((executes _).mpr source.1)
        ((executes' _).mpr source.2)]
      exact opens e edge
  exact both.2

end ties

/-- The collation enters the outputs of a graph only through the order of its nodes. -/
theorem Taken.agree (determined : Determined dsl outcomes)
    (taken : Taken env outcomes dsl m p.steps)
    (taken' : Taken (withCompare env compare) outcomes dsl m' p'.steps)
    (schema : workflowDslV3Schema dsl) (ended : pickNode env.js dsl m = none)
    (ended' : pickNode (withCompare env compare).js dsl m' = none) :
    Agree dsl (graphOutput env dsl m p) (graphOutput (withCompare env compare) dsl m' p') := by
  have executes := taken.executes schema ended
  have executes' := taken'.executes schema ended'
  have same (key : String) : key ∈ p.steps.map (·.nodeId) ↔ key ∈ p'.steps.map (·.nodeId) := by
    rw [executes, executes']
    have back : Taken (withCompare (withCompare env compare) env.js.localeCompare) outcomes dsl m
        p.steps := taken
    exact ⟨executes_agrees determined taken taken' executes executes',
      executes_agrees determined taken' back executes' executes⟩
  have results (key : String) (conditional : Conditional dsl key) :
      resultIn p.steps key = resultIn p'.steps key := by
    by_cases mem : key ∈ p.steps.map (·.nodeId)
    · exact result_agrees determined taken taken' conditional mem ((same key).mp mem)
    · have absent {steps : List WorkflowExecutionStep} (no : key ∉ steps.map (·.nodeId)) :
          resultIn steps key = none := by
        have missing := mt (StepMap.has_ofSteps steps key).mp no
        rw [StepMap.has, Bool.not_eq_true, Option.isSome_eq_false_iff, Option.isNone_iff_eq_none]
          at missing
        rw [resultIn, StepMap.getConditionResult, missing]
        rfl
      rw [absent mem, absent (mt (same key).mpr mem)]
  have has (key : String) : m.has key = m'.has key := by
    rw [Bool.eq_iff_iff, taken.has_iff, taken'.has_iff]
    exact same key
  have status (e : WorkflowEdgeV3) (edge : e ∈ dsl.edges) : edgeStatus m e = edgeStatus m' e := by
    have succeeded : m.hasSucceeded e.from = m'.hasSucceeded e.from := by
      rw [Bool.eq_iff_iff, taken.hasSucceeded, taken'.hasSucceeded]
      exact same e.from
    unfold edgeStatus
    rw [succeeded]
    by_cases kind : e.kindOrAlways = .always
    · rw [kind]
    · have asked : Conditional dsl e.from := .inr ⟨e, List.mem_filter.mpr ⟨edge, by simp⟩, kind⟩
      have result : m.getConditionResult e.from = m'.getConditionResult e.from := by
        rw [taken.map, taken'.map]
        exact results e.from asked
      rw [result]
  have blocked (key : String) : blockers dsl m key = blockers dsl m' key := by
    unfold Worker.blockers
    congr 1
    refine List.map_congr_left fun e edge => ?_
    rw [reportEdge, reportEdge, status e (List.mem_filter.mp edge).1]
  refine ⟨?_, results, _, _, skippedOf_graphOutput, skippedOf_graphOutput, ?_⟩
  · exact (List.perm_ext_iff_of_nodup taken.worked.nodup taken'.worked.nodup).mpr same
  · unfold skippedNodes
    have sorted : (sortIds env.js dsl.nodeIds).Perm
        (sortIds (withCompare env compare).js dsl.nodeIds) :=
      (List.perm_insertionSort _ _).trans (List.perm_insertionSort _ _).symm
    have alike : (fun id => (id, blockers dsl m id)) = fun id => (id, blockers dsl m' id) := by
      funext id
      rw [blocked]
    have left : (fun id => !m.has id) = fun id => !m'.has id := by
      funext id
      rw [has]
    rw [alike, left]
    exact (sorted.filter _).map _

/-- What an attempt over an accepted graph leaves behind where it completes, and that it does
not depend on the collation where the edges ask for determined results only. -/
theorem graph_semantics (accepted : acceptedV3 dsl) (keys : dsl.KeysAreIds)
    (attempt : GraphAttempt env outcomes dsl m p) (completed : Completes env d dsl m p output) :
    Executed dsl output ∧ ∀ compare d' m' p' output', Determined dsl outcomes →
      GraphAttempt (withCompare env compare) outcomes dsl m' p' →
      Completes (withCompare env compare) d' dsl m' p' output' → Agree dsl output output' := by
  obtain ⟨schema, -⟩ := accepted
  have taken := attempt.taken keys
  obtain ⟨ended, rfl⟩ := completed.output
  refine ⟨taken.executed schema ended, ?_⟩
  intro compare d' m' p' output' determined attempt' completed'
  obtain ⟨ended', rfl⟩ := completed'.output
  exact taken.agree determined (attempt'.taken keys) schema ended ended'

/-! ### Sample attempts -/

namespace Sample

def delivery : Delivery :=
  { attemptCount := 1, organizationSettings := .null, policyRules := [] }

/-- `n` iterations over a graph. -/
def attempt (env : RunEnv) (exec : ExecutorContext → NodeResult) (dsl : WorkflowDslV3) :
    Nat → Option (StepMap × Progress)
  | 0 => some ([], { steps := [], runtime := .null })
  | n + 1 => (attempt env exec dsl n).bind fun mp =>
    match (graphIteration env delivery dsl mp.1 mp.2).valueWith (replies fun context => .ok (exec context)) with
    | .inl (.v3 _ _ m p) => some (m, p)
    | _ => none

/-- An attempt that ends has its output in the row. -/
theorem completes_of_ended (exec : ExecutorContext → NodeResult)
    (ended : pickNode env.js dsl m = none) :
    Completes env d dsl m p (graphOutput env dsl m p) := by
  refine ⟨_, _, Program.runs_with (replies fun context => .ok (exec context)) _, ?_⟩
  unfold graphIteration
  rw [ended]
  simp only [finishGraph, Program.traceWith_bind]
  simp [succeedAttempt, appendEvent, Program.traceWith, graphOutput]

variable {exec : ExecutorContext → NodeResult}

theorem graphAttempt {n : Nat} (reached : attempt env exec dsl n = some (m, p)) :
    GraphAttempt env (fun context answer => answer = .ok (exec context)) dsl m p := by
  induction n generalizing m p with
  | zero =>
    obtain ⟨rfl, rfl⟩ := Prod.mk.inj (Option.some.inj reached)
    exact .start
  | succ n ih =>
    obtain ⟨⟨m₁, p₁⟩, before, reached⟩ := Option.bind_eq_some_iff.mp reached
    have run := Program.runs_with (replies fun context => .ok (exec context)) (graphIteration env delivery dsl m₁ p₁)
    have answered := answeredBy_replies (fun context => .ok (exec context))
      (graphIteration env delivery dsl m₁ p₁)
    split at reached
    · rename_i value
      obtain ⟨rfl, rfl⟩ := Prod.mk.inj (Option.some.inj reached)
      rw [value] at run
      obtain ⟨_, _, _, _, _, same, _⟩ := run.returns graphIteration_returns answered
      obtain ⟨rfl, rfl, -, -⟩ := NodeLoop.v3.inj same
      exact .next (ih before) run answered
    · cases reached

/-- The ids of the steps of an attempt that ends after `n` iterations. -/
def ids (env : RunEnv) (exec : ExecutorContext → NodeResult) (dsl : WorkflowDslV3) (n : Nat) :
    Option (List String) :=
  (attempt env exec dsl n).bind fun mp =>
    if (pickNode env.js dsl mp.1).isNone then some (mp.2.steps.map (·.nodeId)) else none

theorem completes_of_ids {n : Nat} {nodeIds : List String}
    (ended : ids env exec dsl n = some nodeIds) : ∃ m p, GraphAttempt env
      (fun context answer => answer = .ok (exec context)) dsl m p ∧
      Completes env delivery dsl m p (graphOutput env dsl m p) ∧
      (graphOutput env dsl m p).steps.map (·.nodeId) = nodeIds := by
  obtain ⟨⟨m, p⟩, reached, ended⟩ := Option.bind_eq_some_iff.mp ended
  split at ended
  · rename_i none
    refine ⟨m, p, graphAttempt reached, ?_, Option.some.inj ended⟩
    exact completes_of_ended exec (Option.isNone_iff_eq_none.mp none)
  · cases ended

/-- An executor whose result says whether it was the first to run. -/
def tellsFirst (context : ExecutorContext) : NodeResult :=
  { status := .succeeded, output := some (.obj [("result", .bool context.steps.isEmpty)]) }

/-- The edge from `x` to `z` asks for the result of `x`. -/
def asking : WorkflowDslV3 :=
  { trigger := .manual
    nodes := [("x", .httpRequest "x" none), ("y", .httpRequest "y" none),
      ("z", .httpRequest "z" none)]
    edges := [{ id := "e", «from» := "x", «to» := "z", kind := some .condTrue }]
    keysDistinct := by decide }

/-- `y` follows a condition. -/
def branching : WorkflowDslV3 :=
  { trigger := .manual
    nodes := [("c", .condition "c" (some { path := "a", op := .exists, value := none })),
      ("x", .httpRequest "x" none), ("y", .httpRequest "y" none)]
    edges := [{ id := "t", «from» := "c", «to» := "x", kind := some .condTrue },
      { id := "f", «from» := "c", «to» := "y", kind := some .condFalse }]
    keysDistinct := by decide }

/-- The collation that turns the ids around. -/
def reversed (a b : String) : Ordering := Ord.compare b a

end Sample

open Vespid.Sample in
theorem graph_semantics_branching : ∃ output output' : WorkflowExecutionResult,
    output.steps.map (·.nodeId) = ["c", "y"] ∧ Executed Sample.branching output ∧
      Agree Sample.branching output output' := by
  obtain ⟨m, p, attempt, completed, ids⟩ := Sample.completes_of_ids (show
    Sample.ids sampleEnv Sample.tellsFirst Sample.branching 2 = some ["c", "y"] by decide +kernel)
  obtain ⟨m', p', attempt', completed', -⟩ := Sample.completes_of_ids (show
    Sample.ids (withCompare sampleEnv Sample.reversed) Sample.tellsFirst Sample.branching 2 =
      some ["c", "y"] by decide +kernel)
  obtain ⟨executed, agree⟩ := graph_semantics (by decide +kernel) (by decide +kernel)
    attempt completed
  refine ⟨_, _, ids, executed, agree Sample.reversed _ m' p' _ ?_ attempt' completed'⟩
  -- only the condition has an edge that asks for a result
  intro key node found asked notCondition
  obtain ⟨e, edge, kind⟩ := asked
  obtain ⟨mem, source⟩ := List.mem_filter.mp edge
  have of : e.from = "c" := by
    have all : ∀ e ∈ Sample.branching.edges, e.from = "c" := by decide +kernel
    exact all e mem
  rw [of, decide_eq_true_eq] at source
  subst source
  obtain rfl : _ = node := Option.some.inj found
  exact (notCondition rfl).elim

/-- Where an edge asks for the result of an executor that looks at the steps so far, the
collation decides which nodes are executed. -/
theorem graph_not_confluent : ¬∀ (env : RunEnv) (compare : String → String → Ordering)
    (exec : ExecutorContext → NodeResult) (dsl : WorkflowDslV3), acceptedV3 dsl → dsl.KeysAreIds →
    (∀ context, (exec context).status = .succeeded) →
    ∀ m p d output m' p' d' output',
      GraphAttempt env (fun context answer => answer = .ok (exec context)) dsl m p →
      Completes env d dsl m p output →
      GraphAttempt (withCompare env compare)
        (fun context answer => answer = .ok (exec context)) dsl m' p' →
      Completes (withCompare env compare) d' dsl m' p' output' →
      (output.steps.map (·.nodeId)).Perm (output'.steps.map (·.nodeId)) := by
  intro confluent
  let sorted := withCompare Vespid.Sample.sampleEnv Ord.compare
  obtain ⟨m, p, attempt, completed, ids⟩ := Sample.completes_of_ids (show
    Sample.ids sorted Sample.tellsFirst Sample.asking 3 = some ["x", "y", "z"] by decide +kernel)
  obtain ⟨m', p', attempt', completed', ids'⟩ := Sample.completes_of_ids (show
    Sample.ids (withCompare sorted Sample.reversed) Sample.tellsFirst Sample.asking 2 =
      some ["y", "x"] by decide +kernel)
  have perm := confluent sorted Sample.reversed Sample.tellsFirst Sample.asking
    (by decide +kernel) (by decide +kernel) (fun _ => rfl) m p _ _ m' p' _ _ attempt completed
    attempt' completed'
  rw [ids, ids'] at perm
  exact absurd perm.length_eq (by decide)

end Vespid.Worker
