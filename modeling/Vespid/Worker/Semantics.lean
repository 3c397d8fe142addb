import Vespid.Workflow.Topology
import Vespid.Worker.Footprint
import Vespid.Worker.GraphLoop

/-!
# The meaning of a graph

A node of a graph is to run when all its incoming edges are satisfied: their sources run, and
the edges that ask for a result find it. The steps a graph loop records are a working order of
these nodes, and where the loop ends the order is finished.
-/

namespace Vespid.Worker

open Workflow Interleaving Readiness

/-- Whether an edge of this kind is content with the result of its source. -/
def Met : EdgeKind → Option Bool → Prop
  | .always, _ => True
  | .condTrue, result => result = some true
  | .condFalse, result => result = some false

instance : (kind : EdgeKind) → (result : Option Bool) → Decidable (Met kind result)
  | .always, _ => isTrue trivial
  | .condTrue, result => inferInstanceAs (Decidable (result = some true))
  | .condFalse, result => inferInstanceAs (Decidable (result = some false))

/-- The graph with a node open where its incoming edges meet the results of their sources. -/
def flow (dsl : WorkflowDslV3) (result : String → Option Bool) : Net String where
  nodes := dsl.nodeIds
  needs := dsl.sources
  opens key := ∀ e ∈ dsl.incoming key, Met e.kindOrAlways (result e.from)

/-- The least set of nodes that has each node all of whose incoming edges it satisfies. -/
abbrev Executes (dsl : WorkflowDslV3) (result : String → Option Bool) : String → Prop :=
  Reached (flow dsl result)

theorem executes_iff {dsl : WorkflowDslV3} {result : String → Option Bool} {key : String} :
    Executes dsl result key ↔ key ∈ dsl.nodeIds ∧
      ∀ e ∈ dsl.incoming key, Executes dsl result e.from ∧ Met e.kindOrAlways (result e.from) := by
  rw [Executes, reached_iff]
  constructor
  · intro facts
    obtain ⟨listed, met, sources⟩ := facts
    refine ⟨listed, fun e edge => ⟨?_, met e edge⟩⟩
    exact sources e.from (List.mem_map_of_mem edge)
  · intro facts
    obtain ⟨listed, edges⟩ := facts
    refine ⟨listed, fun e edge => (edges e edge).2, fun source mem => ?_⟩
    obtain ⟨e, edge, rfl⟩ := List.mem_map.mp mem
    exact (edges e edge).1

/-- The boolean result that recorded steps have for a node. -/
def resultIn (steps : List WorkflowExecutionStep) (nodeId : String) : Option Bool :=
  (StepMap.ofSteps steps).getConditionResult nodeId

theorem satisfied_iff {m : StepMap} {e : WorkflowEdgeV3} :
    satisfied m e ↔ m.hasSucceeded e.from ∧ Met e.kindOrAlways (m.getConditionResult e.from) := by
  unfold satisfied edgeStatus
  cases m.hasSucceeded e.from with
  | false => simp
  | true =>
    cases e.kindOrAlways with
    | always => simp [Met]
    | condTrue =>
      cases m.getConditionResult e.from with
      | none => simp [Met]
      | some b => cases b <;> simp [Met]
    | condFalse =>
      cases m.getConditionResult e.from with
      | none => simp [Met]
      | some b => cases b <;> simp [Met]

/-! ### Attempts -/

/-- One attempt over a graph: iterations of the loop, and deliveries that go on from the
steps an earlier one has persisted. -/
inductive GraphAttempt (env : RunEnv)
    (outcomes : ExecutorContext → Except String NodeResult → Prop) (dsl : WorkflowDslV3) :
    StepMap → Progress → Prop
  | start : GraphAttempt env outcomes dsl [] { steps := [], runtime := .null }
  | next {d : Delivery} {m m' : StepMap} {p p' : Progress} {trace : List (Event RunOps)}
      (before : GraphAttempt env outcomes dsl m p)
      (run : (graphIteration env d dsl m p).Runs trace (.inl (.v3 d dsl m' p')))
      (answered : ∀ event ∈ trace, answeredBy outcomes event.op event.reply) :
      GraphAttempt env outcomes dsl m' p'
  | resume {m : StepMap} {p : Progress} (before : GraphAttempt env outcomes dsl m p)
      (runtime : Json) : GraphAttempt env outcomes dsl (.ofSteps p.steps) { p with runtime }

/-- The attempt's last iteration marks the run succeeded with this output. -/
def Completes (env : RunEnv) (d : Delivery) (dsl : WorkflowDslV3) (m : StepMap) (p : Progress)
    (output : WorkflowExecutionResult) : Prop :=
  ∃ trace value, (graphIteration env d dsl m p).Runs trace value ∧
    ⟨.markWorkflowRunSucceeded output, ()⟩ ∈ trace

/-! ### Recorded steps -/

/-- Steps recorded in a working order of the graph, with their map. -/
structure Recorded (dsl : WorkflowDslV3) (m : StepMap) (steps : List WorkflowExecutionStep) :
    Prop where
  map : m = .ofSteps steps
  succeeded : ∀ step ∈ steps, step.status = .succeeded
  worked : Worked (flow dsl (resultIn steps)) (steps.map (·.nodeId))

section recorded
variable {dsl : WorkflowDslV3} {m : StepMap} {steps : List WorkflowExecutionStep} {key : String}

theorem Recorded.has_iff (recorded : Recorded dsl m steps) (key : String) :
    m.has key ↔ key ∈ steps.map (·.nodeId) := by
  rw [recorded.map]
  exact StepMap.has_ofSteps steps key

theorem Recorded.hasSucceeded (recorded : Recorded dsl m steps) (nodeId : String) :
    m.hasSucceeded nodeId ↔ nodeId ∈ steps.map (·.nodeId) := by
  rw [recorded.map, ← StepMap.has_ofSteps]
  constructor
  · intro succeeded
    obtain ⟨step, found, -⟩ := (Option.any_eq_true _ _).mp succeeded
    rw [StepMap.has, found]
    rfl
  · intro has
    rw [StepMap.has_ofSteps] at has
    obtain ⟨step, mem, rfl⟩ := List.mem_map.mp has
    rw [StepMap.hasSucceeded, StepMap.lookup_ofSteps recorded.worked.nodup mem]
    simpa using recorded.succeeded step mem

theorem resultIn_append {step : WorkflowExecutionStep} {nodeId : String}
    (other : nodeId ≠ step.nodeId) : resultIn (steps ++ [step]) nodeId = resultIn steps nodeId := by
  rw [resultIn, StepMap.getConditionResult, StepMap.ofSteps_append,
    OrderedMap.lookup_set_other _ _ other]
  rfl

theorem Recorded.result (recorded : Recorded dsl m steps) {step : WorkflowExecutionStep}
    (mem : step ∈ steps) : resultIn steps step.nodeId = StepMap.resultOf step.output := by
  rw [resultIn, StepMap.getConditionResult, StepMap.lookup_ofSteps recorded.worked.nodup mem]
  simp [recorded.succeeded step mem]

theorem Recorded.satisfied_iff (recorded : Recorded dsl m steps) (e : WorkflowEdgeV3) :
    satisfied m e ↔
      e.from ∈ steps.map (·.nodeId) ∧ Met e.kindOrAlways (resultIn steps e.from) := by
  rw [Worker.satisfied_iff, recorded.hasSucceeded, resultIn, ← recorded.map]

/-- The loop finds a node ready where the graph is open to it. -/
theorem Recorded.ready_iff (recorded : Recorded dsl m steps) (key : String) :
    nodeReady dsl m key ↔ key ∉ steps.map (·.nodeId) ∧
      (flow dsl (resultIn steps)).opens key ∧ ∀ source ∈ dsl.sources key,
        source ∈ steps.map (·.nodeId) := by
  have absent : m.has key = false ↔ key ∉ steps.map (·.nodeId) := by
    rw [← recorded.has_iff, Bool.not_eq_true]
  rw [nodeReady_iff, absent]
  refine and_congr_right fun _ => ?_
  constructor
  · intro satisfied
    refine ⟨fun e edge => ?_, fun source mem => ?_⟩
    · exact ((recorded.satisfied_iff e).mp (satisfied e edge)).2
    · obtain ⟨e, edge, rfl⟩ := List.mem_map.mp mem
      exact ((recorded.satisfied_iff e).mp (satisfied e edge)).1
  · intro facts e edge
    obtain ⟨opens, sources⟩ := facts
    have source := sources e.from (List.mem_map_of_mem edge)
    exact (recorded.satisfied_iff e).mpr ⟨source, opens e edge⟩

/-- Recording the step of a node found ready. -/
theorem Recorded.append {step : WorkflowExecutionStep} (recorded : Recorded dsl m steps)
    (listed : step.nodeId ∈ dsl.nodeIds) (ready : nodeReady dsl m step.nodeId)
    (succeeded : step.status = .succeeded) :
    Recorded dsl (OrderedMap.set m step.nodeId step) (steps ++ [step]) := by
  obtain ⟨fresh, opens, sources⟩ := (recorded.ready_iff _).mp ready
  -- the sources of the nodes taken so far have their steps, and none is the new one
  have kept (source : String) (mem : source ∈ steps.map (·.nodeId)) :
      resultIn (steps ++ [step]) source = resultIn steps source := by
    refine resultIn_append ?_
    intro same
    exact fresh (same ▸ mem)
  have keeps (key : String) (before : ∀ source ∈ dsl.sources key, source ∈ steps.map (·.nodeId))
      (opens : (flow dsl (resultIn steps)).opens key) :
      (flow dsl (resultIn (steps ++ [step]))).opens key := by
    intro e edge
    rw [kept e.from (before _ (List.mem_map_of_mem edge))]
    exact opens e edge
  refine ⟨?_, ?_, ?_⟩
  · rw [StepMap.ofSteps_append, recorded.map]
  · intro s mem
    rcases List.mem_append.mp mem with old | new
    · exact recorded.succeeded s old
    · rw [List.mem_singleton.mp new]
      exact succeeded
  · rw [List.map_append]
    have earlier : Worked (flow dsl (resultIn (steps ++ [step]))) (steps.map (·.nodeId)) :=
      recorded.worked.congr rfl rfl fun n mem => keeps n (recorded.worked.needs_mem mem)
    exact earlier.snoc listed (keeps _ sources opens) fresh sources

/-- Where the loop ends, no node is left that its order could go on with. -/
theorem Recorded.finished {js : JsRuntime} (recorded : Recorded dsl m steps)
    (named : "" ∉ dsl.nodeIds) (ended : pickNode js dsl m = none) :
    Readiness.Finished (flow dsl (resultIn steps)) (steps.map (·.nodeId)) := by
  intro key listed opens sources
  by_contra fresh
  have ready := (recorded.ready_iff key).mpr ⟨fresh, opens, sources⟩
  rw [pickNode_none named ended key listed] at ready
  cases ready

end recorded

/-- What holds between two iterations of an attempt. -/
structure Taken (env : RunEnv) (outcomes : ExecutorContext → Except String NodeResult → Prop)
    (dsl : WorkflowDslV3) (m : StepMap) (steps : List WorkflowExecutionStep) : Prop
    extends Recorded dsl m steps where
  nodes : ∀ step ∈ steps, ∃ node m', dsl.node? step.nodeId = some node ∧
    StepOf env dsl m' outcomes node step

section taken
variable {env : RunEnv} {outcomes : ExecutorContext → Except String NodeResult → Prop}
  {dsl : WorkflowDslV3} {m : StepMap} {p : Progress} {steps : List WorkflowExecutionStep}

theorem Taken.append {step : WorkflowExecutionStep} {node : WorkflowNode} {key : String}
    (taken : Taken env outcomes dsl m steps) (listed : key ∈ dsl.nodeIds)
    (ready : nodeReady dsl m key) (found : dsl.node? key = some node) (id : step.nodeId = key)
    (of : StepOf env dsl m outcomes node step) :
    Taken env outcomes dsl (OrderedMap.set m step.nodeId step) (steps ++ [step]) := by
  subst id
  refine ⟨taken.toRecorded.append listed ready of.succeeded, ?_⟩
  intro s mem
  rcases List.mem_append.mp mem with old | new
  · exact taken.nodes s old
  · rw [List.mem_singleton.mp new]
    exact ⟨node, m, found, of⟩

/-- Every state of an attempt over a graph whose nodes stand under their ids. -/
theorem GraphAttempt.taken (keys : dsl.KeysAreIds) (attempt : GraphAttempt env outcomes dsl m p) :
    Taken env outcomes dsl m p.steps := by
  induction attempt with
  | start => exact ⟨⟨rfl, by simp, .nil⟩, by simp⟩
  | next before run answered ih =>
    obtain ⟨key, node, step, p', picked, same, steps, of⟩ :=
      run.returns graphIteration_returns answered
    obtain ⟨listed, ready, found⟩ := pickNode_some picked
    have id : step.nodeId = key := of.nodeId.trans (dsl.id_of_node? keys found)
    obtain ⟨-, -, rfl, rfl⟩ := NodeLoop.v3.inj same
    rw [steps]
    exact ih.append listed ready found id of
  | resume before runtime ih => exact ⟨⟨rfl, ih.succeeded, ih.worked⟩, ih.nodes⟩

/-! ### The end of an attempt -/

theorem unnamed_of_schema (schema : workflowDslV3Schema dsl) : "" ∉ dsl.nodeIds := by
  intro mem
  obtain ⟨⟨key, node⟩, entry, blank⟩ := List.mem_map.mp mem
  unfold workflowDslV3Schema at schema
  rw [Bool.and_eq_true, Bool.and_eq_true, List.all_eq_true] at schema
  have named := schema.1.2 _ entry
  have blank : key = "" := blank
  subst blank
  revert named
  simp [stringBetween, jsLength]

theorem Completes.output {d : Delivery} {output : WorkflowExecutionResult}
    (completed : Completes env d dsl m p output) :
    pickNode env.js dsl m = none ∧ output = graphOutput env dsl m p := by
  obtain ⟨trace, value, run, mem⟩ := completed
  exact run.only graphIteration_endsGraph _ mem

/-- The steps of an attempt that has ended are those of the nodes to be executed. -/
theorem Taken.executes (taken : Taken env outcomes dsl m steps) (schema : workflowDslV3Schema dsl)
    (ended : pickNode env.js dsl m = none) (key : String) :
    key ∈ steps.map (·.nodeId) ↔ Executes dsl (resultIn steps) key :=
  taken.worked.mem_iff (taken.finished (unnamed_of_schema schema) ended)

end taken

end Vespid.Worker
