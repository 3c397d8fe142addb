import Vespid.Worker.Semantics

/-!
# Which nodes of a graph can be executed

A node needs all its incoming edges satisfied, so it can be executed only where nothing before
it needs a condition both ways. The validator looks at the edges out of a condition node and
not at where they lead, so an accepted graph may have nodes that no results let run.
-/

namespace Vespid.Worker

open Workflow Readiness

def IsCondition (dsl : WorkflowDslV3) (key : String) : Prop :=
  ∃ id config, dsl.node? key = some (.condition id config)

instance (dsl : WorkflowDslV3) (key : String) : Decidable (IsCondition dsl key) :=
  match h : dsl.node? key with
  | some (.condition id config) => isTrue ⟨id, config, h⟩
  | none | some (.httpRequest ..) | some (.agentRun ..) | some (.agentExecute ..)
  | some (.connectorAction ..) | some (.connectorGithubIssueCreate ..)
  | some (.parallelJoin ..) => isFalse fun ⟨_, _, same⟩ => nomatch h.symm.trans same

/-- The result of a node that is no condition, where executors answer with `exec`. -/
def executorResult (dsl : WorkflowDslV3) (exec : String → Option Json) (key : String) :
    Option Bool :=
  match dsl.node? key with
  | none | some (.parallelJoin ..) => none
  | some _ => StepMap.resultOf (exec key)

/-- The results of the nodes, those of the condition nodes as `choice` says. -/
def givenResult (dsl : WorkflowDslV3) (choice : String → Bool) (exec : String → Option Json)
    (key : String) : Option Bool :=
  if IsCondition dsl key then some (choice key) else executorResult dsl exec key

/-- The output recorded for a node under an assignment of results to the condition nodes. -/
def AssignedOutput (dsl : WorkflowDslV3) (m : StepMap) (choice : String → Bool)
    (exec : String → Option Json) (key : String) : WorkflowNode → Option Json → Prop
  | .condition .., output => StepMap.resultOf output = some (choice key)
  | .parallelJoin id _, output => output = some (joinOutput dsl m id)
  | _, output => output = exec key

/-- Steps of nodes that succeed, each taken where the readiness rule lets it run. -/
inductive ReadyRun (dsl : WorkflowDslV3) (choice : String → Bool) (exec : String → Option Json) :
    StepMap → List WorkflowExecutionStep → Prop
  | nil : ReadyRun dsl choice exec [] []
  | snoc {m : StepMap} {steps : List WorkflowExecutionStep} {key : String} {node : WorkflowNode}
      {step : WorkflowExecutionStep} (run : ReadyRun dsl choice exec m steps)
      (found : dsl.node? key = some node) (ready : nodeReady dsl m key)
      (nodeId : step.nodeId = node.id) (succeeded : step.status = .succeeded)
      (output : AssignedOutput dsl m choice exec key node step.output) :
      ReadyRun dsl choice exec (OrderedMap.set m step.nodeId step) (steps ++ [step])

/-- Some results of the condition nodes let the node run. -/
def Executable (dsl : WorkflowDslV3) (exec : String → Option Json) (key : String) : Prop :=
  ∃ choice m steps node step, ReadyRun dsl choice exec m steps ∧ dsl.node? key = some node ∧
    step ∈ steps ∧ step.nodeId = node.id

/-- Whether `target` or something before it depends on `key`. -/
def Feeds (dsl : WorkflowDslV3) (key target : String) : Prop :=
  Relation.ReflTransGen (fun target source => source ∈ dsl.sources target) target key

/-- Nothing before the node needs a condition both ways or a result its executor does not
give. -/
def Consistent (dsl : WorkflowDslV3) (exec : String → Option Json) (key : String) : Prop :=
  (∀ e ∈ dsl.edges, ∀ e' ∈ dsl.edges, Feeds dsl e.to key → Feeds dsl e'.to key →
    IsCondition dsl e.from → e.from = e'.from →
    ¬(e.kindOrAlways = .condTrue ∧ e'.kindOrAlways = .condFalse)) ∧
  ∀ e ∈ dsl.edges, Feeds dsl e.to key → ¬IsCondition dsl e.from →
    Met e.kindOrAlways (executorResult dsl exec e.from)

variable {dsl : WorkflowDslV3} {choice : String → Bool} {exec : String → Option Json}
  {m : StepMap} {steps : List WorkflowExecutionStep} {key : String}

theorem resultOf_assigned {node : WorkflowNode} {output : Option Json}
    (found : dsl.node? key = some node) (assigned : AssignedOutput dsl m choice exec key node output) :
    StepMap.resultOf output = givenResult dsl choice exec key := by
  unfold givenResult
  cases node with
  | condition id config =>
    rw [if_pos ⟨id, config, found⟩]
    exact assigned
  | _ =>
    have other : ¬IsCondition dsl key := by
      intro condition
      obtain ⟨id, config, same⟩ := condition
      rw [found] at same
      cases same
    rw [if_neg other, executorResult, found]
    simp only [AssignedOutput] at assigned
    subst assigned
    rfl

/-- The steps of a run are recorded in a working order, with the results given. -/
theorem ReadyRun.recorded (keys : dsl.KeysAreIds) (run : ReadyRun dsl choice exec m steps) :
    Recorded dsl m steps ∧
      ∀ step ∈ steps, resultIn steps step.nodeId = givenResult dsl choice exec step.nodeId := by
  induction run with
  | nil => exact ⟨⟨rfl, by simp, .nil⟩, by simp⟩
  | @snoc m steps key node step run found ready nodeId succeeded output ih =>
    obtain ⟨recorded, given⟩ := ih
    have id : step.nodeId = key := nodeId.trans (dsl.id_of_node? keys found)
    subst id
    have listed : step.nodeId ∈ dsl.nodeIds := by
      rw [← WorkflowDslV3.node?_isSome_iff, found]
      rfl
    have appended := recorded.append listed ready succeeded
    refine ⟨appended, ?_⟩
    intro s mem
    rw [appended.result mem]
    rcases List.mem_append.mp mem with old | new
    · rw [← recorded.result old]
      exact given s old
    · rw [List.mem_singleton.mp new]
      exact resultOf_assigned found output

/-- A run takes nodes that the results given let be executed. -/
theorem ReadyRun.executes (keys : dsl.KeysAreIds) (run : ReadyRun dsl choice exec m steps)
    (mem : key ∈ steps.map (·.nodeId)) : Executes dsl (givenResult dsl choice exec) key := by
  obtain ⟨recorded, given⟩ := run.recorded keys
  have worked : Worked (flow dsl (givenResult dsl choice exec)) (steps.map (·.nodeId)) := by
    refine recorded.worked.congr rfl rfl fun n taken opens e edge => ?_
    have source := recorded.worked.needs_mem taken e.from (List.mem_map_of_mem edge)
    obtain ⟨step, here, same⟩ := List.mem_map.mp source
    have met := opens e edge
    rw [← same] at met ⊢
    rwa [given step here] at met
  exact worked.reached mem

/-- Conversely every working order for the results given is a run. -/
theorem readyRun_of_worked (keys : dsl.KeysAreIds) {done : List String}
    (worked : Worked (flow dsl (givenResult dsl choice exec)) done) :
    ∃ m steps, ReadyRun dsl choice exec m steps ∧ steps.map (·.nodeId) = done := by
  induction worked with
  | nil => exact ⟨[], [], .nil, rfl⟩
  | @snoc done key worked listed opens fresh sources ih =>
    obtain ⟨m, steps, run, rfl⟩ := ih
    obtain ⟨recorded, given⟩ := run.recorded keys
    obtain ⟨node, found⟩ := Option.isSome_iff_exists.mp
      (WorkflowDslV3.node?_isSome_iff.mpr listed)
    have ready : nodeReady dsl m key := by
      refine (recorded.ready_iff key).mpr ⟨fresh, fun e edge => ?_, sources⟩
      obtain ⟨step, here, same⟩ := List.mem_map.mp (sources e.from (List.mem_map_of_mem edge))
      have met := opens e edge
      rw [← same] at met ⊢
      rwa [given step here]
    have output : ∃ output, AssignedOutput dsl m choice exec key node output := by
      cases node with
      | condition id config => exact ⟨some (.obj [("result", .bool (choice key))]), rfl⟩
      | _ => exact ⟨_, rfl⟩
    obtain ⟨output, assigned⟩ := output
    let step : WorkflowExecutionStep :=
      { nodeId := node.id, nodeType := node.type, status := .succeeded, output := output }
    have id : step.nodeId = node.id := rfl
    refine ⟨_, _, run.snoc found ready id rfl assigned, ?_⟩
    rw [List.map_append, List.map_cons, List.map_nil, id, dsl.id_of_node? keys found]

theorem executable_iff_executes (keys : dsl.KeysAreIds) (listed : key ∈ dsl.nodeIds) :
    Executable dsl exec key ↔ ∃ choice, Executes dsl (givenResult dsl choice exec) key := by
  obtain ⟨node, found⟩ := Option.isSome_iff_exists.mp (WorkflowDslV3.node?_isSome_iff.mpr listed)
  constructor
  · intro executable
    obtain ⟨choice, m, steps, node', step, run, found', mem, id⟩ := executable
    obtain rfl := Option.some.inj (found.symm.trans found')
    refine ⟨choice, run.executes keys (List.mem_map.mpr ⟨step, mem, ?_⟩)⟩
    exact id.trans (dsl.id_of_node? keys found)
  · intro executes
    obtain ⟨choice, reached⟩ := executes
    obtain ⟨done, worked, finished⟩ :=
      (Worked.nil : Worked (flow dsl (givenResult dsl choice exec)) []).finish
    rw [List.nil_append] at worked finished
    obtain ⟨m, steps, run, rfl⟩ := readyRun_of_worked keys worked
    obtain ⟨step, mem, same⟩ := List.mem_map.mp ((worked.mem_iff finished).mpr reached)
    exact ⟨choice, m, steps, node, step, run, found, mem, same.trans
      (dsl.id_of_node? keys found).symm⟩

/-- Where the results given let everything before a node be executed. -/
theorem executes_iff_open (ok : validateV3GraphConstraints dsl = none)
    (listed : key ∈ dsl.nodeIds) (result : String → Option Bool) :
    Executes dsl result key ↔
      ∀ e ∈ dsl.edges, Feeds dsl e.to key → Met e.kindOrAlways (result e.from) := by
  have acc : Acc (fun source key => source ∈ (flow dsl result).needs key) key :=
    acyclic_of_accepted ok key listed
  rw [Executes, reached_iff_ancestors acc]
  constructor
  · intro ancestors e edge feeds
    exact (ancestors e.to feeds).2 e (List.mem_filter.mpr ⟨edge, by simp⟩)
  · intro met a path
    refine ⟨?_, fun e edge => ?_⟩
    · rcases Relation.ReflTransGen.cases_tail path with rfl | ⟨target, -, source⟩
      · exact listed
      · obtain ⟨e, edge, -, rfl⟩ := WorkflowDslV3.mem_sources.mp source
        exact ((validate_none ok).1 e edge).1
    · obtain ⟨mem, target⟩ := List.mem_filter.mp edge
      rw [decide_eq_true_eq] at target
      exact met e mem (by rw [target]; exact path)

/-- A node of an accepted graph can be executed exactly where nothing before it is at odds. -/
theorem executable_iff_consistent (accepted : acceptedV3 dsl) (keys : dsl.KeysAreIds)
    (listed : key ∈ dsl.nodeIds) : Executable dsl exec key ↔ Consistent dsl exec key := by
  obtain ⟨-, ok⟩ := accepted
  rw [executable_iff_executes keys listed]
  simp only [executes_iff_open ok listed]
  constructor
  · intro executable
    obtain ⟨choice, met⟩ := executable
    refine ⟨?_, fun e edge feeds other => ?_⟩
    · intro e edge e' edge' feeds feeds' condition same kinds
      have true_ := met e edge feeds
      have false_ := met e' edge' feeds'
      rw [kinds.1, givenResult, if_pos condition] at true_
      rw [kinds.2, givenResult, ← same, if_pos condition] at false_
      cases Option.some.inj true_ |>.symm.trans (Option.some.inj false_)
    · have := met e edge feeds
      rwa [givenResult, if_neg other] at this
  · intro consistent
    obtain ⟨conditions, others⟩ := consistent
    classical
    -- a condition is true where something before the node needs it so
    refine ⟨fun c => decide (∃ e ∈ dsl.edges, Feeds dsl e.to key ∧ e.from = c ∧
      e.kindOrAlways = .condTrue), fun e edge feeds => ?_⟩
    by_cases condition : IsCondition dsl e.from
    · rw [givenResult, if_pos condition]
      cases kind : e.kindOrAlways with
      | always => trivial
      | condTrue => exact congrArg some (decide_eq_true ⟨e, edge, feeds, rfl, kind⟩)
      | condFalse =>
        refine congrArg some (decide_eq_false ?_)
        intro needed
        obtain ⟨e', edge', feeds', same, kind'⟩ := needed
        exact conditions e' edge' e edge feeds' feeds (same ▸ condition) same ⟨kind', kind⟩
    · rw [givenResult, if_neg condition]
      exact others e edge feeds condition

namespace Sample

/-- A node behind both sides of a condition. -/
def bothSides : WorkflowDslV3 :=
  { trigger := .manual
    nodes := [("c", .condition "c" (some { path := "a", op := .exists, value := none })),
      ("x", .httpRequest "x" none)]
    edges := [{ id := "t", «from» := "c", «to» := "x", kind := some .condTrue },
      { id := "f", «from» := "c", «to» := "x", kind := some .condFalse }]
    keysDistinct := by decide }

/-- `c` follows a node that stands under another key. -/
def misnamedSource : WorkflowDslV3 :=
  { trigger := .manual
    nodes := [("a", .httpRequest "b" none), ("c", .httpRequest "c" none)]
    edges := [{ id := "e", «from» := "a", «to» := "c", kind := none }]
    keysDistinct := by decide }

theorem only_first {choice : String → Bool} {exec : String → Option Json}
    {steps : List WorkflowExecutionStep} (run : ReadyRun misnamedSource choice exec m steps) :
    m.lookup "a" = none ∧ ∀ step ∈ steps, step.nodeId = "b" := by
  induction run with
  | nil => exact ⟨rfl, by simp⟩
  | @snoc m steps key node step run found ready nodeId succeeded output ih =>
    obtain ⟨absent, before⟩ := ih
    have first : step.nodeId = "b" := by
      have mem := WorkflowDslV3.mem_nodes_of_node? found
      rcases List.mem_cons.mp mem with same | rest
      · cases same
        exact nodeId
      · cases List.mem_singleton.mp rest
        -- the edge into `c` finds no step under `a`
        have ready := (nodeReady_iff.mp ready).2 _ List.mem_cons_self
        have source := (satisfied_iff.mp ready).1
        rw [StepMap.hasSucceeded, absent] at source
        cases source
    refine ⟨?_, fun s mem => ?_⟩
    · rw [OrderedMap.lookup_set_other _ _ (by rw [first]; decide)]
      exact absent
    · rcases List.mem_append.mp mem with old | new
      · exact before s old
      · rw [List.mem_singleton.mp new]
        exact first

end Sample

theorem executable_iff_consistent_first :
    Executable Sample.bothSides (fun _ => none) "c" ∧
      Consistent Sample.bothSides (fun _ => none) "c" := by
  have first (source : String) (mem : source ∈ Sample.bothSides.sources "c") : False := by
    revert mem
    simp [Sample.bothSides, WorkflowDslV3.sources, WorkflowDslV3.incoming]
  have stays (a : String) (path : Feeds Sample.bothSides a "c") : a = "c" := by
    rcases Relation.ReflTransGen.cases_head path with rfl | ⟨source, mem, -⟩
    · rfl
    · exact (first source mem).elim
  have targets : ∀ e ∈ Sample.bothSides.edges, e.to ≠ "c" := by decide +kernel
  have consistent : Consistent Sample.bothSides (fun _ => none) "c" := by
    refine ⟨fun e edge _ _ feeds => ?_, fun e edge feeds => ?_⟩
    · exact (targets e edge (stays _ feeds)).elim
    · exact (targets e edge (stays _ feeds)).elim
  exact ⟨(executable_iff_consistent (by decide +kernel) (by decide +kernel)
    (by decide +kernel)).mpr consistent, consistent⟩

/-- A graph is accepted with a node that needs a condition both ways, and one with a node
behind a node that stands under another key. -/
theorem accepted_dead_node :
    (¬∀ (dsl : WorkflowDslV3) (exec : String → Option Json) (key : String),
      acceptedV3 dsl → dsl.KeysAreIds → key ∈ dsl.nodeIds → Executable dsl exec key) ∧
    ¬∀ (dsl : WorkflowDslV3) (exec : String → Option Json) (key : String),
      acceptedV3 dsl → dsl.edges.all (·.kindOrAlways = .always) → key ∈ dsl.nodeIds →
        Executable dsl exec key := by
  refine ⟨?_, ?_⟩
  case refine_2 =>
    intro alive
    obtain ⟨choice, m, steps, node, step, run, found, mem, id⟩ :=
      alive Sample.misnamedSource (fun _ => none) "c" (by decide +kernel) (by decide +kernel)
        (by decide +kernel)
    have last : node = .httpRequest "c" none := Option.some.inj (found.symm.trans rfl)
    rw [(Sample.only_first run).2 step mem, last] at id
    exact absurd id (by decide)
  intro alive
  have accepted : acceptedV3 Sample.bothSides := by decide +kernel
  have keys : Sample.bothSides.KeysAreIds := by decide +kernel
  have listed : "x" ∈ Sample.bothSides.nodeIds := by decide +kernel
  obtain ⟨choice, executes⟩ := (executable_iff_executes keys listed).mp
    (alive Sample.bothSides (fun _ => none) "x" accepted keys listed)
  obtain ⟨-, edges⟩ := executes_iff.mp executes
  have both (result : Option Bool) (onTrue : Met .condTrue result) (onFalse : Met .condFalse result) :
      False := by
    cases onTrue.symm.trans onFalse
  refine both (givenResult Sample.bothSides choice (fun _ => none) "c") ?_ ?_
  · exact (edges { id := "t", «from» := "c", «to» := "x", kind := some .condTrue }
      (by simp [WorkflowDslV3.incoming, Sample.bothSides])).2
  · exact (edges { id := "f", «from» := "c", «to» := "x", kind := some .condFalse }
      (by simp [WorkflowDslV3.incoming, Sample.bothSides])).2

end Vespid.Worker
