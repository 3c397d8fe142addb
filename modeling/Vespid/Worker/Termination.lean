import Mathlib.Data.List.Perm.Subperm
import Vespid.Run.System
import Vespid.Worker.GraphLoop

/-!
# How long the graph loop runs

While the loop picks nodes that stand under their own ids, every iteration that goes on
records the step of a node that had none, so there are at most as many as nodes. A node under
another key is never found among the recorded steps, and the loop picks it again and again.
-/

namespace Vespid.Worker

open Workflow Interleaving

/-- `n` iterations of a node loop, each from a state that meets `C`. -/
inductive LoopRun (env : RunEnv) (C : NodeLoop → Prop) (loop : NodeLoop) : Nat → NodeLoop → Prop
  | zero : LoopRun env C loop 0 loop
  | succ {n : Nat} {mid loop' : NodeLoop} {trace : List (Event RunOps)}
      (before : LoopRun env C loop n mid) (meets : C mid)
      (run : (runJobIteration env mid).Runs trace (.inl loop')) : LoopRun env C loop (n + 1) loop'

/-- The node a graph loop picks next stands under its own id. -/
def PicksOwnId (env : RunEnv) : NodeLoop → Prop
  | .v2 .. => True
  | .v3 _ dsl m _ => ∀ entry ∈ pickNode env.js dsl m, entry.2.id = entry.1

variable {env : RunEnv} {d : Delivery} {dsl : WorkflowDslV3} {m : StepMap} {p : Progress}

/-! ### Where the loop starts -/

/-- A delivery enters the graph loop of an accepted graph with the steps it has read. -/
def EntersGraph : NodeLoop ⊕ Outcome → Prop
  | .inl (.v3 _ dsl m p) => acceptedV3 dsl ∧ m = .ofSteps p.steps
  | _ => True

/-- Whatever is answered. -/
def anyAnswer (op : RunOp) (_ : op.Reply) : Prop := True

theorem ended_entersGraph {q : RunProgram Outcome} :
    (q >>= fun o => Program.done (Sum.inr o)).Returns anyAnswer EntersGraph :=
  Program.returns_bind q.returns_true fun _ _ => trivial

theorem startLoop_entersGraph (cursor : Nat) (value : Option WorkflowDslAny) :
    (startLoop env d cursor p value).Returns anyAnswer EntersGraph := by
  unfold startLoop
  split
  · exact ended_entersGraph
  · exact trivial
  · rename_i parsed
    split
    · exact ended_entersGraph
    · rename_i valid
      refine ⟨⟨?_, valid⟩, rfl⟩
      unfold RunEnv.parseDsl at parsed
      split at parsed
      · split at parsed
        · rename_i schema
          obtain rfl := Except.ok.inj parsed
          exact schema
        · cases parsed
      · cases parsed

theorem runAttempt_entersGraph (run : WorkflowRun) :
    (runAttempt env run).Returns anyAnswer EntersGraph := by
  simp only [runAttempt, ask, Program.issue_eq, Program.call_bind, Program.done_bind,
    Program.returns_call]
  intro settings _ rules _ workflow _
  cases workflow with
  | none => exact trivial
  | some workflow =>
    dsimp only
    split
    · exact fun _ _ _ _ => trivial
    · split
      · intro _ _ running _
        cases running with
        | none => exact trivial
        | some _ => exact startLoop_entersGraph _ _
      · exact startLoop_entersGraph _ _

theorem processWorkflowRunJob_entersGraph :
    (processWorkflowRunJob env).Returns anyAnswer EntersGraph := by
  simp only [processWorkflowRunJob, ask, Program.issue_eq, Program.call_bind, Program.done_bind,
    Program.returns_call]
  intro run _
  cases run with
  | none => exact trivial
  | some run =>
    dsimp only
    split
    · exact trivial
    · exact trivial
    · split
      · exact trivial
      · exact runAttempt_entersGraph run
    · exact runAttempt_entersGraph run

/-! ### The bound -/

/-- One iteration that goes on, from a loop that picks a node under its own id. -/
theorem iteration_records {trace : List (Event RunOps)} {loop' : NodeLoop}
    (own : PicksOwnId env (.v3 d dsl m p))
    (run : (runJobIteration env (.v3 d dsl m p)).Runs trace (.inl loop')) :
    ∃ step p', loop' = .v3 d dsl (OrderedMap.set m step.nodeId step) p' ∧
      p'.steps = p.steps ++ [step] ∧ step.nodeId ∈ dsl.nodeIds ∧ m.has step.nodeId = false := by
  have any : ∀ event ∈ trace, answeredBy (fun _ _ => True) event.op event.reply := by
    intro event _
    cases event with
    | mk op reply => cases op <;> trivial
  obtain ⟨key, node, step, p', picked, same, steps, of⟩ := run.returns graphIteration_returns any
  obtain ⟨listed, ready, -⟩ := pickNode_some picked
  have id : step.nodeId = key := of.nodeId.trans (own (key, node) picked)
  refine ⟨step, p', same, steps, id ▸ listed, ?_⟩
  rw [id]
  exact (nodeReady_iff.mp ready).1

theorem loopRun_records {n : Nat} {loop' : NodeLoop}
    (run : LoopRun env (PicksOwnId env) (.v3 d dsl m p) n loop') :
    ∃ m' p' new, loop' = .v3 d dsl m' p' ∧ p'.steps = p.steps ++ new ∧ new.length = n ∧
      (new.map (·.nodeId)).Nodup ∧
      (∀ id, m'.has id ↔ m.has id ∨ id ∈ new.map (·.nodeId)) ∧
      ∀ id ∈ new.map (·.nodeId), id ∈ dsl.nodeIds ∧ m.has id = false := by
  induction run with
  | zero => exact ⟨m, p, [], rfl, by simp, rfl, List.nodup_nil, by simp, by simp⟩
  | succ before own run ih =>
    obtain ⟨m', p', new, rfl, steps, length, distinct, has, listed⟩ := ih
    obtain ⟨step, p'', rfl, more, here, fresh⟩ := iteration_records own run
    have unseen : ¬(m.has step.nodeId ∨ step.nodeId ∈ new.map (·.nodeId)) := by
      rw [← has, fresh]
      exact Bool.false_ne_true
    rw [not_or] at unseen
    refine ⟨_, p'', new ++ [step], rfl, by rw [more, steps, List.append_assoc], by simp [length],
      ?_, fun id => ?_, fun id mem => ?_⟩
    · rw [List.map_append]
      exact List.Nodup.append distinct (List.nodup_singleton _) (by simpa using unseen.2)
    · rw [StepMap.has, OrderedMap.lookup_set, List.map_append, List.mem_append, ← or_assoc, ← has id]
      by_cases same : id = step.nodeId
      · simp [same]
      · rw [if_neg same]
        simp [StepMap.has, same]
    · rw [List.map_append, List.mem_append] at mem
      rcases mem with old | new
      · exact listed id old
      · rw [List.map_cons, List.map_nil, List.mem_singleton] at new
        rw [new]
        exact ⟨here, by simpa using unseen.1⟩

/-- One attempt of the run job goes through its graph loop at most once for each node, and adds
at most one step for each, while the nodes it picks stand under their own ids. -/
theorem graph_loop_bounded {entry : List (Event RunOps)} {n : Nat} {loop' : NodeLoop}
    (entered : (processWorkflowRunJob env).Runs entry (.inl (.v3 d dsl m p)))
    (run : LoopRun env (PicksOwnId env) (.v3 d dsl m p) n loop') :
    n ≤ dsl.nodes.length ∧ ∃ m' p' new, loop' = .v3 d dsl m' p' ∧ p'.steps = p.steps ++ new ∧
      new.length = n ∧ (new.map (·.nodeId)).Nodup ∧
      ∀ id ∈ new.map (·.nodeId), id ∈ dsl.nodeIds ∧ id ∉ p.steps.map (·.nodeId) := by
  obtain ⟨-, start⟩ := entered.returns processWorkflowRunJob_entersGraph fun _ _ => trivial
  obtain ⟨m', p', new, same, steps, length, distinct, -, listed⟩ := loopRun_records run
  have bound : n ≤ dsl.nodes.length := by
    have small := (List.Nodup.subperm distinct fun id mem => (listed id mem).1).length_le
    rw [List.length_map, length] at small
    simpa [WorkflowDslV3.nodeIds] using small
  refine ⟨bound, m', p', new, same, steps, length, distinct, fun id mem => ⟨(listed id mem).1, ?_⟩⟩
  have unseen := (listed id mem).2
  rw [start] at unseen
  intro recorded
  rw [← StepMap.has_ofSteps, unseen] at recorded
  cases recorded

/-! ### Sample attempts -/

/-- `n` iterations with no other handler between their operations. -/
def iterate (env : RunEnv) (oracle : RunOp → Choice) (C : NodeLoop → Prop) [DecidablePred C] :
    Nat → NodeLoop → RunStore → Option (NodeLoop × RunStore)
  | 0, loop, st => some (loop, st)
  | n + 1, loop, st => (iterate env oracle C n loop st).bind fun mid =>
    if C mid.1 then
      (System.alone (runSystem env) oracle (runJobIteration env mid.1) mid.2).bind fun result =>
        result.2.1.elim (fun loop => some (loop, result.2.2)) fun _ => none
    else none

theorem loopRun_of_iterate {oracle : RunOp → Choice} {C : NodeLoop → Prop} [DecidablePred C]
    {n : Nat} {loop loop' : NodeLoop} {st st' : RunStore}
    (h : iterate env oracle C n loop st = some (loop', st')) : LoopRun env C loop n loop' := by
  induction n generalizing loop' st' with
  | zero =>
    obtain ⟨rfl, -⟩ := Prod.mk.inj (Option.some.inj h)
    exact .zero
  | succ n ih =>
    obtain ⟨⟨mid, st⟩, before, h⟩ := Option.bind_eq_some_iff.mp h
    split at h
    · obtain ⟨⟨trace, value, last⟩, run, h⟩ := Option.bind_eq_some_iff.mp h
      cases value with
      | inl loop =>
        obtain ⟨rfl, rfl⟩ := Prod.mk.inj (Option.some.inj h)
        exact (ih before).succ ‹_› (System.runs_of_alone run)
      | inr outcome => cases h
    · cases h

instance : DecidablePred (PicksOwnId env)
  | .v2 .. => isTrue trivial
  | .v3 _ dsl m _ =>
    inferInstanceAs (Decidable (∀ entry ∈ pickNode env.js dsl m, entry.2.id = entry.1))

namespace Sample

open Vespid.Sample

/-- Every executor succeeds, and the workflow is `dsl`. -/
def graphOracle (dsl : WorkflowDslV3) : RunOp → Choice
  | .getOrganizationSettings => .settings none
  | .listOrganizationPolicyRules => .rules []
  | .getWorkflowById => .workflow { published := true, dsl := some (.v3 dsl) }
  | .execute _ => succeeds
  | _ => .none

/-- A delivery that enters the graph loop of `dsl` and goes through it `n` times. -/
def goesRound (dsl : WorkflowDslV3) (C : NodeLoop → Prop) [DecidablePred C] (n : Nat) : Bool :=
  (System.alone (runSystem sampleEnv) (graphOracle dsl) (processWorkflowRunJob sampleEnv)
    (.created 2 0)).any fun result =>
      match result.2.1 with
      | .inl (.v3 d dsl' m p) => dsl'.nodes.length = dsl.nodes.length &&
        (iterate sampleEnv (graphOracle dsl) C n (.v3 d dsl' m p) result.2.2).isSome
      | _ => false

theorem loopRun_of_goesRound {dsl : WorkflowDslV3} {C : NodeLoop → Prop} [DecidablePred C] {n : Nat}
    (round : goesRound dsl C n) : ∃ entry d dsl' m p loop',
      dsl'.nodes.length = dsl.nodes.length ∧
      (processWorkflowRunJob sampleEnv).Runs entry (.inl (.v3 d dsl' m p)) ∧
      LoopRun sampleEnv C (.v3 d dsl' m p) n loop' := by
  obtain ⟨⟨entry, value, st⟩, run, fact⟩ := (Option.any_eq_true _ _).mp round
  dsimp only at fact
  split at fact
  · rename_i d dsl' m p
    rw [Bool.and_eq_true, decide_eq_true_eq] at fact
    obtain ⟨⟨loop', st'⟩, rounds⟩ := Option.isSome_iff_exists.mp fact.2
    exact ⟨entry, d, dsl', m, p, loop', fact.1, System.runs_of_alone run, loopRun_of_iterate rounds⟩
  · cases fact

def http (id : String) : WorkflowNode := .httpRequest id none

/-- A graph of one node that stands under another key. -/
def misnamed : WorkflowDslV3 :=
  { trigger := .manual, nodes := [("a", http "b")], edges := [], keysDistinct := by decide }

def chain : WorkflowDslV3 :=
  { trigger := .manual, nodes := [("a", http "a"), ("b", http "b")],
    edges := [{ id := "e", «from» := "a", «to» := "b", kind := none }],
    keysDistinct := by decide }

end Sample

theorem graph_loop_bounded_chain : ∃ d dsl m p loop',
    LoopRun Vespid.Sample.sampleEnv (PicksOwnId Vespid.Sample.sampleEnv) (.v3 d dsl m p) 2 loop' ∧
      2 ≤ dsl.nodes.length := by
  have round : Sample.goesRound Sample.chain (PicksOwnId Vespid.Sample.sampleEnv) 2 := by
    decide +kernel
  obtain ⟨entry, d, dsl, m, p, loop', -, entered, run⟩ := Sample.loopRun_of_goesRound round
  exact ⟨d, dsl, m, p, loop', run, (graph_loop_bounded entered run).1⟩

/-- The loop goes round a misnamed node more often than the graph has nodes. -/
theorem graph_loop_unbounded :
    ¬∀ (env : RunEnv) (d : Delivery) (dsl : WorkflowDslV3) (m : StepMap) (p : Progress)
      (entry : List (Event RunOps)) (n : Nat) (loop' : NodeLoop),
      (processWorkflowRunJob env).Runs entry (.inl (.v3 d dsl m p)) →
      LoopRun env (fun _ => True) (.v3 d dsl m p) n loop' → n ≤ dsl.nodes.length := by
  intro bounded
  have round : Sample.goesRound Sample.misnamed (fun _ => True) 2 := by decide +kernel
  obtain ⟨entry, d, dsl, m, p, loop', same, entered, run⟩ := Sample.loopRun_of_goesRound round
  have bound := bounded Vespid.Sample.sampleEnv d dsl m p entry 2 loop' entered run
  rw [same] at bound
  revert bound
  decide

end Vespid.Worker
