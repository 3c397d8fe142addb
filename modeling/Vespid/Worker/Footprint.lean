import Vespid.Worker.RunJob

/-!
# What the pieces of an attempt ask for

Most pieces of an attempt neither read the policy rules, nor reach an executor, nor end the
run successfully. The one that ends it is the graph loop's last.
-/

namespace Vespid

open Interleaving Worker Workflow

/-- Neither reads the rules, nor reaches an executor, nor ends the run successfully. -/
def RunOp.ordinary : RunOp → Bool
  | .listOrganizationPolicyRules | .execute _ | .markWorkflowRunSucceeded _ => false
  | _ => true

abbrev Ordinary {α : Type} (q : RunProgram α) : Prop := q.Only fun op : RunOp => op.ordinary = true

namespace Worker
variable {env : RunEnv} {d : Delivery} {p : Progress} {dsl : WorkflowDslV3} {m : StepMap}

theorem failAttempt_ordinary (attemptCount : Nat) (message : String) :
    Ordinary (failAttempt env attemptCount message) := by
  unfold failAttempt
  split <;> simp [appendEvent, RunOp.ordinary]

theorem requestApproval_ordinary (node : WorkflowNode) (reason : String) (cursor : Nat) :
    Ordinary (requestApproval env d p node reason cursor) := by
  simp only [requestApproval, ask, Program.issue_eq, Program.call_bind, Program.done_bind,
    Program.only_call]
  refine ⟨rfl, fun now => ⟨rfl, fun approval => ?_⟩⟩
  cases approval <;> simp [appendNodeEvent, appendEvent, RunOp.ordinary]

theorem recordResult_ordinary (node : WorkflowNode) (result : NodeResult) (cursor : Nat) :
    Ordinary (recordResult env d p node result cursor) := by
  unfold recordResult
  cases result.status with
  | blocked =>
    dsimp only
    split
    · simp
    · split
      · simp
      · simp only [dispatchBlocked, ask, Program.issue_eq, Program.call_bind, Program.done_bind,
          Program.only_call]
        refine ⟨rfl, fun dispatched => ?_⟩
        cases dispatched <;> simp [appendNodeEvent, appendEvent, RunOp.ordinary]
  | failed => simp [appendNodeEvent, appendEvent, RunOp.ordinary]
  | succeeded => simp [appendNodeEvent, appendEvent, RunOp.ordinary]

theorem recordStep_ordinary (node : WorkflowNode) (output : Json) :
    Ordinary (recordStep env d dsl m p node output) := by
  simp [recordStep, checkpointGraph, appendNodeEvent, appendEvent, RunOp.ordinary]

theorem appendSkipped_ordinary (nodeIds : List String) :
    Ordinary (appendSkipped d dsl nodeIds) := by
  induction nodeIds with
  | nil => simp [appendSkipped]
  | cons nodeId rest ih =>
    unfold appendSkipped
    cases dsl.node? nodeId with
    | none => exact ih
    | some node => exact ⟨rfl, fun _ => ih⟩

/-! ### The end of a run -/

/-- Does not end the run successfully. -/
def goesOn : RunOp → Prop
  | .markWorkflowRunSucceeded _ => False
  | _ => True

theorem goesOn_of_ordinary {α : Type} {q : RunProgram α} (ordinary : Ordinary q) :
    q.Only goesOn := by
  refine Program.only_mono (fun op known => ?_) ordinary
  cases op <;> trivial

theorem runExecutor_goesOn (node : WorkflowNode) (cursor : Nat) :
    (runExecutor env d p node cursor).Only goesOn := by
  unfold runExecutor
  split
  · exact ⟨trivial, fun _ => trivial⟩
  · exact ⟨trivial, fun _ => goesOn_of_ordinary (recordResult_ordinary node _ cursor)⟩

theorem executeNode_goesOn (node : WorkflowNode) (cursor : Nat) :
    (executeNode env d p node cursor).Only goesOn := by
  simp only [executeNode, appendNodeEvent, appendEvent, ask, Program.issue_eq, Program.call_bind,
    Program.done_bind, Program.only_call]
  refine ⟨trivial, fun _ => ?_⟩
  cases (evaluateNodePolicy (buildNodePolicyContext node) d.policyRules).decision with
  | allow => exact runExecutor_goesOn node cursor
  | deny => exact ⟨trivial, fun _ => trivial⟩
  | requireApproval =>
    refine ⟨trivial, fun hasApproval => ?_⟩
    cases hasApproval with
    | true => exact runExecutor_goesOn node cursor
    | false => exact goesOn_of_ordinary (requestApproval_ordinary node _ cursor)

/-- What a graph loop that has ended leaves in the row. -/
def graphOutput (env : RunEnv) (dsl : WorkflowDslV3) (m : StepMap) (p : Progress) :
    WorkflowExecutionResult :=
  buildProgressOutput p.steps (mergeRuntime p.runtime
    (some (.obj [("graphV3", snapshotGraphV3Runtime env.js dsl p.steps m true)])))

/-- A graph loop ends the run successfully only where no node is left to take. -/
def endsGraph (env : RunEnv) (dsl : WorkflowDslV3) (m : StepMap) (p : Progress) : RunOp → Prop
  | .markWorkflowRunSucceeded output =>
    pickNode env.js dsl m = none ∧ output = graphOutput env dsl m p
  | _ => True

theorem endsGraph_of_goesOn {α : Type} {q : RunProgram α} (goesOn : q.Only goesOn) :
    q.Only (endsGraph env dsl m p) := by
  refine Program.only_mono (fun op known => ?_) goesOn
  cases op <;> trivial

theorem graphIteration_endsGraph :
    (graphIteration env d dsl m p).Only (endsGraph env dsl m p) := by
  have failed (message : String) : (do
      let o ← failAttempt env d.attemptCount message
      return Sum.inr o : RunProgram (NodeLoop ⊕ Outcome)).Only (endsGraph env dsl m p) := by
    have ordinary : Ordinary (failAttempt env d.attemptCount message) := failAttempt_ordinary _ _
    exact Program.only_bind (endsGraph_of_goesOn (goesOn_of_ordinary ordinary)) fun _ => trivial
  have stepped (node : WorkflowNode) (output : Json) :
      (recordStep env d dsl m p node output).Only (endsGraph env dsl m p) :=
    endsGraph_of_goesOn (goesOn_of_ordinary (recordStep_ordinary node output))
  unfold graphIteration
  split
  · rename_i picked
    refine Program.only_bind (Program.only_bind (endsGraph_of_goesOn
      (goesOn_of_ordinary (appendSkipped_ordinary _))) fun _ => ?_) fun _ => trivial
    exact ⟨⟨picked, rfl⟩, fun _ => ⟨trivial, fun _ => trivial⟩⟩
  · split
    · exact ⟨trivial, fun _ => ⟨trivial, fun _ => failed _⟩⟩
    · exact stepped _ _
    · exact stepped _ _
    · refine Program.only_bind (endsGraph_of_goesOn (executeNode_goesOn _ 0)) fun outcome => ?_
      cases outcome with
      | blocked => exact trivial
      | threw message => exact failed message
      | finished p' => exact ⟨trivial, fun _ => trivial⟩

end Worker

end Vespid
