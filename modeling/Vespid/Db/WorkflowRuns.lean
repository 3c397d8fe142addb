import Vespid.Workflow.Dsl

/-!
# The workflow run row

The columns of a run that change after its creation, and the repository functions that
update them. Every update names the row by its id; only `clearWorkflowRunBlock` looks at
what the row holds.
-/

namespace Vespid

open Workflow (NodeType)

/-! ### Execution results -/

inductive StepStatus where
  | succeeded | failed
  deriving DecidableEq

structure WorkflowExecutionStep where
  nodeId : String
  nodeType : NodeType
  status : StepStatus
  output : Option Json := none
  error : Option String := none

structure WorkflowExecutionResult where
  status : StepStatus
  steps : List WorkflowExecutionStep
  completedNodeCount : Nat
  failedNodeId : Option String
  runtime : Option Json

def buildProgressOutput (steps : List WorkflowExecutionStep) (runtime : Json) :
    WorkflowExecutionResult :=
  let failedNodeId := (steps.find? fun step => step.status = .failed).map (·.nodeId)
  { status := if (failedNodeId.any fun id => id ≠ "") then .failed else .succeeded
    steps
    completedNodeCount := steps.countP fun step => step.status = .succeeded
    failedNodeId
    runtime := if runtime.truthy then some runtime else none }

def parseStepsFromRunOutput : Option WorkflowExecutionResult → List WorkflowExecutionStep
  | none => []
  | some output => output.steps

def parseRuntimeFromRunOutput (output : Option WorkflowExecutionResult) : Json :=
  (output.bind (·.runtime)).getD .null

def mergeRuntime (base : Json) (override : Option Json) : Json :=
  match override.bind Json.asObject with
  | none => base
  | some o =>
    match base.asObject with
    | none => .obj o
    | some b => Json.spread b o

@[simp] theorem mergeRuntime_none (base : Json) : mergeRuntime base none = base := rfl

@[simp] theorem parseSteps_buildProgressOutput (steps : List WorkflowExecutionStep) (runtime : Json) :
    parseStepsFromRunOutput (some (buildProgressOutput steps runtime)) = steps := rfl

/-! ### The row -/

inductive RunStatus where
  | queued | running | succeeded | failed
  deriving DecidableEq

def RunStatus.terminal : RunStatus → Bool
  | queued | running => false
  | succeeded | failed => true

inductive BlockedKind where
  | approval | agentExecute | connectorAction | agentRun
  deriving DecidableEq

/-- The `blocked…` columns, which are written and cleared together. -/
structure RunBlock where
  requestId : String
  nodeId : String
  nodeType : NodeType
  kind : BlockedKind
  timeoutAt : Int
  deriving DecidableEq

/-- The columns of a run that no update changes. -/
structure RunInfo where
  id : String
  organizationId : String
  workflowId : String
  requestedByUserId : String
  maxAttempts : Nat
  input : Option Json

structure WorkflowRun where
  status : RunStatus
  attemptCount : Nat
  nextAttemptAt : Option Int
  cursorNodeIndex : Nat
  blocked : Option RunBlock
  output : Option WorkflowExecutionResult
  error : Option String

namespace WorkflowRun

/-- A run as its creation leaves it. -/
def created : WorkflowRun :=
  { status := .queued, attemptCount := 0, nextAttemptAt := none, cursorNodeIndex := 0,
    blocked := none, output := none, error := none }

def blockedRequestId (run : WorkflowRun) : Option String := run.blocked.map (·.requestId)

def markRunning (run : WorkflowRun) (attemptCount : Nat) : WorkflowRun :=
  { run with status := .running, error := none, nextAttemptAt := none, output := none,
             cursorNodeIndex := 0, blocked := none, attemptCount }

def markBlocked (run : WorkflowRun) (cursorNodeIndex : Nat) (block : RunBlock)
    (output : WorkflowExecutionResult) : WorkflowRun :=
  { run with cursorNodeIndex, blocked := some block, output := some output }

/-- The update behind `clearWorkflowRunBlock`; no row matches when the run is not blocked on
the expected request. -/
def clearBlock (run : WorkflowRun) (expectedRequestId : String)
    (output : Option WorkflowExecutionResult) : Option WorkflowRun :=
  if run.blockedRequestId = some expectedRequestId then
    some { run with blocked := none, output := output.or run.output }
  else none

def updateProgress (run : WorkflowRun) (cursorNodeIndex : Nat) (output : WorkflowExecutionResult) :
    WorkflowRun :=
  { run with cursorNodeIndex, output := some output }

def markQueuedForRetry (run : WorkflowRun) (error : String) (nextAttemptAt : Option Int) :
    WorkflowRun :=
  { run with status := .queued, error := some error, nextAttemptAt, cursorNodeIndex := 0,
             blocked := none }

def markSucceeded (run : WorkflowRun) (output : WorkflowExecutionResult) : WorkflowRun :=
  { run with status := .succeeded, output := some output, error := none, nextAttemptAt := none }

def markFailed (run : WorkflowRun) (error : String) : WorkflowRun :=
  { run with status := .failed, error := some error, nextAttemptAt := none, blocked := none }

variable {run run' : WorkflowRun}

theorem clearBlock_of_blocked {expected : String} (output : Option WorkflowExecutionResult)
    (blocked : run.blockedRequestId = some expected) : run.clearBlock expected output =
      some { run with blocked := none, output := output.or run.output } := by
  rw [clearBlock, if_pos blocked]

theorem clearBlock_eq_some_iff {expected : String} {output : Option WorkflowExecutionResult} :
    run.clearBlock expected output = some run' ↔
      run.blockedRequestId = some expected ∧
        run' = { run with blocked := none, output := output.or run.output } := by
  simp only [clearBlock]
  split <;> simp_all [eq_comm]

end WorkflowRun

end Vespid
