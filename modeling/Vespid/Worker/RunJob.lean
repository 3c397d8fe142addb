import Vespid.Run.Ops
import Vespid.Worker.Graph
import Vespid.Workflow.Validate

/-!
# The run job

`processWorkflowRunJob`, from the delivery of a job to its return or throw. A thrown error
inside the attempt is a value that ends in `failAttempt`, the worker's catch block.
-/

namespace Vespid.Worker

open Workflow Interleaving

/-- What a delivery fixes before it runs nodes. -/
structure Delivery where
  attemptCount : Nat
  organizationSettings : Json
  policyRules : List OrgPolicyRule

/-- `steps` and `runtime`. -/
structure Progress where
  steps : List WorkflowExecutionStep
  runtime : Json

/-- The two node loops, between iterations. -/
inductive NodeLoop where
  | v2 (d : Delivery) (nodes : List WorkflowNode) (cursorNodeIndex : Nat) (p : Progress)
  | v3 (d : Delivery) (dsl : WorkflowDslV3) (stepByNodeId : StepMap) (p : Progress)

/-- How `executeNode` ends. -/
inductive NodeOutcome where
  | blocked
  | finished (p : Progress)
  | threw (message : String)

variable (env : RunEnv)

def appendEvent (attemptCount : Nat) (eventType : String) (level : EventLevel)
    (nodeId : Option String) (nodeType : Option NodeType) (message : Option String) :
    RunProgram Unit :=
  ask (.appendWorkflowRunEvent { attemptCount, eventType, level, nodeId, nodeType, message })

/-- An event about a node. -/
def appendNodeEvent (d : Delivery) (eventType : String) (level : EventLevel) (node : WorkflowNode)
    (message : Option String) : RunProgram Unit :=
  appendEvent d.attemptCount eventType level (some node.id) (some node.type) message

/-! ### The catch block -/

def isPolicyDenied (message : String) : Bool := startsWith message "POLICY_DENIED:"

def failAttempt (attemptCount : Nat) (message : String) : RunProgram Outcome :=
  if attemptCount < env.run.maxAttempts ∧ ¬isPolicyDenied message then do
    ask (.markWorkflowRunQueuedForRetry message none)
    appendEvent attemptCount "run_retried" .warn none none (some message)
    return .threw message
  else do
    ask (.markWorkflowRunFailed message)
    appendEvent attemptCount "run_failed" .error none none (some message)
    return .returned

/-! ### One node -/

def approvalTtlSec : Int := max 60 env.approvalTtlSec

/-- Ask for an approval and block the run on it. -/
def requestApproval (d : Delivery) (p : Progress) (node : WorkflowNode) (reason : String)
    (checkpointCursorNodeIndex : Nat) : RunProgram NodeOutcome := do
  let now : Int ← ask .dateNow
  let expiresAt := now + approvalTtlSec env * 1000
  let approval : Option WorkflowApprovalRequest ←
    ask (.createWorkflowApprovalRequest node.id node.type reason expiresAt)
  match approval with
  | none => return .threw "APPROVAL_REQUEST_CREATE_FAILED"
  | some approval =>
    appendNodeEvent d "approval_requested" .warn node (some reason)
    ask (.markWorkflowRunBlocked checkpointCursorNodeIndex
      { requestId := approval.id.value, nodeId := node.id, nodeType := node.type, kind := .approval,
        timeoutAt := expiresAt }
      (buildProgressOutput p.steps p.runtime))
    return .blocked

/-- Dispatch a remote node through the gateway and block the run on the request. -/
def dispatchBlocked (d : Delivery) (p : Progress) (node : WorkflowNode) (block : NodeBlock)
    (checkpointCursorNodeIndex : Nat) : RunProgram NodeOutcome := do
  let timeoutMs := block.timeoutMs.getD env.nodeExecTimeoutMs
  let request : GatewayDispatchRequest :=
    { requestedByUserId := env.run.requestedByUserId, runId := env.run.id
      nodeId := (block.dispatchNodeId.filter (· ≠ "")).getD node.id
      nodeType := node.type, attemptCount := d.attemptCount, kind := block.kind
      payload := block.payload, executorSelector := block.executorSelector
      secret := block.secret.filter (· ≠ ""), timeoutMs }
  let dispatched : Except String Unit ← ask (.dispatchViaGatewayAsync request)
  match dispatched with
  | .error error => return .threw error
  | .ok () =>
    let requestId := buildRequestId request
    appendNodeEvent d "node_dispatched" .info node none
    let now : Int ← ask .dateNow
    ask (.markWorkflowRunBlocked checkpointCursorNodeIndex
      { requestId, nodeId := node.id, nodeType := node.type, kind := block.kind.blockedKind,
        timeoutAt := now + timeoutMs }
      (buildProgressOutput p.steps p.runtime))
    ask (.enqueueContinuationPoll requestId d.attemptCount)
    return .blocked

def executorContext (d : Delivery) (p : Progress) (node : WorkflowNode) : ExecutorContext :=
  { runId := env.run.id, attemptCount := d.attemptCount,
    requestedByUserId := env.run.requestedByUserId, nodeId := node.id, nodeType := node.type,
    node, organizationSettings := d.organizationSettings, runInput := env.run.input,
    steps := p.steps, runtime := p.runtime,
    pendingRemoteResult := pendingRemoteResultOf p.runtime }

/-- What the worker does with an executor's result. -/
def recordResult (d : Delivery) (p : Progress) (node : WorkflowNode) (result : NodeResult)
    (checkpointCursorNodeIndex : Nat) : RunProgram NodeOutcome :=
  let runtime := mergeRuntime p.runtime result.runtime
  match result.status with
  | .blocked =>
    if !env.continuationQueue then return .threw "CONTINUATION_QUEUE_NOT_CONFIGURED"
    else match result.block with
      | none => return .threw "INVALID_BLOCK_RESULT"
      | some block =>
        dispatchBlocked env d { p with runtime } node block checkpointCursorNodeIndex
  | .failed => do
    let message := result.error.getD RemoteExecError.nodeExecutionFailed
    appendNodeEvent d "node_failed" .error node (some message)
    return .threw message
  | .succeeded => do
    appendNodeEvent d "node_succeeded" .info node none
    return .finished
      { steps := p.steps ++ [{ nodeId := node.id, nodeType := node.type, status := .succeeded,
                               output := result.output }]
        runtime }

/-- Run the executor of a node the policy lets through. -/
def runExecutor (d : Delivery) (p : Progress) (node : WorkflowNode)
    (checkpointCursorNodeIndex : Nat) : RunProgram NodeOutcome :=
  if !env.registered node.type then do
    let message := "EXECUTOR_NOT_FOUND:" ++ node.type.literal
    appendNodeEvent d "node_failed" .error node (some message)
    return .threw message
  else do
    let answer : Except String NodeResult ← ask (.execute (executorContext env d p node))
    let result := match answer with
      | .ok result => result
      | .error message => failed message
    recordResult env d p node result checkpointCursorNodeIndex

def executeNode (d : Delivery) (p : Progress) (node : WorkflowNode)
    (checkpointCursorNodeIndex : Nat) : RunProgram NodeOutcome := do
  appendNodeEvent d "node_started" .info node none
  let policyDecision := evaluateNodePolicy (buildNodePolicyContext node) d.policyRules
  match policyDecision.decision with
  | .allow => runExecutor env d p node checkpointCursorNodeIndex
  | .requireApproval =>
    let hasApproval : Bool ← ask (.hasApprovedWorkflowApprovalForRunNode node.id)
    if hasApproval then runExecutor env d p node checkpointCursorNodeIndex
    else requestApproval env d p node policyDecision.reason checkpointCursorNodeIndex
  | .deny =>
    let message := "POLICY_DENIED:" ++ policyDecision.reason
    appendNodeEvent d "policy_denied" .error node (some message)
    return .threw message

/-! ### The node loops -/

/-- `checkpointProgress` of a graph: the runtime takes the snapshot. -/
def checkpointGraph (dsl : WorkflowDslV3) (m : StepMap) (p : Progress) : RunProgram Progress := do
  let runtime := mergeRuntime p.runtime
    (some (.obj [("graphV3", snapshotGraphV3Runtime env.js dsl p.steps m false)]))
  ask (.updateWorkflowRunProgress 0 (buildProgressOutput p.steps runtime))
  return { p with runtime }

/-- Everything after the node loop. -/
def succeedAttempt (d : Delivery) (p : Progress) : RunProgram Outcome := do
  ask (.markWorkflowRunSucceeded (buildProgressOutput p.steps p.runtime))
  appendEvent d.attemptCount "run_succeeded" .info none none none
  return .returned

/-- One event for each of the skipped nodes, the first 500 of them. -/
def appendSkipped (d : Delivery) (dsl : WorkflowDslV3) : List String → RunProgram Unit
  | [] => return ()
  | nodeId :: rest => do
    match dsl.node? nodeId with
    | some node => appendEvent d.attemptCount "node_skipped" .info (some nodeId) (some node.type) none
    | none => pure ()
    appendSkipped d dsl rest

/-- The graph loop has ended: record the skipped nodes. -/
def finishGraph (d : Delivery) (dsl : WorkflowDslV3) (m : StepMap) (p : Progress) :
    RunProgram Outcome := do
  let runtime := mergeRuntime p.runtime
    (some (.obj [("graphV3", snapshotGraphV3Runtime env.js dsl p.steps m true)]))
  appendSkipped d dsl (((skippedNodes env.js dsl m).map Prod.fst).take 500)
  succeedAttempt d { p with runtime }

/-- Record a step the loop computed itself. -/
def recordStep (d : Delivery) (dsl : WorkflowDslV3) (m : StepMap) (p : Progress)
    (node : WorkflowNode) (output : Json) : RunProgram (NodeLoop ⊕ Outcome) := do
  appendNodeEvent d "node_started" .info node none
  appendNodeEvent d "node_succeeded" .info node none
  let step : WorkflowExecutionStep :=
    { nodeId := node.id, nodeType := node.type, status := .succeeded, output := some output }
  let m := OrderedMap.set m node.id step
  let p ← checkpointGraph env dsl m { p with steps := p.steps ++ [step] }
  return .inl (.v3 d dsl m p)

/-- `stepByNodeId.set(last.nodeId, last)` for the last step. -/
def recordLast (m : StepMap) (steps : List WorkflowExecutionStep) : StepMap :=
  match steps.getLast? with
  | some last => OrderedMap.set m last.nodeId last
  | none => m

def graphIteration (d : Delivery) (dsl : WorkflowDslV3) (m : StepMap) (p : Progress) :
    RunProgram (NodeLoop ⊕ Outcome) :=
  match pickNode env.js dsl m with
  | none => do return .inr (← finishGraph env d dsl m p)
  | some (_, node) =>
    match node with
    | .condition _ none => do
      appendNodeEvent d "node_started" .info node none
      appendNodeEvent d "node_failed" .error node (some "INVALID_CONDITION_CONFIG")
      return .inr (← failAttempt env d.attemptCount "INVALID_CONDITION_CONFIG")
    | .condition _ (some config) =>
      recordStep env d dsl m p node (conditionOutput env.js config env.run.input)
    | .parallelJoin .. => recordStep env d dsl m p node (joinOutput dsl m node.id)
    | _ => do
      match ← executeNode env d p node 0 with
      | .blocked => return .inr .returned
      | .threw message => return .inr (← failAttempt env d.attemptCount message)
      | .finished p =>
        let m := recordLast m p.steps
        let p ← checkpointGraph env dsl m p
        return .inl (.v3 d dsl m p)

/-- What follows the execution of a node in an iteration of the v3 loop. -/
def afterNode (d : Delivery) (dsl : WorkflowDslV3) (m : StepMap) :
    NodeOutcome → RunProgram (NodeLoop ⊕ Outcome)
  | .blocked => return .inr .returned
  | .threw message => do return .inr (← failAttempt env d.attemptCount message)
  | .finished p => do
    let m := recordLast m p.steps
    let p ← checkpointGraph env dsl m p
    return .inl (.v3 d dsl m p)

/-- One iteration of the v2 loop. -/
def listIteration (d : Delivery) (nodes : List WorkflowNode) (index : Nat) (p : Progress) :
    RunProgram (NodeLoop ⊕ Outcome) :=
  match nodes[index]? with
  | none => do return .inr (← succeedAttempt d p)
  | some node => do
    match ← executeNode env d p node index with
    | .blocked => return .inr .returned
    | .threw message => return .inr (← failAttempt env d.attemptCount message)
    | .finished p =>
      ask (.updateWorkflowRunProgress (index + 1) (buildProgressOutput p.steps p.runtime))
      return .inl (.v2 d nodes (index + 1) p)

def runJobIteration : NodeLoop → RunProgram (NodeLoop ⊕ Outcome)
  | .v2 d nodes index p => listIteration env d nodes index p
  | .v3 d dsl m p => graphIteration env d dsl m p

/-! ### The attempt -/

/-- Enter the node loop of a parsed DSL. -/
def startLoop (d : Delivery) (cursorNodeIndex : Nat) (p : Progress) (dsl : Option WorkflowDslAny) :
    RunProgram (NodeLoop ⊕ Outcome) :=
  match env.parseDsl dsl with
  | .error message => do return .inr (← failAttempt env d.attemptCount message)
  | .ok (.v2 dsl) => return .inl (.v2 d dsl.nodes cursorNodeIndex p)
  | .ok (.v3 dsl) =>
    match validateV3GraphConstraints dsl with
    | some issue => do return .inr (← failAttempt env d.attemptCount issue.code.literal)
    | none => return .inl (.v3 d dsl (.ofSteps p.steps) p)

/-- The attempt of a live run. -/
def runAttempt (run : WorkflowRun) : RunProgram (NodeLoop ⊕ Outcome) := do
  let settings : Option Json ← ask .getOrganizationSettings
  let policyRules : List OrgPolicyRule ← ask .listOrganizationPolicyRules
  let isStartingAttempt := run.status = .queued
  let attemptCount := max 1 (if isStartingAttempt then run.attemptCount + 1 else run.attemptCount)
  let d : Delivery :=
    { attemptCount, organizationSettings := settings.getD (.obj []), policyRules }
  let workflow : Option WorkflowRow ← ask .getWorkflowById
  match workflow with
  | none => return .inr .returned
  | some workflow =>
    if !workflow.published then
      ask (.markWorkflowRunFailed "WORKFLOW_NOT_PUBLISHED")
      appendEvent attemptCount "run_failed" .error none none (some "WORKFLOW_NOT_PUBLISHED")
      return .inr .returned
    else if isStartingAttempt then
      appendEvent attemptCount "run_started" .info none none none
      let running : Option WorkflowRun ← ask (.markWorkflowRunRunning attemptCount)
      match running with
      | none => return .inr .returned
      | some _ => startLoop env d 0 { steps := [], runtime := .null } workflow.dsl
    else
      startLoop env d run.cursorNodeIndex
        { steps := parseStepsFromRunOutput run.output
          runtime := parseRuntimeFromRunOutput run.output } workflow.dsl

/-- `processWorkflowRunJob`, up to its node loop. -/
def processWorkflowRunJob : RunProgram (NodeLoop ⊕ Outcome) := do
  let run : Option WorkflowRun ← ask .getWorkflowRunById
  match run with
  | none => return .inr .returned
  | some run =>
    match run.status with
    | .succeeded | .failed => return .inr .returned
    | .running =>
      -- another worker already dispatched a remote node for this attempt
      if run.blocked.isSome then return .inr .returned else runAttempt env run
    | .queued => runAttempt env run

end Vespid.Worker
