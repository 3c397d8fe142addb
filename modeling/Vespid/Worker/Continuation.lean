import Vespid.Run.Ops

/-!
# Continuations

`processContinuationPayload`: what the continuation worker does with one polled, pushed or
progress message about a remote node, and how it puts the run back on the run queue.
-/

namespace Vespid.Worker

open Workflow Interleaving

inductive ContinuationKind where
  | poll
  | apply (result : GatewayDispatchResponse)
  | event (level : EventLevel) (kind : String)

/-- A continuation job. Its producers take the request id from a dispatch of the run, so it is
given here by the node and the attempt it was built from. -/
structure ContinuationPayload where
  dispatchNodeId : String
  attemptCount : Nat
  kind : ContinuationKind

def ContinuationPayload.requestId (env : RunEnv) (payload : ContinuationPayload) : String :=
  requestIdOf env.run.id payload.dispatchNodeId payload.attemptCount

variable (env : RunEnv)

def retryDelayMs (attemptCount : Nat) : Nat :=
  let cappedAttempt := min 10 (max 1 attemptCount)
  min 60000 (env.retryBackoffMs * 2 ^ (cappedAttempt - 1))

/-- `runQueue.enqueue` -/
def enqueue (delayMs : Nat) : RunProgram Unit := do
  ask .queueRemove
  ask (.queueAdd delayMs 1)

def appendContinuationEvent (payload : ContinuationPayload) (eventType : String)
    (level : EventLevel) (node : Option WorkflowNode) (message : Option String) :
    RunProgram Unit :=
  ask (.appendWorkflowRunEvent
    { attemptCount := payload.attemptCount, eventType, level, nodeId := node.map (·.id),
      nodeType := node.map (·.type), message })

def applyRemoteFailure (payload : ContinuationPayload) (node : WorkflowNode)
    (errorMessage : String) : RunProgram Unit := do
  let _ ← ask .getWorkflowRunById
  appendContinuationEvent payload "node_failed" .error (some node) (some errorMessage)
  if payload.attemptCount ≥ env.run.maxAttempts then
    ask (.markWorkflowRunFailed errorMessage)
    appendContinuationEvent payload "run_failed" .error none (some errorMessage)
  else
    let delayMs := retryDelayMs env payload.attemptCount
    let now : Int ← ask .dateNow
    ask (.markWorkflowRunQueuedForRetry errorMessage (some (now + delayMs)))
    appendContinuationEvent payload "run_retried" .warn none (some errorMessage)
    enqueue delayMs

/-- The output a run is resumed with: its own, with the remote result in the runtime. -/
def pendingOutput (payload : ContinuationPayload) (run : WorkflowRun)
    (result : GatewayDispatchResponse) : WorkflowExecutionResult :=
  let runtime := mergeRuntime (parseRuntimeFromRunOutput run.output)
    (some (.obj [("pendingRemoteResult",
      .obj [("requestId", .str (payload.requestId env)), ("result", result.toJson)])]))
  buildProgressOutput (parseStepsFromRunOutput run.output) runtime

/-- A remote result that succeeded: store it, clear the block and resume the run. -/
def applyRemoteSuccess (payload : ContinuationPayload) (run : WorkflowRun) (node : WorkflowNode)
    (result : GatewayDispatchResponse) : RunProgram Unit := do
  appendContinuationEvent payload "remote_result_received" .info (some node) none
  let cleared : Bool ← ask (.clearWorkflowRunBlock (payload.requestId env)
    (some (pendingOutput env payload run result)))
  if cleared then enqueue 0 else return ()

def applyRemoteResult (payload : ContinuationPayload) (run : WorkflowRun) (node : WorkflowNode)
    (result : GatewayDispatchResponse) : RunProgram Unit :=
  match result.status with
  | .failed =>
    applyRemoteFailure env payload node (result.error.getD RemoteExecError.nodeExecutionFailed)
  | .succeeded => applyRemoteSuccess env payload run node result

/-- The node a run is blocked on, as the continuation worker looks it up. -/
def blockedNode (run : WorkflowRun) : WorkflowDslAny → Option WorkflowNode
  | .v2 dsl => dsl.nodes[run.cursorNodeIndex]?
  | .v3 dsl => (run.blocked.map (·.nodeId)).bind dsl.node?

def processBlocked (payload : ContinuationPayload) (run : WorkflowRun) (node : WorkflowNode) :
    RunProgram Outcome := do
  match payload.kind with
  | .event level kind =>
    appendContinuationEvent payload "remote_event" level (some node) (some kind)
    return .returned
  | .apply result =>
    applyRemoteResult env payload run node result
    return .returned
  | .poll =>
    let now : Int ← ask .dateNow
    if run.blocked.any fun block => now ≥ block.timeoutAt then
      applyRemoteFailure env payload node RemoteExecError.nodeExecutionTimeout
      return .returned
    else
      let fetched : Except FetchError GatewayDispatchResponse ←
        ask (.fetchGatewayResult (payload.requestId env))
      match fetched with
      | .error .gatewayResponseInvalid =>
        applyRemoteFailure env payload node FetchError.gatewayResponseInvalid.literal
        return .returned
      | .error error => return .threw error.literal
      | .ok result =>
        applyRemoteResult env payload run node result
        return .returned

def processContinuationPayload (payload : ContinuationPayload) : RunProgram Outcome := do
  let run : Option WorkflowRun ← ask .getWorkflowRunById
  match run with
  | none => return .returned
  | some run =>
    if run.status ≠ .running then return .returned
    else if run.blockedRequestId ≠ some (payload.requestId env) then return .returned
    else if run.attemptCount ≠ payload.attemptCount then return .returned
    else
      let workflow : Option WorkflowRow ← ask .getWorkflowById
      match workflow with
      | none => return .returned
      | some workflow =>
        match env.parseDsl workflow.dsl with
        | .error message => return .threw message
        | .ok dsl =>
          match blockedNode run dsl with
          | none =>
            ask (.markWorkflowRunFailed "REMOTE_RESULT_APPLY_FAILED")
            return .returned
          | some node => processBlocked env payload run node

end Vespid.Worker
