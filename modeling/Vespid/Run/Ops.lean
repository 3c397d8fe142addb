import Vespid.Lib.Program
import Vespid.Db.WorkflowApprovals
import Vespid.Worker.Executors
import Vespid.Worker.Policy

/-!
# What the handlers of a run ask for

One operation for each statement, queue command or remote call with which a handler of the
run awaits something. Between two of them other handlers may act. The ids of the run and its
organization are fixed, so no operation carries them.
-/

namespace Vespid

open Workflow Interleaving

inductive EventLevel where
  | info | warn | error
  deriving DecidableEq

/-- An entry of the run's event log, less its payload. -/
structure RunEvent where
  attemptCount : Nat
  eventType : String
  level : EventLevel
  nodeId : Option String := none
  nodeType : Option NodeType := none
  message : Option String := none
  deriving DecidableEq

/-- A workflow as the worker reads it. The stored DSL may not have the shape of one. -/
structure WorkflowRow where
  published : Bool
  dsl : Option WorkflowDslAny

inductive RunOp where
  | getWorkflowRunById
  | getOrganizationSettings
  | listOrganizationPolicyRules
  | getWorkflowById
  | appendWorkflowRunEvent (event : RunEvent)
  | markWorkflowRunRunning (attemptCount : Nat)
  | markWorkflowRunBlocked (cursorNodeIndex : Nat) (block : RunBlock)
      (output : WorkflowExecutionResult)
  | clearWorkflowRunBlock (expectedRequestId : String) (output : Option WorkflowExecutionResult)
  | updateWorkflowRunProgress (cursorNodeIndex : Nat) (output : WorkflowExecutionResult)
  | markWorkflowRunQueuedForRetry (error : String) (nextAttemptAt : Option Int)
  | markWorkflowRunSucceeded (output : WorkflowExecutionResult)
  | markWorkflowRunFailed (error : String)
  | hasApprovedWorkflowApprovalForRunNode (nodeId : String)
  | createWorkflowApprovalRequest (nodeId : String) (nodeType : NodeType) (reason : String)
      (expiresAt : Int)
  | getWorkflowApprovalRequestById (id : Uuid)
  | decideWorkflowApprovalRequest (id : Uuid) (status : ApprovalStatus)
      (decisionNote : Option String)
  | getWorkflowRunByBlockedRequestId (requestId : String)
  | execute (context : Worker.ExecutorContext)
  | dispatchViaGatewayAsync (request : GatewayDispatchRequest)
  | enqueueContinuationPoll (requestId : String) (attemptCount : Nat)
  | fetchGatewayResult (requestId : String)
  | dateNow
  | queueRemove
  | queueAdd (delayMs attempts : Nat)

abbrev RunOp.Reply : RunOp → Type
  | getWorkflowRunById => Option WorkflowRun
  | getOrganizationSettings => Option Json
  | listOrganizationPolicyRules => List Worker.OrgPolicyRule
  | getWorkflowById => Option WorkflowRow
  | appendWorkflowRunEvent _ => Unit
  | markWorkflowRunRunning _ => Option WorkflowRun
  | markWorkflowRunBlocked .. => Unit
  | clearWorkflowRunBlock .. => Bool
  | updateWorkflowRunProgress .. => Unit
  | markWorkflowRunQueuedForRetry .. => Unit
  | markWorkflowRunSucceeded _ => Unit
  | markWorkflowRunFailed _ => Unit
  | hasApprovedWorkflowApprovalForRunNode _ => Bool
  | createWorkflowApprovalRequest .. => Option WorkflowApprovalRequest
  | getWorkflowApprovalRequestById _ => Option WorkflowApprovalRequest
  | decideWorkflowApprovalRequest .. => Option WorkflowApprovalRequest
  | getWorkflowRunByBlockedRequestId _ => Option WorkflowRun
  | execute _ => Except String Worker.NodeResult
  | dispatchViaGatewayAsync _ => Except String Unit
  | enqueueContinuationPoll .. => Unit
  | fetchGatewayResult _ => Except FetchError GatewayDispatchResponse
  | dateNow => Int
  | queueRemove => Unit
  | queueAdd .. => Unit

/-- The operations of a run's handlers. -/
abbrev RunOps : Interface where
  Op := RunOp
  Reply := RunOp.Reply

/-- A program of a run's handlers. -/
abbrev RunProgram := Program RunOps

/-- Await one operation. -/
abbrev ask (op : RunOp) : RunProgram op.Reply := Program.issue (I := RunOps) op

/-- What the process environment fixes for the handlers of one run. -/
structure RunEnv where
  run : RunInfo
  js : JsRuntime
  /-- `executorRegistry.get(nodeType)` -/
  registered : NodeType → Bool
  /-- Whether the worker was given `enqueueContinuationPoll`. -/
  continuationQueue : Bool
  nodeExecTimeoutMs : Int
  approvalTtlSec : Int
  retryBackoffMs : Nat
  /-- The message with which `workflowDslAnySchema.parse` rejects a stored DSL. -/
  schemaError : Option WorkflowDslAny → String

/-- How a handler ends. -/
inductive Outcome where
  | returned
  | threw (message : String)
  deriving DecidableEq

/-- `workflowDslAnySchema.parse(workflow.dsl)` -/
def RunEnv.parseDsl (env : RunEnv) (dsl : Option WorkflowDslAny) : Except String WorkflowDslAny :=
  match dsl with
  | some value => if workflowDslAnySchema value then .ok value else .error (env.schemaError dsl)
  | none => .error (env.schemaError none)

end Vespid
