import Vespid.Run.System

/-!
# What a handler knows

The stages a handler passes through, as the operations it issued and their replies tell. A
stage says what the handler last learned about the run and what it still owes; the protocol
says which operations each stage allows. Every handler follows it, so invariants of the run
can be proved from stages and operations alone.
-/

namespace Vespid

open Interleaving Worker Workflow

inductive Stage where
  /-- A delivery of the run job that has not read the run. -/
  | delivered
  /-- It read a queued run with `known` attempts and is to start the next. -/
  | starting (known : Nat)
  /-- It runs attempt `max 1 known`; `known` is the count it read or wrote. -/
  | working (known : Nat)
  /-- It created an approval request and is to block the run on it. -/
  | requested (known : Nat) (approvalId : Uuid)
  /-- It put the run back to queued and is to throw. -/
  | retrying
  | received (payload : ContinuationPayload)
  /-- A continuation that found the run blocked on its request. -/
  | checked (payload : ContinuationPayload)
  /-- It took the run out of its block or attempt and is to enqueue it. -/
  | owing
  | deciding (status : ApprovalStatus)
  | approved (approvalId : Uuid)
  /-- It approved the request and found the run blocked on it. -/
  | resuming (approvalId : Uuid)
  | rejected (approvalId : Uuid)
  /-- It rejected the request and found the run, with `known` attempts, blocked on it. -/
  | failing (approvalId : Uuid) (known : Nat)
  | done

namespace Stage

/-- A delivery of the run job reads the run. -/
def ofRun : Option WorkflowRun → Stage
  | none => done
  | some run =>
    match run.status with
    | .succeeded | .failed => done
    | .running =>
      if run.blocked.isSome then done else working run.attemptCount
    | .queued => starting run.attemptCount

/-- A continuation reads the run. -/
def ofBlockedRun (env : RunEnv) (payload : ContinuationPayload) : Option WorkflowRun → Stage
  | none => done
  | some run =>
    if run.status = .running ∧ run.blockedRequestId = some (payload.requestId env) ∧
        run.attemptCount = payload.attemptCount then checked payload
    else done

/-- A decision applied to a pending request, or did not. -/
@[simp] def ofDecision : ApprovalStatus → ApprovalStatus → Option WorkflowApprovalRequest → Stage
  | .approved, .approved, some approval => approved approval.id
  | .rejected, .rejected, some approval => rejected approval.id
  | _, _, _ => done

/-- What a handler knows after one more operation. -/
def observe (env : RunEnv) : Stage → (op : RunOp) → op.Reply → Stage
  | delivered, .getWorkflowRunById, run => ofRun run
  | starting known, .markWorkflowRunRunning _, some _ => working (known + 1)
  | starting _, .markWorkflowRunRunning _, none => done
  | starting _, .markWorkflowRunFailed _, _ => done
  | working known, .createWorkflowApprovalRequest .., some approval => requested known approval.id
  | working _, .markWorkflowRunBlocked .., _ => done
  | working _, .markWorkflowRunQueuedForRetry .., _ => retrying
  | working _, .markWorkflowRunSucceeded _, _ => done
  | working _, .markWorkflowRunFailed _, _ => done
  | requested .., .markWorkflowRunBlocked .., _ => done
  | received payload, .getWorkflowRunById, run => ofBlockedRun env payload run
  | checked _, .markWorkflowRunQueuedForRetry .., _ => owing
  | checked _, .markWorkflowRunFailed _, _ => done
  | checked _, .clearWorkflowRunBlock .., cleared => if cleared then owing else done
  | owing, .queueAdd .., _ => done
  | deciding decision, .decideWorkflowApprovalRequest _ status _, approval =>
    ofDecision decision status approval
  | approved approvalId, .getWorkflowRunByBlockedRequestId _, some _ => resuming approvalId
  | approved _, .getWorkflowRunByBlockedRequestId _, none => done
  | resuming _, .clearWorkflowRunBlock .., cleared => if cleared then owing else done
  | rejected approvalId, .getWorkflowRunByBlockedRequestId _, some run =>
    failing approvalId run.attemptCount
  | rejected _, .getWorkflowRunByBlockedRequestId _, none => done
  | failing .., .markWorkflowRunFailed _, _ => done
  | s, _, _ => s

/-- Which operations a stage allows; what reads, logs or asks the outside is always allowed. -/
def permits (env : RunEnv) (s : Stage) : RunOp → Prop
  | .markWorkflowRunRunning attempt => ∃ known, s = starting known ∧ attempt = known + 1
  | .markWorkflowRunBlocked _ block _ =>
    (∃ known, s = working known ∧ block.kind ≠ .approval ∧
      ∃ nodeId, block.requestId = requestIdOf env.run.id nodeId (max 1 known)) ∨
    ∃ known approvalId, s = requested known approvalId ∧ block.kind = .approval ∧
      block.requestId = approvalId.value
  | .clearWorkflowRunBlock expected _ =>
    (∃ payload, s = checked payload ∧ expected = payload.requestId env) ∨
      (∃ approvalId, s = resuming approvalId ∧ expected = approvalId.value) ∨
      ∃ approvalId known, s = failing approvalId known ∧ expected = approvalId.value
  | .updateWorkflowRunProgress .. => ∃ known, s = working known
  | .markWorkflowRunQueuedForRetry .. =>
    (∃ known, s = working known ∧ max 1 known < env.run.maxAttempts) ∨
      ∃ payload, s = checked payload ∧ payload.attemptCount < env.run.maxAttempts
  | .markWorkflowRunSucceeded _ => ∃ known, s = working known
  | .markWorkflowRunFailed _ =>
    (∃ known, s = starting known) ∨ (∃ known, s = working known) ∨
      (∃ payload, s = checked payload) ∨ ∃ approvalId known, s = failing approvalId known
  | .createWorkflowApprovalRequest .. => ∃ known, s = working known
  | .decideWorkflowApprovalRequest _ status _ =>
    s = deciding status ∨ s = deciding .approved ∧ status = .expired
  | .getWorkflowRunByBlockedRequestId requestId =>
    ∃ approvalId, (s = approved approvalId ∨ s = rejected approvalId) ∧ requestId = approvalId.value
  | .queueRemove | .queueAdd .. => s = owing
  | _ => True

/-- What the store promises about its replies. -/
def expects : (op : RunOp) → op.Reply → Prop
  | .getWorkflowById, workflow => workflow.isSome
  | .markWorkflowRunRunning _, run => run.isSome
  | .decideWorkflowApprovalRequest id _ _, approval => ∀ a, approval = some a → a.id = id
  | _, _ => True

end Stage

/-- The protocol all handlers of a run follow. -/
def runProtocol (env : RunEnv) : Protocol RunOps Stage where
  permits := Stage.permits env
  expects := Stage.expects
  observe := Stage.observe env

variable {env : RunEnv}

@[simp] theorem runProtocol_permits (s : Stage) (op : RunOp) :
    (runProtocol env).permits s op = s.permits env op := rfl

@[simp] theorem runProtocol_expects (op : RunOp) (reply : op.Reply) :
    (runProtocol env).expects op reply = Stage.expects op reply := rfl

@[simp] theorem runProtocol_observe (s : Stage) (op : RunOp) (reply : op.Reply) :
    (runProtocol env).observe s op reply = s.observe env op reply := rfl

/-! ### Operations that teach nothing -/

section neutral
variable (s : Stage)

@[simp] theorem observe_event (event : RunEvent) (reply : Unit) :
    s.observe env (.appendWorkflowRunEvent event) reply = s := by cases s <;> rfl

@[simp] theorem observe_settings (reply : Option Json) :
    s.observe env .getOrganizationSettings reply = s := by cases s <;> rfl

@[simp] theorem observe_rules (reply : List OrgPolicyRule) :
    s.observe env .listOrganizationPolicyRules reply = s := by cases s <;> rfl

@[simp] theorem observe_workflow (reply : Option WorkflowRow) :
    s.observe env .getWorkflowById reply = s := by cases s <;> rfl

@[simp] theorem observe_progress (cursor : Nat) (output : WorkflowExecutionResult) (reply : Unit) :
    s.observe env (.updateWorkflowRunProgress cursor output) reply = s := by cases s <;> rfl

@[simp] theorem observe_hasApproved (nodeId : String) (reply : Bool) :
    s.observe env (.hasApprovedWorkflowApprovalForRunNode nodeId) reply = s := by cases s <;> rfl

@[simp] theorem observe_getApproval (id : Uuid) (reply : Option WorkflowApprovalRequest) :
    s.observe env (.getWorkflowApprovalRequestById id) reply = s := by cases s <;> rfl

@[simp] theorem observe_execute (context : ExecutorContext) (reply : Except String NodeResult) :
    s.observe env (.execute context) reply = s := by cases s <;> rfl

@[simp] theorem observe_dispatch (request : GatewayDispatchRequest) (reply : Except String Unit) :
    s.observe env (.dispatchViaGatewayAsync request) reply = s := by cases s <;> rfl

@[simp] theorem observe_poll (requestId : String) (attempt : Nat) (reply : Unit) :
    s.observe env (.enqueueContinuationPoll requestId attempt) reply = s := by cases s <;> rfl

@[simp] theorem observe_fetch (requestId : String)
    (reply : Except FetchError GatewayDispatchResponse) :
    s.observe env (.fetchGatewayResult requestId) reply = s := by cases s <;> rfl

@[simp] theorem observe_now (reply : Int) : s.observe env .dateNow reply = s := by cases s <;> rfl

@[simp] theorem observe_remove (reply : Unit) : s.observe env .queueRemove reply = s := by
  cases s <;> rfl

end neutral

end Vespid
