import Vespid.Run.Ops

/-!
# Deciding approval requests

The approve and reject routes, after authentication and the role check.
-/

namespace Vespid.Api

open Interleaving Workflow

variable (env : RunEnv)

/-- An event about a decision, with its note or else `message`. -/
def appendDecision (run : WorkflowRun) (approval : WorkflowApprovalRequest) (eventType : String)
    (level : EventLevel) (message : String) : RunProgram Unit :=
  ask (.appendWorkflowRunEvent
    { attemptCount := max 1 run.attemptCount, eventType, level, nodeId := some approval.nodeId,
      nodeType := some approval.nodeType,
      message := some (approval.decisionNote.getD message) })

/-- `queueProducer.enqueueWorkflowRun` -/
def enqueueWorkflowRun : RunProgram Unit := ask (.queueAdd 0 (max 1 env.run.maxAttempts))

def resumeApproved (approval : WorkflowApprovalRequest) : RunProgram Outcome := do
  let run : Option WorkflowRun ← ask (.getWorkflowRunByBlockedRequestId approval.id.value)
  match run with
  | none => return .returned
  | some run =>
    let cleared : Bool ← ask (.clearWorkflowRunBlock approval.id.value none)
    if cleared then
      appendDecision run approval "approval_approved" .info "approval granted"
      enqueueWorkflowRun env
      return .returned
    else return .returned

/-- `POST /v1/orgs/:orgId/approvals/:approvalId/approve` -/
def approve (approvalId : Uuid) (note : Option String) : RunProgram Outcome := do
  let existing : Option WorkflowApprovalRequest ← ask (.getWorkflowApprovalRequestById approvalId)
  match existing with
  | none => return .threw "Approval request not found"
  | some existing =>
    if existing.status ≠ .pending then return .threw "Approval request is already finalized"
    else
      let now : Int ← ask .dateNow
      if existing.expiresAt ≤ now then
        let _ ← ask (.decideWorkflowApprovalRequest existing.id .expired
          (some "expired before manual approval"))
        return .threw "Approval request has expired"
      else
        let approval : Option WorkflowApprovalRequest ←
          ask (.decideWorkflowApprovalRequest existing.id .approved (note.filter (· ≠ "")))
        match approval with
        | none => return .threw "Approval request is already finalized"
        | some approval => resumeApproved env approval

def failRejected (approval : WorkflowApprovalRequest) : RunProgram Outcome := do
  let run : Option WorkflowRun ← ask (.getWorkflowRunByBlockedRequestId approval.id.value)
  match run with
  | none => return .returned
  | some run =>
    let _ ← ask (.clearWorkflowRunBlock approval.id.value none)
    ask (.markWorkflowRunFailed "APPROVAL_REJECTED")
    appendDecision run approval "approval_rejected" .warn "approval rejected"
    return .returned

/-- `POST /v1/orgs/:orgId/approvals/:approvalId/reject` -/
def reject (approvalId : Uuid) (note : Option String) : RunProgram Outcome := do
  let existing : Option WorkflowApprovalRequest ← ask (.getWorkflowApprovalRequestById approvalId)
  match existing with
  | none => return .threw "Approval request not found"
  | some existing =>
    if existing.status ≠ .pending then return .threw "Approval request is already finalized"
    else
      let approval : Option WorkflowApprovalRequest ←
        ask (.decideWorkflowApprovalRequest existing.id .rejected (note.filter (· ≠ "")))
      match approval with
      | none => return .threw "Approval request is already finalized"
      | some approval => failRejected approval

end Vespid.Api
