import Vespid.Brain.Select
import Vespid.Scheduler.Cron

/-!
# Invoking a tool on an executor

A brain reserves an executor, reads the workspace, takes its lock, sends the call and waits
for the reply, which tells it what to commit; whatever happened, it then gives back the lock
and the reservation.
-/

namespace Vespid.Brain

open Interleaving

/-- A call of `invokeToolOnExecutor` with the random bytes it draws. -/
structure ToolCall where
  organizationId : String
  selector : Option ExecutorSelector
  kind : GatewayExecutionKind
  oauthRequiredEngine : Option ExecutorOauthEngineId
  payload : String
  timeoutMs : Nat
  workspaceOwner : WorkspaceOwner
  requestId : Option String
  lockBytes : String
  requestBytes : String
  deriving DecidableEq

/-- What is left of the request id when blanks are trimmed decides whether it is used. -/
def ToolCall.toolRequestId (call : ToolCall) : String :=
  match call.requestId with
  | some requestId =>
    if requestId.toList.any (!Scheduler.isSpace ·) then requestId
    else s!"{call.workspaceOwner.ownerId}:{call.requestBytes}"
  | none => s!"{call.workspaceOwner.ownerId}:{call.requestBytes}"

structure ToolResult where
  status : ReplyStatus
  output : Option String
  error : Option String
  workspace : Option WorkspacePointer
  deriving DecidableEq

def ToolResult.failed (error : String) : ToolResult :=
  { status := .failed, output := none, error := some error, workspace := none }

def SelectError.message : SelectError → String
  | noExecutorAvailable => "NO_EXECUTOR_AVAILABLE"
  | executorOverCapacity => "EXECUTOR_OVER_CAPACITY"
  | orgQuotaExceeded => "ORG_QUOTA_EXCEEDED"
  | executorOauthNotVerified => "EXECUTOR_OAUTH_NOT_VERIFIED"

def buildWorkspaceObjectKey (organizationId workspaceId : String) (version : Nat) : String :=
  s!"workspaces/{organizationId}/{workspaceId}/v{version}.tar.zst"

def workspaceOfOwner (call : ToolCall) : BrainProgram WorkspaceRow := do
  let found : Option WorkspaceRow ←
    await (.getExecutionWorkspaceByOwner call.organizationId call.workspaceOwner)
  match found with
  | some row => return row
  | none => await (.createExecutionWorkspace call.organizationId call.workspaceOwner)

def lockTtlSec (call : ToolCall) : Nat := max 30 ((call.timeoutMs + 999) / 1000 + 30)

/-- The call an executor gets for the workspace as it was read. -/
def invokeMessage (call : ToolCall) (row : WorkspaceRow) : InvokeTool :=
  { requestId := call.toolRequestId
    organizationId := call.organizationId
    kind := call.kind
    payload := call.payload
    timeoutMs := call.timeoutMs
    workspaceId := row.id
    version := row.currentVersion
    objectKey := row.currentObjectKey
    downloadKey := if row.currentObjectKey ≠ "" then some row.currentObjectKey else none
    uploadKey := buildWorkspaceObjectKey call.organizationId row.id (row.currentVersion + 1)
    uploadVersion := row.currentVersion + 1 }

/-- Commit what the reply names. Only a commit gives up the lock here. -/
def settleReply (call : ToolCall) (row : WorkspaceRow) (entry : Nat) (reply : ToolReply) :
    BrainProgram (ToolResult × Bool) :=
  let result : ToolResult :=
    { status := reply.status, output := reply.output, error := reply.error
      workspace := reply.workspace }
  match reply.workspace with
  | none => return (result, true)
  | some workspace => do
    let committed : Bool ← await (.commitExecutionWorkspaceVersion entry row.id
      row.currentVersion (workspace.objectKey.getD
        (buildWorkspaceObjectKey call.organizationId row.id (row.currentVersion + 1)))
      workspace.etag)
    if committed then return (result, false)
    else return (.failed "WORKSPACE_VERSION_CONFLICT", true)

/-- The call under the lock, and whether the lock is still to be released. -/
def callLocked (env : BrainEnv) (call : ToolCall) (row : WorkspaceRow)
    (executor : SelectedExecutor) : BrainProgram (ToolResult × Bool) :=
  if !env.s3Configured then return (.failed "WORKSPACE_S3_NOT_CONFIGURED", true)
  else do
    let entry : Nat ←
      await (.executorInvoke executor.edgeId executor.executorId (invokeMessage call row))
    let reply : Option ToolReply ←
      await (.waitForToolReply call.toolRequestId (call.timeoutMs + env.executorReplyGraceMs))
    match reply with
    | none => return (.failed "NODE_EXECUTION_TIMEOUT", true)
    | some reply => settleReply call row entry reply

def callOnWorkspace (env : BrainEnv) (call : ToolCall) (executor : SelectedExecutor) :
    BrainProgram ToolResult := do
  let row ← workspaceOfOwner call
  let locked : Bool ←
    await (.tryLockExecutionWorkspace row.id call.lockBytes (lockTtlSec call))
  if !locked then return .failed "WORKSPACE_LOCKED"
  else do
    let (result, toRelease) ← callLocked env call row executor
    if toRelease then
      await (.releaseExecutionWorkspaceLock row.id call.lockBytes)
      return result
    else return result

def invokeToolOnExecutor (env : BrainEnv) (call : ToolCall) : BrainProgram ToolResult := do
  let orgMaxInFlight : Nat ← await (.getOrgMaxInFlight call.organizationId)
  let selected ← selectExecutorForTool
    { organizationId := call.organizationId
      kind := call.kind
      selector := call.selector
      oauthRequiredEngine := call.oauthRequiredEngine
      orgMaxInFlight
      reserveTtlMs := env.reserveTtlMs }
  match selected with
  | .error error => return .failed error.message
  | .ok executor =>
    let result ← callOnWorkspace env call executor
    releaseCapacity executor.executorId call.organizationId
    return result

end Vespid.Brain
