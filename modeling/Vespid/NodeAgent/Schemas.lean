import Vespid.Brain.Ops
import Vespid.Workflow.Dsl

/-!
# What a node agent accepts

The messages a node agent parses, and the schemas a message has to pass; it ignores what none of
them accepts. Optional fields that may also be null are absent here in both cases.
-/

namespace Vespid.NodeAgent.Schema

open Workflow

inductive EngineAuthMode where
  | env
  | inlineApiKey
  | oauthExecutor
  deriving DecidableEq

inductive MemoryProvider where
  | builtin
  | qmd
  deriving DecidableEq

structure EngineConfig where
  id : String
  model : Option String
  authMode : EngineAuthMode
  runtimeBaseUrl : Option String
  apiKey : Option String

/-- The floored limits are whole numbers. -/
structure SessionLimits where
  maxTurns : Int
  maxToolCalls : Int
  timeoutMs : Rat
  maxOutputChars : Int
  maxRuntimeChars : Int
  deriving DecidableEq

structure SessionOpen where
  requestId : String
  organizationId : String
  sessionId : String
  sessionKey : String
  routedAgentId : String
  userId : String
  engine : EngineConfig
  system : Option String
  instructions : String
  toolsAllow : List String
  limits : SessionLimits
  memoryProvider : MemoryProvider

structure SessionTurn where
  requestId : String
  organizationId : String
  sessionId : String
  sessionKey : String
  userId : String
  eventSeq : Int
  message : String
  attachments : Option (List Json)

structure SessionCancel where
  requestId : String
  organizationId : String
  sessionId : String

inductive MountMode where
  | ro
  | rw
  deriving DecidableEq

inductive NetworkMode where
  | none
  | enabled
  deriving DecidableEq

structure ToolPolicy where
  networkModeDefaultDeny : Bool
  networkMode : NetworkMode
  timeoutMs : Rat
  outputMaxChars : Rat
  mountsAllowlist : List (String × MountMode)

structure InvokeToolV2 where
  requestId : String
  organizationId : String
  userId : String
  kind : Brain.GatewayExecutionKind
  payload : Option Json
  secret : Option String
  toolPolicy : ToolPolicy
  workspaceId : String
  version : Int
  objectKey : String
  etag : Option String
  downloadUrl : Option String
  uploadUrl : String
  uploadObjectKey : String
  uploadVersion : Int

/-! ### Schemas -/

/-- `z.number().int().min(least).max(most)` -/
def integerBetween (least most : Int) (n : Rat) : Bool := n.isInt && least ≤ n && n ≤ most

def agentEngineIds : List String := ["gateway.codex.v2", "gateway.claude.v2", "gateway.opencode.v2"]

section schemas
-- `z.string().url()`
variable (isUrl : String → Bool)

def engineSchema (engine : EngineConfig) : Bool :=
  agentEngineIds.contains engine.id && engine.model.all (· ≠ "") &&
    engine.runtimeBaseUrl.all isUrl && engine.apiKey.all (· ≠ "")

def limitsSchema (limits : SessionLimits) : Bool :=
  integerBetween 1 200 limits.maxTurns && integerBetween 0 1000 limits.maxToolCalls &&
    integerBetween 1000 600000 limits.timeoutMs &&
    integerBetween 256 2000000 limits.maxOutputChars &&
    integerBetween 10000 5000000 limits.maxRuntimeChars

def sessionOpenSchema (message : SessionOpen) : Bool :=
  message.requestId ≠ "" && isUuid message.organizationId && isUuid message.sessionId &&
    message.sessionKey ≠ "" && message.routedAgentId ≠ "" && isUuid message.userId &&
    engineSchema isUrl message.engine && message.instructions ≠ "" &&
    message.toolsAllow.all (· ≠ "") && message.toolsAllow.length ≤ 200 &&
    limitsSchema message.limits

def sessionTurnSchema (message : SessionTurn) : Bool :=
  message.requestId ≠ "" && isUuid message.organizationId && isUuid message.sessionId &&
    message.sessionKey ≠ "" && isUuid message.userId && 0 ≤ message.eventSeq &&
    message.message ≠ ""

def sessionCancelSchema (message : SessionCancel) : Bool :=
  message.requestId ≠ "" && isUuid message.organizationId && isUuid message.sessionId

def toolPolicySchema (policy : ToolPolicy) : Bool :=
  integerBetween 1000 600000 policy.timeoutMs && integerBetween 256 1000000 policy.outputMaxChars &&
    policy.mountsAllowlist.all (·.1 ≠ "")

def invokeToolSchema (message : InvokeToolV2) : Bool :=
  message.requestId ≠ "" && isUuid message.organizationId && isUuid message.userId &&
    message.secret.all (· ≠ "") && toolPolicySchema message.toolPolicy &&
    isUuid message.workspaceId && 0 ≤ message.version && message.downloadUrl.all isUrl &&
    isUrl message.uploadUrl && message.uploadObjectKey ≠ "" && 1 ≤ message.uploadVersion

end schemas

end Vespid.NodeAgent.Schema
