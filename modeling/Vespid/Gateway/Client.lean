import Vespid.Db.WorkflowRuns

/-!
# Gateway dispatches

The requests the worker sends through the gateway, the id they travel under, and the
results that come back.
-/

namespace Vespid

open Workflow

inductive GatewayExecutionKind where
  | connectorAction | agentExecute | agentRun
  deriving DecidableEq

def GatewayExecutionKind.blockedKind : GatewayExecutionKind → BlockedKind
  | connectorAction => .connectorAction
  | agentExecute => .agentExecute
  | agentRun => .agentRun

/-- The payload of a dispatch, by the executor that builds it. -/
inductive GatewayPayload where
  | agentExecute (nodeId : String) (config : Option AgentExecuteConfig)
  | connectorAction (connectorId actionId : String) (input : Json) (githubApiBaseUrl : String)
  | agentRun (nodeId : String) (config : AgentRunConfig)
      (policyToolsAllow effectiveToolsAllow : List String) (engineSecretId : Option String)
      (connectorSecretIds : List (String × String))
  | other (payload : Json)

structure GatewayDispatchRequest where
  requestedByUserId : String
  runId : String
  nodeId : String
  nodeType : NodeType
  attemptCount : Nat
  kind : GatewayExecutionKind
  payload : GatewayPayload
  executorSelector : Option NodeExecutionSelector
  secret : Option String
  timeoutMs : Int

structure GatewayDispatchResponse where
  status : StepStatus
  output : Option Json
  error : Option String

def GatewayDispatchResponse.toJson (r : GatewayDispatchResponse) : Json :=
  .obj ([("status", .str (match r.status with | .succeeded => "succeeded" | .failed => "failed"))] ++
    (r.output.elim [] fun v => [("output", v)]) ++ (r.error.elim [] fun e => [("error", .str e)]))

/-- `${runId}:${nodeId}:${attemptCount}` -/
def requestIdOf (runId nodeId : String) (attemptCount : Nat) : String :=
  runId ++ ":" ++ nodeId ++ ":" ++ toString attemptCount

def buildRequestId (input : GatewayDispatchRequest) : String :=
  requestIdOf input.runId input.nodeId input.attemptCount

namespace RemoteExecError

def nodeExecutionFailed : String := "NODE_EXECUTION_FAILED"

def nodeExecutionTimeout : String := "NODE_EXECUTION_TIMEOUT"

end RemoteExecError

/-- Why a result could not be fetched. -/
inductive FetchError where
  | resultNotReady | gatewayUnavailable | gatewayResponseInvalid
  deriving DecidableEq

def FetchError.literal : FetchError → String
  | resultNotReady => "RESULT_NOT_READY"
  | gatewayUnavailable => "GATEWAY_UNAVAILABLE"
  | gatewayResponseInvalid => "GATEWAY_RESPONSE_INVALID"

/-! ### Request ids -/

theorem colon_not_mem_toString (n : Nat) : ':' ∉ (toString n).toList := by
  intro colon
  have digit := isDigit_of_mem_toString colon
  revert digit
  decide

/-- The last separator of two equal lists is in the same place. -/
theorem append_last_inj {α : Type} {sep : α} {front front' tail tail' : List α} (free : sep ∉ tail)
    (free' : sep ∉ tail') (same : front ++ sep :: tail = front' ++ sep :: tail') :
    front = front' ∧ tail = tail' := by
  rcases List.append_eq_append_iff.mp same with ⟨mid, rfl, rest⟩ | ⟨mid, rfl, rest⟩
  · cases mid with
    | nil => simpa using rest
    | cons head mid =>
      obtain ⟨-, rfl⟩ := List.cons.inj rest
      simp at free
  · cases mid with
    | nil => simpa using rest.symm
    | cons head mid =>
      obtain ⟨-, rfl⟩ := List.cons.inj rest
      simp at free'

theorem toList_requestIdOf (runId nodeId : String) (attemptCount : Nat) :
    (requestIdOf runId nodeId attemptCount).toList =
      (runId.toList ++ ':' :: nodeId.toList) ++ ':' :: (toString attemptCount).toList := by
  simp [requestIdOf]

/-- Within a run, a request id tells its node and its attempt. -/
theorem requestIdOf_inj {runId nodeId nodeId' : String} {attempt attempt' : Nat}
    (same : requestIdOf runId nodeId attempt = requestIdOf runId nodeId' attempt') :
    nodeId = nodeId' ∧ attempt = attempt' := by
  have chars := congrArg String.toList same
  rw [toList_requestIdOf, toList_requestIdOf] at chars
  obtain ⟨front, digits⟩ :=
    append_last_inj (colon_not_mem_toString _) (colon_not_mem_toString _) chars
  refine ⟨?_, toString_nat_inj (String.toList_inj.mp digits)⟩
  have nodes := List.append_cancel_left front
  exact String.toList_inj.mp (List.cons.inj nodes).2

/-- An approval request's id is never a gateway request id. -/
theorem uuid_ne_requestIdOf (id : Uuid) (runId nodeId : String) (attemptCount : Nat) :
    id.value ≠ requestIdOf runId nodeId attemptCount := by
  intro same
  apply id.colon_not_mem
  rw [same, toList_requestIdOf]
  simp

end Vespid
