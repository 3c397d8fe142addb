import Vespid.Js
import Vespid.Lib.Protocol
import Vespid.Scheduler.Cron

/-!
# The agent loop

A loop of turns in which a model answers with a final output or with a tool call. Calls are
counted and recorded in a state that is trimmed to a size and kept in the runtime of the workflow
run. A call that is executed remotely suspends the loop, which its result resumes.
-/

namespace Vespid.AgentRuntime

open Interleaving Scheduler

/-- `JSON.stringify` and `JSON.parse`, `value.slice(0, n)`, `String(value)`, the check of a UUID,
and a JSON schema that compiles applied to a value. -/
structure Host where
  stringify : Json → String
  parse : List Char → Option Json
  slice : String → Nat → String
  asText : Json → String
  isUuid : String → Bool
  validates : Json → Option Json → Option Bool

/-! ### Envelopes -/

section envelopes
variable (host : Host)

def safeTruncate (value : String) (maxChars : Nat) : String :=
  if jsLength value ≤ maxChars then value else host.slice value maxChars

def summarizeJson (value : Json) (maxChars : Nat) : Json :=
  match value with
  | .null => .null
  | value =>
    let json := host.stringify value
    if jsLength json ≤ maxChars then value
    else .obj [("truncated", .bool true), ("preview", .str (host.slice json maxChars)),
      ("originalLength", .num (jsLength json))]

/-- What stands in a code fence that is the whole text. -/
def fencedBody (trimmed : List Char) : Option (List Char) :=
  let fence := "```".toList
  if fence.isPrefixOf trimmed && fence.isSuffixOf trimmed && 6 ≤ trimmed.length then
    let inner := (trimmed.drop 3).take (trimmed.length - 6)
    if (inner.take 4).map Char.toLower = "json".toList then some (trim (inner.drop 4))
    else some (trim inner)
  else none

def extractJsonObjectCandidate (raw : List Char) : Option (List Char) :=
  let trimmed := trim raw
  match fencedBody trimmed with
  | some body => some body
  | none =>
    match trimmed.findIdx? (· = '\x7b'), trimmed.reverse.findIdx? (· = '\x7d') with
    | some first, some back =>
      let last := trimmed.length - 1 - back
      if first < last then some ((trimmed.take (last + 1)).drop first) else none
    | _, _ => none

/-- The fields of an object with a type of its own. -/
def typed (candidate : List Char) : Option (String × List (String × Json)) :=
  match host.parse candidate with
  | some (.obj fields) =>
    match fields.lookup "type" with
    | some (.str type) => if trim type.toList = [] then none else some (type, fields)
    | _ => none
  | _ => none

/-- The type and the fields of an answer. -/
def parseEnvelope (raw : List Char) : Option (String × List (String × Json)) :=
  let direct := trim raw
  let candidates := direct :: (extractJsonObjectCandidate direct).toList
  (candidates.filter (· ≠ [])).findSome? (typed host)

def parseShellRunEnabled (settings : Json) : Bool :=
  match (settings.field? "tools").bind (·.field? "shellRunEnabled") with
  | some (.bool enabled) => enabled
  | _ => false

end envelopes

/-! ### Tools -/

inductive AgentTool where
  | connectorAction | shellRun | teamDelegate | teamMap | memorySearch | memoryGet
  deriving DecidableEq

def AgentTool.id : AgentTool → String
  | connectorAction => "connector.action"
  | shellRun => "shell.run"
  | teamDelegate => "team.delegate"
  | teamMap => "team.map"
  | memorySearch => "memory_search"
  | memoryGet => "memory_get"

def toolRegistry : List AgentTool :=
  [.connectorAction, .shellRun, .teamDelegate, .teamMap, .memorySearch, .memoryGet]

/-- `connector.<connectorId>.<actionId...>` -/
def parseConnectorToolId (toolId : String) : Option (String × String) :=
  if startsWith toolId "connector." then
    match splitChars (· == '.') toolId.toList with
    | _ :: connectorId :: first :: rest =>
      let actionId := ['.'].intercalate (first :: rest)
      if connectorId = [] ∨ actionId = [] then none
      else some (String.ofList connectorId, String.ofList actionId)
    | _ => none
  else none

/-- The tool an id or an alias stands for, and the arguments of the alias. -/
def resolveAgentTool (toolId : String) : Option (AgentTool × List (String × Json)) :=
  if toolId = "shell.run" then some (.shellRun, [])
  else if toolId = "memory.search" then some (.memorySearch, [])
  else if toolId = "memory.get" then some (.memoryGet, [])
  else match parseConnectorToolId toolId with
    | some (connectorId, actionId) =>
      some (.connectorAction, [("connectorId", .str connectorId), ("actionId", .str actionId)])
    | none => (toolRegistry.find? (·.id = toolId)).map fun tool => (tool, [])

inductive BlockKind where
  | connectorAction | agentExecute
  deriving DecidableEq

structure Block where
  kind : BlockKind
  payload : Json
  secret : Option String
  executorSelector : Option Json
  timeoutMs : Option Json

inductive ToolReply where
  | succeeded (output : Json)
  | failed (error : String) (output : Json)
  | blocked (block : Block)
  | threw

/-! ### The state of a loop -/

inductive ToolStatus where
  | succeeded | failed
  deriving DecidableEq

def ToolStatus.name : ToolStatus → String
  | succeeded => "succeeded"
  | failed => "failed"

structure RecordedResult where
  toolId : String
  status : ToolStatus
  outputSummary : Json
  error : Option String

inductive AgentRunHistoryEntry where
  | toolCall (toolId : String) (callIndex : Nat) (inputSummary : Json)
  | toolResult (callIndex : Nat) (result : RecordedResult)

def AgentRunHistoryEntry.callIndex : AgentRunHistoryEntry → Nat
  | toolCall _ callIndex _ => callIndex
  | toolResult callIndex _ => callIndex

def AgentRunHistoryEntry.call? : AgentRunHistoryEntry → Option Nat
  | toolCall _ callIndex _ => some callIndex
  | toolResult _ _ => none

/-- The index of the call that has the result. -/
def AgentRunHistoryEntry.result? : AgentRunHistoryEntry → Option Nat
  | toolCall _ _ _ => none
  | toolResult callIndex _ => some callIndex

structure PendingToolCall where
  toolId : String
  input : Json
  dispatchNodeId : String
  callIndex : Nat

structure AgentRunRuntimeState where
  toolCalls : Nat
  turns : Nat
  history : List AgentRunHistoryEntry
  toolResultsByCallIndex : List (Nat × RecordedResult)
  pendingToolCall : Option PendingToolCall

structure WorkflowRuntime where
  agentRuns : List (String × AgentRunRuntimeState)
  pendingRemoteResult : Option Json

namespace AgentRunRuntimeState

def empty : AgentRunRuntimeState where
  toolCalls := 0
  turns := 0
  history := []
  toolResultsByCallIndex := []
  pendingToolCall := none

def push (s : AgentRunRuntimeState) (entry : AgentRunHistoryEntry) : AgentRunRuntimeState :=
  { s with history := s.history ++ [entry] }

/-- Keep the result of a call. -/
def record (s : AgentRunRuntimeState) (callIndex : Nat) (result : RecordedResult) :
    AgentRunRuntimeState :=
  { s with
    history := s.history ++ [.toolResult callIndex result]
    toolResultsByCallIndex := OrderedMap.set s.toolResultsByCallIndex callIndex result }

end AgentRunRuntimeState

def jsonOfError : Option String → Json
  | none => .null
  | some error => .str error

def RecordedResult.fields (r : RecordedResult) : List (String × Json) :=
  [("toolId", .str r.toolId), ("status", .str r.status.name), ("outputSummary", r.outputSummary),
    ("error", jsonOfError r.error)]

def AgentRunHistoryEntry.toJson : AgentRunHistoryEntry → Json
  | toolCall toolId callIndex inputSummary =>
    .obj [("kind", .str "tool_call"), ("toolId", .str toolId), ("callIndex", .num callIndex),
      ("inputSummary", inputSummary)]
  | toolResult callIndex result =>
    .obj (("kind", .str "tool_result") :: ("callIndex", .num callIndex) :: result.fields)

def PendingToolCall.toJson (p : PendingToolCall) : Json :=
  .obj [("toolId", .str p.toolId), ("input", p.input), ("dispatchNodeId", .str p.dispatchNodeId),
    ("callIndex", .num p.callIndex)]

def AgentRunRuntimeState.toJson (s : AgentRunRuntimeState) : Json :=
  .obj ([("toolCalls", .num s.toolCalls), ("turns", .num s.turns),
    ("history", .arr (s.history.map (·.toJson))),
    ("toolResultsByCallIndex",
      .obj (s.toolResultsByCallIndex.map fun entry => (toString entry.1, .obj entry.2.fields)))]
    ++ s.pendingToolCall.toList.map fun pending => ("pendingToolCall", pending.toJson))

/-- The state with a shorter history and the results that are still referred to. -/
def AgentRunRuntimeState.forget (next : AgentRunRuntimeState)
    (history : List AgentRunHistoryEntry) : AgentRunRuntimeState :=
  let keep := history.map (·.callIndex) ++ next.pendingToolCall.toList.map (·.callIndex)
  { next with
    history
    toolResultsByCallIndex := next.toolResultsByCallIndex.filter fun entry => entry.1 ∈ keep }

/-- At most `rounds` of the oldest entries are dropped. -/
def dropOldest (host : Host) (maxChars : Nat) : (rounds : Nat) → AgentRunRuntimeState →
    AgentRunRuntimeState
  | 0, next => next
  | rounds + 1, next =>
    if jsLength (host.stringify next.toJson) ≤ maxChars then next
    else match next.history with
      | [] => next
      | _ :: rest => dropOldest host maxChars rounds (next.forget rest)

def trimAgentState (host : Host) (state : AgentRunRuntimeState) (maxChars : Nat) :
    AgentRunRuntimeState := dropOldest host maxChars 10000 state

def setAgentRunState (runtime : WorkflowRuntime) (nodeId : String)
    (state : Option AgentRunRuntimeState) : WorkflowRuntime :=
  match state with
  | some state => { runtime with agentRuns := OrderedMap.set runtime.agentRuns nodeId state }
  | none => { runtime with agentRuns := runtime.agentRuns.filter fun entry => entry.1 ≠ nodeId }

def clearPendingRemoteResult (runtime : WorkflowRuntime) : WorkflowRuntime :=
  { runtime with pendingRemoteResult := none }

/-! ### The loop -/

inductive AgentToolExecutionMode where
  | cloud | executor
  deriving DecidableEq

structure Limits where
  maxTurns : Nat
  maxToolCalls : Nat
  maxOutputChars : Nat
  maxRuntimeChars : Nat

structure OutputConfig where
  json : Bool
  jsonSchema : Option Json

/-- The configuration and the input that the loop's control depends on. -/
structure AgentLoopInput where
  nodeId : String
  organizationSettings : Json
  runtime : WorkflowRuntime
  pendingRemoteResult : Option Json
  allow : List String
  execution : AgentToolExecutionMode
  /-- `config.tools.authDefaults.connectors` -/
  connectorSecrets : List (String × String)
  limits : Limits
  output : OutputConfig
  usesManagedCredits : Bool
  persistNodeId : Option String
  allowRemoteBlocked : Bool

inductive LlmAuth where
  | found | missing | threw

inductive LlmReply where
  | ok (content : String)
  | failed (error : String)
  | threw

/-- What a loop asks and tells its surroundings. -/
inductive LoopOp where
  | expired
  | llmAuth
  | ensureAvailable (minCredits : Nat)
  | llmInvoke (maxOutputChars : Nat)
  /-- The event `agent_tool_call`. -/
  | call (toolId : String) (callIndex : Nat) (input : Json)
  /-- The event `agent_tool_result`. -/
  | result (toolId : String) (callIndex : Nat) (status : ToolStatus)
  | persist (nodeId : String) (state : AgentRunRuntimeState) (checkpoint : Bool)
  /-- The branch that takes a result recorded before. -/
  | cached (callIndex : Nat)
  | execute (tool : AgentTool) (toolId : String) (callIndex : Nat) (args : List (String × Json))

abbrev LoopOp.Reply : LoopOp → Type
  | expired => Bool
  | llmAuth => LlmAuth
  | ensureAvailable _ => Bool
  | llmInvoke _ => LlmReply
  | execute _ _ _ _ => ToolReply
  | _ => Unit

abbrev LoopI : Interface := ⟨LoopOp, LoopOp.Reply⟩

/-- What a loop returns. A block comes with the call it executes, whose dispatch node is
returned. -/
inductive Outcome where
  | succeeded (output : Option Json) (runtime : Option WorkflowRuntime)
  | failed (error : String) (runtime : Option WorkflowRuntime)
  | blocked (block : Block) (pending : PendingToolCall) (runtime : Option WorkflowRuntime)
  | threw

def Outcome.runtime : Outcome → Option WorkflowRuntime
  | succeeded _ runtime | failed _ runtime | blocked _ _ runtime => runtime
  | threw => none

/-- The variables `state` and `nextRuntime`. -/
structure Loop where
  state : AgentRunRuntimeState
  runtime : WorkflowRuntime

section loop
variable (host : Host) (input : AgentLoopInput)

/-- The runtime that is returned with the present state. -/
def Loop.returned (l : Loop) : Option WorkflowRuntime :=
  input.persistNodeId.map fun node => setAgentRunState l.runtime node (some l.state)

def persistState (l : Loop) (checkpoint : Bool) : Program LoopI Loop :=
  match input.persistNodeId with
  | none => return l
  | some node => do
    let state := trimAgentState host l.state input.limits.maxRuntimeChars
    Program.issue (I := LoopI) (.persist node state checkpoint)
    return { state, runtime := setAgentRunState l.runtime node (some state) }

def fail (l : Loop) (error : String) : Program LoopI (Loop ⊕ Outcome) := do
  let _ ← persistState host input l false
  return .inr (.failed error none)

/-- A failure that returns the state. -/
def failReturning (l : Loop) (error : String) : Program LoopI Outcome := do
  let l ← persistState host input l false
  return .failed error (l.returned input)

def finish (l : Loop) (output : Option Json) : Program LoopI (Loop ⊕ Outcome) :=
  let success : Program LoopI (Loop ⊕ Outcome) :=
    return .inr (.succeeded output
      (input.persistNodeId.map fun node => setAgentRunState l.runtime node none))
  match input.output.json, input.output.jsonSchema with
  | true, some schema =>
    match host.validates schema output with
    | none => fail host input l "INVALID_JSON_SCHEMA"
    | some false => fail host input l "INVALID_AGENT_JSON_OUTPUT"
    | some true => success
  | _, _ => success

/-- The payload of a block, sent to the dispatch node. -/
def redirect (block : Block) (dispatchNodeId : String) : Block :=
  match block.kind, block.payload with
  | .agentExecute, .obj fields =>
    let fields := match fields.lookup "nodeId" with
      | some (.str _) => OrderedMap.set fields "nodeId" (.str dispatchNodeId)
      | _ => fields
    let fields := match fields.lookup "node" with
      | some (.obj node) =>
        match node.lookup "id" with
        | some (.str _) =>
          OrderedMap.set fields "node" (.obj (OrderedMap.set node "id" (.str dispatchNodeId)))
        | _ => fields
      | _ => fields
    { block with payload := .obj fields }
  | _, _ => block

def suspend (l : Loop) (toolId : String) (toolInput : List (String × Json)) (callIndex : Nat)
    (block : Block) : Program LoopI (Loop ⊕ Outcome) := do
  let dispatchNodeId := input.nodeId ++ ":tool:" ++ toString callIndex
  let pending : PendingToolCall := { toolId, input := .obj toolInput, dispatchNodeId, callIndex }
  let l ← persistState host input
    { l with state := { l.state with pendingToolCall := some pending } } true
  return .inr (.blocked (redirect block dispatchNodeId) pending (l.returned input))

def recordResult (l : Loop) (callIndex : Nat) (result : RecordedResult) :
    Program LoopI (Loop ⊕ Outcome) := do
  let l := { l with state := l.state.record callIndex result }
  Program.issue (I := LoopI) (.result result.toolId callIndex result.status)
  let l ← persistState host input l true
  return .inl l

/-- The call was announced and recorded. -/
def executeCall (l : Loop) (toolId : String) (toolInput : List (String × Json)) (callIndex : Nat) :
    Program LoopI (Loop ⊕ Outcome) :=
  if toolId = "shell.run" ∧ parseShellRunEnabled input.organizationSettings = false then do
    Program.issue (I := LoopI) (.result toolId callIndex .failed)
    fail host input l "TOOL_POLICY_DENIED:shell.run"
  else match resolveAgentTool toolId with
    | none => fail host input l ("TOOL_NOT_SUPPORTED:" ++ toolId)
    | some (tool, args) => do
      let mergedArgs := OrderedMap.merge args toolInput
      match ← Program.issue (I := LoopI) (.execute tool toolId callIndex mergedArgs) with
      | .threw => return .inr .threw
      | .blocked block =>
        if input.allowRemoteBlocked then suspend host input l toolId toolInput callIndex block
        else fail host input l "TEAM_REMOTE_EXEC_NOT_SUPPORTED"
      | .succeeded output =>
        recordResult host input l callIndex
          { toolId, status := .succeeded, outputSummary := summarizeJson host output 20000,
            error := none }
      | .failed error output =>
        recordResult host input l callIndex
          { toolId, status := .failed, outputSummary := summarizeJson host output 20000,
            error := some error }

def issueCall (l : Loop) (toolId : String) (toolInput : List (String × Json)) :
    Program LoopI (Loop ⊕ Outcome) := do
  let callIndex := l.state.toolCalls + 1
  let inputSummary := summarizeJson host (.obj toolInput) 4000
  Program.issue (I := LoopI) (.call toolId callIndex inputSummary)
  let l ← persistState host input
    { l with
      state := { l.state with toolCalls := callIndex }.push
        (.toolCall toolId callIndex inputSummary) } false
  match l.state.toolResultsByCallIndex.lookup callIndex with
  | some cachedResult =>
    Program.issue (I := LoopI) (.cached callIndex)
    return .inl { l with
      state := l.state.push (.toolResult callIndex { cachedResult with toolId }) }
  | none => executeCall host input l toolId toolInput callIndex

def toolCall (l : Loop) (fields : List (String × Json)) : Program LoopI (Loop ⊕ Outcome) :=
  match fields.lookup "toolId" with
  | some (.str toolId) =>
    if trim toolId.toList = [] then fail host input l "INVALID_AGENT_OUTPUT"
    else if toolId ∉ input.allow then fail host input l ("TOOL_NOT_ALLOWED:" ++ toolId)
    else match fields.lookup "input" with
      | some (.obj toolInput) =>
        if l.state.toolCalls ≥ input.limits.maxToolCalls then
          fail host input l "AGENT_MAX_TOOL_CALLS"
        else issueCall host input l toolId toolInput
      | _ => fail host input l "INVALID_TOOL_INPUT"
  | _ => fail host input l "INVALID_AGENT_OUTPUT"

def answer (l : Loop) (content : String) : Program LoopI (Loop ⊕ Outcome) :=
  let content := safeTruncate host (String.ofList (trim content.toList)) input.limits.maxOutputChars
  match parseEnvelope host content.toList with
  | none => fail host input l "INVALID_AGENT_OUTPUT"
  | some (type, fields) =>
    if type = "final" then finish host input l (fields.lookup "output")
    else if type = "tool_call" then toolCall host input l fields
    else fail host input l "INVALID_AGENT_OUTPUT"

def invoke (l : Loop) : Program LoopI (Loop ⊕ Outcome) := do
  match ← Program.issue (I := LoopI) (.llmInvoke input.limits.maxOutputChars) with
  | .threw => return .inr .threw
  | .failed error => fail host input l error
  | .ok content => answer host input l content

/-- One turn, from where it is counted. -/
def turn (l : Loop) : Program LoopI (Loop ⊕ Outcome) := do
  let l := { l with state := { l.state with turns := l.state.turns + 1 } }
  if input.usesManagedCredits then
    if ← Program.issue (I := LoopI) (.ensureAvailable 1) then invoke host input l
    else do
      let outcome ← failReturning host input l "CREDITS_EXHAUSTED"
      return .inr outcome
  else invoke host input l

/-- The turns, of which `left` are within the limit. -/
def turns : (left : Nat) → Loop → Program LoopI Outcome
  | left, l => do
    if ← Program.issue (I := LoopI) .expired then failReturning host input l "LLM_TIMEOUT"
    else match left with
      | 0 => failReturning host input l "AGENT_MAX_TURNS"
      | left + 1 => do
        match ← turn host input l with
        | .inl l => turns left l
        | .inr outcome => return outcome

def start (l : Loop) : Program LoopI Outcome := do
  match ← Program.issue (I := LoopI) .llmAuth with
  | .threw => return .threw
  | .missing => return .failed "LLM_AUTH_NOT_CONFIGURED" none
  | .found => turns host input (input.limits.maxTurns - l.state.turns) l

/-- `remote.result` of a reply that has one. -/
def remoteOf (pendingRemote : Json) : Json := (pendingRemote.field? "result").getD pendingRemote

def remoteStatus (remote : Json) : ToolStatus :=
  match remote.field? "status" with
  | some (.str "failed") => .failed
  | _ => .succeeded

def remoteResult (toolId : String) (remote : Json) : RecordedResult where
  toolId
  status := remoteStatus remote
  outputSummary := summarizeJson host ((remote.field? "output").getD .null) 20000
  error := match remoteStatus remote, remote.field? "error" with
    | .succeeded, _ => none
    | .failed, none | .failed, some .null => some "REMOTE_EXEC_FAILED"
    | .failed, some error => some (host.asText error)

/-- Take the result of the pending call. -/
def resume (l : Loop) (pending : PendingToolCall) (pendingRemote : Json) : Program LoopI Loop := do
  let result := remoteResult host pending.toolId (remoteOf pendingRemote)
  let state := l.state.record pending.callIndex result
  Program.issue (I := LoopI) (.result pending.toolId pending.callIndex result.status)
  persistState host input
    { state := { state with pendingToolCall := none }
      runtime := clearPendingRemoteResult l.runtime } true

def entered : Loop where
  state := (input.persistNodeId.bind fun node => input.runtime.agentRuns.lookup node).getD .empty
  runtime := input.runtime

def runAgentLoop : Program LoopI Outcome :=
  let l := entered input
  match input.pendingRemoteResult with
  | some pendingRemote =>
    if pendingRemote.truthy then
      match l.state.pendingToolCall with
      | none => return .failed "REMOTE_RESULT_UNEXPECTED" none
      | some pending => do
        let l ← resume host input l pending pendingRemote
        start host input l
    else start host input l
  | none => start host input l

end loop

end Vespid.AgentRuntime
