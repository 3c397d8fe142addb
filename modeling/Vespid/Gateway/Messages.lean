import Vespid.NodeAgent.Schemas
import Vespid.Scheduler.Cron
import Mathlib.Algebra.Order.Floor.Semiring
import Mathlib.Data.Rat.Floor

/-!
# The messages a brain sends to executors

A brain puts together what it sends from a session row, a message to the session or a dispatch.
What the services check before is part of the values here; the limits of a session are not
checked by anybody.
-/

namespace Vespid.Gateway

open Workflow NodeAgent.Schema

/-! ### What is stored and received -/

inductive AgentEngineId where
  | codex
  | claude
  | opencode
  deriving DecidableEq

def AgentEngineId.id : AgentEngineId → String
  | codex => "gateway.codex.v2"
  | claude => "gateway.claude.v2"
  | opencode => "gateway.opencode.v2"

/-- A session as the API stores it. -/
structure StoredSession (isUrl : String → Bool) where
  id : Uuid
  organizationId : Uuid
  sessionKey : String
  routedAgentId : Option Uuid
  engineId : AgentEngineId
  llmModel : String
  named : llmModel ≠ ""
  hasSecret : Bool
  baseUrl : Option String
  reachable : baseUrl.all isUrl
  toolsAllow : List String
  tooled : toolsAllow.all (· ≠ "") ∧ toolsAllow.length ≤ 200
  promptSystem : Option String
  promptInstructions : String
  instructed : promptInstructions ≠ ""
  limits : Json

/-- Where a `session_send` comes from: an edge, which checks the text, or the channel manager. -/
inductive SendOrigin where
  | edge (message : String) (present : message ≠ "") (attachments : Option (List Json))
  | channel

structure SessionMessage where
  userId : Uuid
  userEventSeq : Nat
  origin : SendOrigin

def SendOrigin.message : SendOrigin → Option String
  | edge message _ _ => some message
  | channel => none

def SendOrigin.attachments : SendOrigin → Option (List Json)
  | edge _ _ attachments => attachments
  | channel => none

/-- A dispatch that `dispatchRequestSchema` accepts. -/
structure DispatchRequest where
  organizationId : Uuid
  requestedByUserId : Uuid
  runId : Uuid
  nodeId : String
  attemptCount : Nat
  kind : Brain.GatewayExecutionKind
  payload : Option Json
  secret : Option String
  kept : secret.all (· ≠ "")
  timeoutMs : Option Int
  timed : timeoutMs.all fun timeoutMs => 1000 ≤ timeoutMs ∧ timeoutMs ≤ 600000

/-- A workspace row, and the URLs that are signed for it. -/
structure SignedWorkspace (isUrl : String → Bool) where
  id : Uuid
  currentVersion : Nat
  currentObjectKey : String
  currentEtag : Option String
  nextObjectKey : String
  keyed : nextObjectKey ≠ ""
  downloadUrl : String
  uploadUrl : String
  signed : isUrl downloadUrl ∧ isUrl uploadUrl

/-! ### Messages -/

def numberField (limits : Json) (name : String) : Option Rat :=
  match limits.field? name with
  | some (.num n) => some n
  | _ => none

def sessionTimeoutMs (limits : Json) : Rat := (numberField limits "timeoutMs").getD 60000

/-- `typeof limits.x === "number" ? Math.max(least, Math.floor(limits.x)) : fallback` -/
def flooredLimit (limits : Json) (name : String) (least fallback : Int) : Int :=
  (numberField limits name).elim fallback fun n => max least ⌊n⌋

def sessionLimits (limits : Json) : SessionLimits :=
  { maxTurns := flooredLimit limits "maxTurns" 1 8
    maxToolCalls := flooredLimit limits "maxToolCalls" 0 20
    timeoutMs := sessionTimeoutMs limits
    maxOutputChars := flooredLimit limits "maxOutputChars" 256 100000
    maxRuntimeChars := flooredLimit limits "maxRuntimeChars" 10000 300000 }

def memoryProvider (limits : Json) : MemoryProvider :=
  match limits.field? "memoryProvider" with
  | some (.str "qmd") => .qmd
  | _ => .builtin

def jsTrim (s : String) : String := String.ofList (Scheduler.trim s.toList)

def engineAuthMode (engineId : AgentEngineId) (hasSecret : Bool) (secretValue : String) :
    EngineAuthMode :=
  if secretValue ≠ "" then .inlineApiKey
  else if !hasSecret && engineId ≠ .opencode then .oauthExecutor
  else .env

/-- `readEngineRuntimeBaseUrlFromSession` -/
def readEngineRuntimeBaseUrl (baseUrl : Option String) : Option String :=
  (baseUrl.map jsTrim).filter (· ≠ "")

variable {isUrl : String → Bool}

def sendRequestId (session : StoredSession isUrl) (send : SessionMessage) : String :=
  session.id.value ++ ":turn:" ++ toString send.userEventSeq

def resolvedSessionKey (session : StoredSession isUrl) : String :=
  if session.sessionKey ≠ "" then session.sessionKey else "session:" ++ session.id.value

/-- `secretValue` is the engine's secret, trimmed, and empty where there is none. -/
def sessionOpen (session : StoredSession isUrl) (send : SessionMessage) (secretValue : String)
    (executorId : Uuid) : SessionOpen :=
  let authMode := engineAuthMode session.engineId session.hasSecret secretValue
  { requestId := sendRequestId session send ++ ":open"
    organizationId := session.organizationId.value
    sessionId := session.id.value
    sessionKey := resolvedSessionKey session
    routedAgentId := (session.routedAgentId.getD executorId).value
    userId := send.userId.value
    engine :=
      { id := session.engineId.id
        model := some session.llmModel
        authMode
        runtimeBaseUrl :=
          if authMode = .inlineApiKey then readEngineRuntimeBaseUrl session.baseUrl else none
        apiKey := if authMode = .inlineApiKey then some secretValue else none }
    system := session.promptSystem
    instructions := session.promptInstructions
    toolsAllow := session.toolsAllow
    limits := sessionLimits session.limits
    memoryProvider := memoryProvider session.limits }

def sessionTurn (session : StoredSession isUrl) (send : SessionMessage) : SessionTurn :=
  { requestId := sendRequestId session send
    organizationId := session.organizationId.value
    sessionId := session.id.value
    sessionKey := resolvedSessionKey session
    userId := send.userId.value
    eventSeq := send.userEventSeq
    message := send.origin.message.getD ""
    attachments := send.origin.attachments }

/-- The cancel of the turn that a send has started. -/
def sessionCancel (session : StoredSession isUrl) (send : SessionMessage) : SessionCancel :=
  { requestId := sendRequestId session send
    organizationId := session.organizationId.value
    sessionId := session.id.value }

def dispatchRequestId (dispatch : DispatchRequest) : String :=
  dispatch.runId.value ++ ":" ++ dispatch.nodeId ++ ":" ++ toString dispatch.attemptCount

/-- `outputMaxChars` is what `envNumber("GATEWAY_TOOL_OUTPUT_MAX_CHARS", 200_000)` finds. -/
def invokeTool (outputMaxChars : Rat) (dispatch : DispatchRequest)
    (workspace : SignedWorkspace isUrl) : InvokeToolV2 :=
  { requestId := dispatchRequestId dispatch
    organizationId := dispatch.organizationId.value
    userId := dispatch.requestedByUserId.value
    kind := dispatch.kind
    payload := dispatch.payload
    secret := if dispatch.kind = .agentRun then none else dispatch.secret
    toolPolicy :=
      { networkModeDefaultDeny := true
        networkMode := .none
        timeoutMs := dispatch.timeoutMs.getD 60000
        outputMaxChars := max 10000 outputMaxChars
        mountsAllowlist := [("/work", .rw), ("/tmp", .rw)] }
    workspaceId := workspace.id.value
    version := workspace.currentVersion
    objectKey := workspace.currentObjectKey
    etag := workspace.currentEtag
    downloadUrl := if workspace.currentObjectKey ≠ "" then some workspace.downloadUrl else none
    uploadUrl := workspace.uploadUrl
    uploadObjectKey := workspace.nextObjectKey
    uploadVersion := workspace.currentVersion + 1 }

/-! ### What is accepted -/

/-- The limits an executor takes: those that are numbers are not too large, and the timeout is a
whole number of milliseconds, from a second to ten minutes. -/
structure LimitsFit (limits : Json) : Prop where
  maxTurns : ∀ n ∈ numberField limits "maxTurns", n < 201
  maxToolCalls : ∀ n ∈ numberField limits "maxToolCalls", n < 1001
  timeoutMs : ∀ n ∈ numberField limits "timeoutMs", n.isInt = true ∧ 1000 ≤ n ∧ n ≤ 600000
  maxOutputChars : ∀ n ∈ numberField limits "maxOutputChars", n < 2000001
  maxRuntimeChars : ∀ n ∈ numberField limits "maxRuntimeChars", n < 5000001

theorem integerBetween_cast (least most n : Int) :
    integerBetween least most n = true ↔ least ≤ n ∧ n ≤ most := by
  simp [integerBetween, Rat.isInt]

/-- A limit is floored and raised to what is least; only the upper bound is left to check. -/
theorem flooredLimit_accepted (limits : Json) (name : String) {least fallback most : Int}
    {bound : Rat} (low : least ≤ fallback) (high : fallback ≤ most) (next : bound = most + 1) :
    integerBetween least most (flooredLimit limits name least fallback) = true ↔
      ∀ n ∈ numberField limits name, n < bound := by
  rw [integerBetween_cast, flooredLimit]
  cases numberField limits name with
  | none => simpa using And.intro low high
  | some n =>
    have floored : ⌊n⌋ ≤ most ↔ n < bound := by
      rw [next]
      exact Int.floor_le_iff
    have bounds : least ≤ most := low.trans high
    simp only [Option.elim_some, Option.mem_some_iff, forall_eq', ← floored]
    omega

theorem sessionTimeoutMs_accepted (limits : Json) :
    integerBetween 1000 600000 (sessionTimeoutMs limits) = true ↔
      ∀ n ∈ numberField limits "timeoutMs", n.isInt = true ∧ 1000 ≤ n ∧ n ≤ 600000 := by
  rw [sessionTimeoutMs]
  cases numberField limits "timeoutMs" with
  | none =>
    constructor
    · intro _ n mem
      cases mem
    · intro _
      decide
  | some n => simp [integerBetween, and_assoc]

theorem limits_accepted_iff (limits : Json) :
    limitsSchema (sessionLimits limits) = true ↔ LimitsFit limits := by
  have maxTurns := @flooredLimit_accepted limits "maxTurns" 1 8 200 201 (by decide) (by decide)
    (by norm_num)
  have maxToolCalls := @flooredLimit_accepted limits "maxToolCalls" 0 20 1000 1001 (by decide)
    (by decide) (by norm_num)
  have maxOutputChars := @flooredLimit_accepted limits "maxOutputChars" 256 100000 2000000 2000001
    (by decide) (by decide) (by norm_num)
  have maxRuntimeChars := @flooredLimit_accepted limits "maxRuntimeChars" 10000 300000 5000000
    5000001 (by decide) (by decide) (by norm_num)
  simp only [limitsSchema, sessionLimits, Bool.and_eq_true]
  rw [maxTurns, maxToolCalls, sessionTimeoutMs_accepted, maxOutputChars, maxRuntimeChars]
  constructor
  · rintro ⟨⟨⟨⟨turns, calls⟩, timeout⟩, output⟩, runtime⟩
    exact ⟨turns, calls, timeout, output, runtime⟩
  · rintro ⟨turns, calls, timeout, output, runtime⟩
    exact ⟨⟨⟨⟨turns, calls⟩, timeout⟩, output⟩, runtime⟩

/-! ### Ids and keys -/

theorem append_ne_empty {a b : String} (present : b ≠ "") : a ++ b ≠ "" := by
  intro empty
  exact present (String.append_eq_empty_iff.mp empty).2

theorem uuid_ne_empty (id : Uuid) : id.value ≠ "" := by
  intro empty
  have valid := id.valid
  rw [empty] at valid
  revert valid
  decide

variable (session : StoredSession isUrl) (send : SessionMessage)

theorem sendRequestId_ne_empty : sendRequestId session send ≠ "" := by
  unfold sendRequestId
  rw [String.append_assoc]
  refine append_ne_empty ?_
  intro empty
  have marked := (String.append_eq_empty_iff.mp empty).1
  revert marked
  decide

theorem resolvedSessionKey_ne_empty : resolvedSessionKey session ≠ "" := by
  unfold resolvedSessionKey
  split
  · assumption
  · exact append_ne_empty (uuid_ne_empty _)

theorem readEngineRuntimeBaseUrl_accepted (trims : ∀ s, isUrl s = true → isUrl (jsTrim s) = true) :
    (readEngineRuntimeBaseUrl session.baseUrl).all isUrl = true := by
  have reachable := session.reachable
  unfold readEngineRuntimeBaseUrl
  cases stored : session.baseUrl with
  | none => rfl
  | some baseUrl =>
    rw [stored] at reachable
    rw [Option.map_some, Option.filter_some]
    split
    · exact trims _ reachable
    · rfl

theorem secret_of_inline {engineId : AgentEngineId} {hasSecret : Bool} {secretValue : String}
    (inline : engineAuthMode engineId hasSecret secretValue = .inlineApiKey) : secretValue ≠ "" := by
  unfold engineAuthMode at inline
  split at inline
  · assumption
  · split at inline <;> cases inline

theorem engine_accepted (trims : ∀ s, isUrl s = true → isUrl (jsTrim s) = true)
    (secretValue : String) (executorId : Uuid) :
    engineSchema isUrl (sessionOpen session send secretValue executorId).engine = true := by
  have known : agentEngineIds.contains session.engineId.id = true := by
    cases session.engineId <;> decide
  have named : (some session.llmModel).all (· ≠ "") = true := by simpa using session.named
  simp only [engineSchema, sessionOpen, Bool.and_eq_true]
  refine ⟨⟨⟨known, named⟩, ?_⟩, ?_⟩
  · split
    · exact readEngineRuntimeBaseUrl_accepted session trims
    · rfl
  · split
    · rename_i inline
      simpa using secret_of_inline inline
    · rfl

/-! ### Agreement -/

/-- An open is accepted where the stored limits are ones an executor takes. -/
theorem sessionOpen_accepted_iff (trims : ∀ s, isUrl s = true → isUrl (jsTrim s) = true)
    (secretValue : String) (executorId : Uuid) :
    sessionOpenSchema isUrl (sessionOpen session send secretValue executorId) = true ↔
      LimitsFit session.limits := by
  have engine := engine_accepted session send trims secretValue executorId
  have requestId : sendRequestId session send ++ ":open" ≠ "" := append_ne_empty (by decide)
  have agent := uuid_ne_empty (session.routedAgentId.getD executorId)
  rw [← limits_accepted_iff]
  simp only [sessionOpenSchema, Bool.and_eq_true, decide_eq_true_eq]
  constructor
  · exact fun accepted => accepted.2
  · intro limits
    exact ⟨⟨⟨⟨⟨⟨⟨⟨⟨⟨requestId, session.organizationId.valid⟩, session.id.valid⟩,
      resolvedSessionKey_ne_empty session⟩, agent⟩, send.userId.valid⟩, engine⟩,
      session.instructed⟩, session.tooled.1⟩, session.tooled.2⟩, limits⟩

/-- A turn is accepted where the message has come with its text. -/
theorem sessionTurn_accepted_iff :
    sessionTurnSchema (sessionTurn session send) = true ↔ send.origin.message.isSome = true := by
  have requestId := sendRequestId_ne_empty session send
  have key := resolvedSessionKey_ne_empty session
  simp only [sessionTurnSchema, Bool.and_eq_true, decide_eq_true_eq]
  constructor
  · intro accepted
    cases origin : send.origin with
    | edge => rfl
    | channel =>
      have text : (sessionTurn session send).message ≠ "" := accepted.2
      simp [sessionTurn, origin, SendOrigin.message] at text
  · intro present
    have text : (sessionTurn session send).message ≠ "" := by
      cases origin : send.origin with
      | edge message given attachments => simpa [sessionTurn, origin, SendOrigin.message] using given
      | channel =>
        rw [origin] at present
        cases present
    exact ⟨⟨⟨⟨⟨⟨requestId, session.organizationId.valid⟩, session.id.valid⟩, key⟩,
      send.userId.valid⟩, Int.natCast_nonneg _⟩, text⟩

theorem sessionCancel_accepted : sessionCancelSchema (sessionCancel session send) = true := by
  have requestId := sendRequestId_ne_empty session send
  simp only [sessionCancelSchema, Bool.and_eq_true, decide_eq_true_eq]
  exact ⟨⟨requestId, session.organizationId.valid⟩, session.id.valid⟩

/-- The configured output limit: at most a million, and whole where it counts. -/
def OutputFits (outputMaxChars : Rat) : Prop :=
  outputMaxChars ≤ 10000 ∨ outputMaxChars.isInt = true ∧ outputMaxChars ≤ 1000000

theorem outputMaxChars_accepted (outputMaxChars : Rat) :
    integerBetween 256 1000000 (max 10000 outputMaxChars) = true ↔ OutputFits outputMaxChars := by
  unfold OutputFits
  rcases le_total outputMaxChars 10000 with small | large
  · rw [max_eq_left small]
    exact ⟨fun _ => .inl small, fun _ => by decide⟩
  · rw [max_eq_right large]
    have least : (256 : Rat) ≤ outputMaxChars := le_trans (by norm_num) large
    simp only [integerBetween, Bool.and_eq_true, decide_eq_true_eq]
    constructor
    · rintro ⟨⟨whole, -⟩, bounded⟩
      exact .inr ⟨whole, by exact_mod_cast bounded⟩
    · rintro (small | ⟨whole, bounded⟩)
      · obtain rfl : outputMaxChars = 10000 := le_antisymm small large
        decide
      · exact ⟨⟨whole, by exact_mod_cast least⟩, by exact_mod_cast bounded⟩

theorem dispatchRequestId_ne_empty (dispatch : DispatchRequest) : dispatchRequestId dispatch ≠ "" := by
  unfold dispatchRequestId
  simp only [String.append_assoc]
  refine append_ne_empty ?_
  intro empty
  have marked := (String.append_eq_empty_iff.mp empty).1
  revert marked
  decide

theorem timeout_accepted (dispatch : DispatchRequest) :
    integerBetween 1000 600000 ((dispatch.timeoutMs.getD 60000 : Int) : Rat) = true := by
  rw [integerBetween_cast]
  have timed := dispatch.timed
  cases given : dispatch.timeoutMs with
  | none => decide
  | some timeoutMs =>
    rw [given] at timed
    simpa using timed

/-- A tool call is accepted where the output limit of the environment is one an executor takes. -/
theorem invokeTool_accepted_iff (outputMaxChars : Rat) (dispatch : DispatchRequest)
    (workspace : SignedWorkspace isUrl) :
    invokeToolSchema isUrl (invokeTool outputMaxChars dispatch workspace) = true ↔
      OutputFits outputMaxChars := by
  have requestId := dispatchRequestId_ne_empty dispatch
  have timeout := timeout_accepted dispatch
  have secret : (invokeTool outputMaxChars dispatch workspace).secret.all (· ≠ "") = true := by
    simp only [invokeTool]
    split
    · rfl
    · exact dispatch.kept
  have download : (invokeTool outputMaxChars dispatch workspace).downloadUrl.all isUrl = true := by
    simp only [invokeTool]
    split
    · exact workspace.signed.1
    · rfl
  have version : (1 : Int) ≤ workspace.currentVersion + 1 := by omega
  rw [← outputMaxChars_accepted]
  simp only [invokeToolSchema, toolPolicySchema, Bool.and_eq_true, decide_eq_true_eq]
  constructor
  · intro accepted
    exact accepted.1.1.1.1.1.1.2.1.2
  · intro output
    exact ⟨⟨⟨⟨⟨⟨⟨⟨⟨⟨requestId, dispatch.organizationId.valid⟩, dispatch.requestedByUserId.valid⟩,
      secret⟩, ⟨⟨timeout, output⟩, rfl⟩⟩, workspace.id.valid⟩, Int.natCast_nonneg _⟩,
      download⟩, workspace.signed.2⟩, workspace.keyed⟩, version⟩

/-- An executor accepts everything a brain sends it for a session, a message and a dispatch,
exactly where the limits fit, the message has its text and the output limit fits. -/
theorem messages_accepted_iff (trims : ∀ s, isUrl s = true → isUrl (jsTrim s) = true)
    (secretValue : String) (executorId : Uuid) (outputMaxChars : Rat) (dispatch : DispatchRequest)
    (workspace : SignedWorkspace isUrl) :
    (sessionOpenSchema isUrl (sessionOpen session send secretValue executorId) = true ∧
      sessionTurnSchema (sessionTurn session send) = true ∧
      sessionCancelSchema (sessionCancel session send) = true ∧
      invokeToolSchema isUrl (invokeTool outputMaxChars dispatch workspace) = true) ↔
      LimitsFit session.limits ∧ send.origin.message.isSome = true ∧ OutputFits outputMaxChars := by
  rw [sessionOpen_accepted_iff session send trims, sessionTurn_accepted_iff, invokeTool_accepted_iff]
  constructor
  · rintro ⟨limits, text, -, output⟩
    exact ⟨limits, text, output⟩
  · rintro ⟨limits, text, output⟩
    exact ⟨limits, text, sessionCancel_accepted session send, output⟩

/-! ### A message of a channel -/

namespace Sample

def uuid : Uuid := ⟨"00000000-0000-0000-0000-000000000000", by decide⟩

def objectUrl : String := "https://objects.local/v1"

def isObjectUrl (s : String) : Bool := s = objectUrl

def stored : StoredSession isObjectUrl :=
  { id := uuid, organizationId := uuid, sessionKey := "chat", routedAgentId := none
    engineId := .codex, llmModel := "gpt-5-codex", named := by decide, hasSecret := false
    baseUrl := none, reachable := rfl, toolsAllow := [], tooled := by decide
    promptSystem := none, promptInstructions := "Help.", instructed := by decide
    limits := .obj [("maxTurns", .num 5)] }

def fromEdge : SessionMessage :=
  { userId := uuid, userEventSeq := 1, origin := .edge "hello" (by decide) none }

def fromChannel : SessionMessage := { fromEdge with origin := .channel }

def dispatch : DispatchRequest :=
  { organizationId := uuid, requestedByUserId := uuid, runId := uuid, nodeId := "n"
    attemptCount := 1, kind := .agentExecute, payload := none, secret := none, kept := rfl
    timeoutMs := none, timed := rfl }

def workspace : SignedWorkspace isObjectUrl :=
  { id := uuid, currentVersion := 0, currentObjectKey := "", currentEtag := none
    nextObjectKey := "v1", keyed := by decide, downloadUrl := objectUrl, uploadUrl := objectUrl
    signed := by decide }

end Sample

theorem messages_accepted_default :
    sessionOpenSchema Sample.isObjectUrl
      (sessionOpen Sample.stored Sample.fromEdge "" Sample.uuid) = true ∧
    sessionTurnSchema (sessionTurn Sample.stored Sample.fromEdge) = true ∧
    sessionCancelSchema (sessionCancel Sample.stored Sample.fromEdge) = true ∧
    invokeToolSchema Sample.isObjectUrl
      (invokeTool 200000 Sample.dispatch Sample.workspace) = true := by
  have trims : ∀ s, Sample.isObjectUrl s = true → Sample.isObjectUrl (jsTrim s) = true := by
    intro s url
    obtain rfl : s = Sample.objectUrl := of_decide_eq_true url
    decide
  refine (messages_accepted_iff Sample.stored Sample.fromEdge trims "" Sample.uuid 200000
    Sample.dispatch Sample.workspace).mpr ⟨⟨?_, ?_, ?_, ?_, ?_⟩, rfl, .inr ⟨by decide, by norm_num⟩⟩
  · rintro n ⟨⟩
    norm_num
  all_goals exact fun n none_there => by cases none_there

/-- A message that comes from a channel has no text on the stream. -/
theorem channel_turn_ignored : ¬∀ send : SessionMessage,
    sessionTurnSchema (sessionTurn Sample.stored send) = true := by
  intro accepted
  have text := accepted Sample.fromChannel
  revert text
  decide

end Vespid.Gateway
