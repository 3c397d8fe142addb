import Vespid.Api.Toolsets
import Mathlib.Data.List.DropRight
import Mathlib.Data.List.Sort

/-!
# Toolset builder sessions

Chats and finalizes of one session. Between the check that a session is not finalized and the
write to it lies a call to a model. The prompt is cut from the end of the first 24 turns.
-/

namespace Vespid.Api.ToolsetBuilder

open Interleaving
open OAuth (AppError)
open Toolsets (AgentSkillBundle McpServerConfig PolicyError DraftVisibility)
open Toolsets (validateMcpPlaceholderPolicy validateAgentSkillBundles)

/-! ### Sessions -/

inductive BuilderStatus where
  | active | finalized | archived
  deriving DecidableEq

structure ToolsetDraft where
  name : String
  description : String
  visibility : DraftVisibility
  mcpServers : List McpServerConfig
  agentSkills : List AgentSkillBundle

structure BuilderSession where
  status : BuilderStatus
  latestIntent : Option String
  selectedComponentKeys : List String
  finalDraft : Option ToolsetDraft

inductive TurnRole where
  | user | assistant
  deriving DecidableEq

structure Turn where
  id : Nat
  role : TurnRole
  messageText : String
  createdAt : Nat
  deriving DecidableEq

/-- The order of the listing: by time, then by id. -/
def Turn.Upto (t u : Turn) : Prop :=
  t.createdAt < u.createdAt ∨ (t.createdAt = u.createdAt ∧ t.id ≤ u.id)

instance : DecidableRel Turn.Upto := fun t u => by
  unfold Turn.Upto
  infer_instance

instance : Std.Total Turn.Upto := ⟨fun t u => by unfold Turn.Upto; omega⟩

instance : IsTrans Turn Turn.Upto := ⟨fun t u v => by unfold Turn.Upto; omega⟩

/-! ### The catalog -/

inductive CatalogKind where
  | mcp (server : McpServerConfig) (requiredEnv : List String)
  | skill (idHint : String) (optionalDirs : Option Json)

structure ToolsetCatalogItem where
  name : String
  description : Option String
  kind : CatalogKind

/-- The catalog by its keys, and the redaction of what looks like a secret. -/
structure Builder where
  catalog : String → Option ToolsetCatalogItem
  redactLikelySecrets : String → String

/-! ### Errors -/

inductive ErrorDetails where
  | policy (error : PolicyError)
  | invalidKeys (keys : List String)
  | name (name : String)

structure BuilderError extends AppError where
  details : Option ErrorDetails := none

def badRequest (message : String) (details : Option ErrorDetails) : BuilderError where
  statusCode := 400
  code := "BAD_REQUEST"
  message := message
  details := details

def toolsetBuilderSessionNotFound : BuilderError where
  statusCode := 404
  code := "TOOLSET_BUILDER_SESSION_NOT_FOUND"
  message := "Toolset builder session not found"

def toolsetBuilderSessionFinalized : BuilderError where
  statusCode := 409
  code := "TOOLSET_BUILDER_SESSION_FINALIZED"
  message := "Toolset builder session is finalized"

def invalidContent (refused : Toolsets.ToolsetError) : BuilderError where
  toAppError := refused.toAppError
  details := refused.details.map .policy

/-! ### Operations -/

/-- What a listing answers, with the whole table that it was cut from. -/
structure Listed where
  rows : List Turn
  table : List Turn

/-- What the turns of a prompt were taken from: the table as it was listed, and the message that a
chat had stored. -/
structure Made where
  table : List Turn
  stored : Option Turn

structure ChatPrompt where
  latestIntent : Option String
  selectedComponentKeys : List String
  turns : List (TurnRole × String)
  newMessage : String

structure FinalizePrompt where
  latestIntent : Option String
  selectedMcpServers : List (McpServerConfig × List String)
  selectedSkillTemplates : List (String × String × Option String × Option Json)
  turns : List (TurnRole × String)

structure AssistantReply where
  message : String
  suggestedComponentKeys : List String

structure DraftReply where
  name : String
  description : Option String
  agentSkills : List AgentSkillBundle

inductive BuilderOp where
  | getToolsetBuilderSessionById
  | appendToolsetBuilderTurn (role : TurnRole) (messageText : String)
  | resolveToolsetBuilderSecretValue
  | listToolsetBuilderTurns (limit : Nat)
  | callChatLlm (prompt : ChatPrompt) (made : Made)
  | callFinalizeLlm (prompt : FinalizePrompt) (made : Made)
  | updateToolsetBuilderSessionSelection (latestIntent : Option String) (keys : List String)
  | finalizeToolsetBuilderSession (keys : List String) (draft : ToolsetDraft)

/-- The answers of a model come parsed, or as the error that the request ends with. -/
abbrev BuilderOp.Reply : BuilderOp → Type
  | getToolsetBuilderSessionById => Option BuilderSession
  | appendToolsetBuilderTurn _ _ => Turn
  | resolveToolsetBuilderSecretValue => Except BuilderError Unit
  | listToolsetBuilderTurns _ => Listed
  | callChatLlm _ _ => Except BuilderError AssistantReply
  | callFinalizeLlm _ _ => Except BuilderError DraftReply
  | updateToolsetBuilderSessionSelection _ _ => Option BuilderSession
  | finalizeToolsetBuilderSession _ _ => Option BuilderSession

abbrev BuilderOps : Interface where
  Op := BuilderOp
  Reply := BuilderOp.Reply

abbrev BuilderProgram := Program BuilderOps

abbrev ask (op : BuilderOp) : BuilderProgram op.Reply := Program.issue (I := BuilderOps) op

/-! ### Requests -/

structure ChatRequest where
  message : String
  selectedComponentKeys : List String

structure FinalizeRequest where
  name : Option String
  description : Option String
  visibility : Option DraftVisibility
  selectedComponentKeys : List String

inductive BuilderAnswer where
  | chat (assistant : AssistantReply) (selectedComponentKeys : List String)
  | finalize (draft : ToolsetDraft)

abbrev Answer := Except BuilderError BuilderAnswer

def trimmed (s : String) : String := String.ofList (Scheduler.trim s.toList)

/-- `turns.map(..).slice(-12)`. -/
def promptTurns (rows : List Turn) : List (TurnRole × String) :=
  (rows.map fun t => (t.role, t.messageText)).rtake 12

namespace Builder
variable (builder : Builder)

def normalizeSelectedComponentKeys (keys : List String) : Except BuilderError (List String) :=
  let uniq := ((keys.map trimmed).filter (· ≠ "")).eraseDups
  let invalid := uniq.filter fun key => (builder.catalog key).isNone
  if invalid ≠ [] then
    .error (badRequest "Invalid selectedComponentKeys" (some (.invalidKeys invalid)))
  else .ok uniq

/-- Store what the model said, and the components that are now selected. -/
def keepReply (selected : List String) (message : String) (assistant : AssistantReply) :
    BuilderProgram Answer :=
  match builder.normalizeSelectedComponentKeys assistant.suggestedComponentKeys with
  | .error error => return .error error
  | .ok suggested => do
    let merged := (selected ++ suggested).eraseDups
    let _ ← ask (.appendToolsetBuilderTurn .assistant assistant.message)
    let _ ← ask (.updateToolsetBuilderSessionSelection (some message) merged)
    return .ok (.chat { message := assistant.message, suggestedComponentKeys := suggested } merged)

/-- Store the message and ask the model. -/
def askChat (session : BuilderSession) (selected : List String) (message : String) :
    BuilderProgram Answer := do
  let stored ← ask (.appendToolsetBuilderTurn .user (builder.redactLikelySecrets message))
  match ← ask .resolveToolsetBuilderSecretValue with
  | .error error => return .error error
  | .ok () =>
    let turns ← ask (.listToolsetBuilderTurns 24)
    let prompt : ChatPrompt :=
      { latestIntent := session.latestIntent, selectedComponentKeys := selected
        turns := promptTurns turns.rows, newMessage := message }
    match ← ask (.callChatLlm prompt { table := turns.table, stored := some stored }) with
    | .error error => return .error error
    | .ok assistant => builder.keepReply selected message assistant

def chat (request : ChatRequest) : BuilderProgram Answer := do
  match ← ask .getToolsetBuilderSessionById with
  | none => return .error toolsetBuilderSessionNotFound
  | some session =>
    if session.status = .finalized then return .error toolsetBuilderSessionFinalized
    else match builder.normalizeSelectedComponentKeys request.selectedComponentKeys with
      | .error error => return .error error
      | .ok selected => builder.askChat session selected (trimmed request.message)

/-- The servers among the selected components, with the environment they need. -/
def selectedMcp (keys : List String) : List (McpServerConfig × List String) :=
  keys.filterMap fun key => (builder.catalog key).bind fun item =>
    match item.kind with
    | .mcp server requiredEnv => some (server, requiredEnv)
    | .skill _ _ => none

def selectedSkillTemplates (keys : List String) :
    List (String × String × Option String × Option Json) :=
  keys.filterMap fun key => (builder.catalog key).bind fun item =>
    match item.kind with
    | .mcp _ _ => none
    | .skill idHint optionalDirs => some (idHint, item.name, item.description, optionalDirs)

/-- The names of the servers are not reserved, and differ from those seen before. -/
def checkNames : List McpServerConfig → List String → Except BuilderError Unit
  | [], _ => .ok ()
  | server :: rest, names =>
    if server.name = "vespid-tools" then
      .error (badRequest "MCP server name is reserved: vespid-tools" none)
    else if server.name ∈ names then
      .error (badRequest "Duplicate MCP server name" (some (.name server.name)))
    else checkNames rest (server.name :: names)

/-- The draft of a finalize, checked. -/
def makeDraft (request : FinalizeRequest) (keys : List String) (reply : DraftReply) :
    Except BuilderError ToolsetDraft := do
  let mcpServers := (builder.selectedMcp keys).map (·.1)
  let named := trimmed (request.name.getD "")
  checkNames mcpServers []
  let draft : ToolsetDraft :=
    { name := if named = "" then trimmed reply.name else named
      description := ((request.description <|> reply.description).map trimmed).getD ""
      visibility := request.visibility.getD ⟨.private_, by decide⟩
      mcpServers, agentSkills := reply.agentSkills }
  match Toolsets.checkContent draft.mcpServers draft.agentSkills with
  | .error refused => throw (invalidContent refused)
  | .ok () => return draft

def keepDraft (request : FinalizeRequest) (keys : List String) (reply : DraftReply) :
    BuilderProgram Answer :=
  match builder.makeDraft request keys reply with
  | .error error => return .error error
  | .ok draft => do
    match ← ask (.finalizeToolsetBuilderSession keys draft) with
    | none => return .error toolsetBuilderSessionNotFound
    | some _ => return .ok (.finalize draft)

def askDraft (request : FinalizeRequest) (session : BuilderSession) (keys : List String) :
    BuilderProgram Answer := do
  match ← ask .resolveToolsetBuilderSecretValue with
  | .error error => return .error error
  | .ok () =>
    let turns ← ask (.listToolsetBuilderTurns 24)
    let prompt : FinalizePrompt :=
      { latestIntent := session.latestIntent, selectedMcpServers := builder.selectedMcp keys
        selectedSkillTemplates := builder.selectedSkillTemplates keys
        turns := promptTurns turns.rows }
    match ← ask (.callFinalizeLlm prompt { table := turns.table, stored := none }) with
    | .error error => return .error error
    | .ok reply => builder.keepDraft request keys reply

def finalize (request : FinalizeRequest) : BuilderProgram Answer := do
  match ← ask .getToolsetBuilderSessionById with
  | none => return .error toolsetBuilderSessionNotFound
  | some session =>
    if session.status = .finalized then return .error toolsetBuilderSessionFinalized
    else match builder.normalizeSelectedComponentKeys request.selectedComponentKeys with
      | .error error => return .error error
      | .ok keys => builder.askDraft request session keys

end Builder

/-! ### One session -/

/-- What a finalize decides. -/
structure Decided where
  selectedComponentKeys : List String
  latestIntent : Option String
  finalDraft : Option ToolsetDraft

def BuilderSession.decided (session : BuilderSession) : Decided where
  selectedComponentKeys := session.selectedComponentKeys
  latestIntent := session.latestIntent
  finalDraft := session.finalDraft

/-- A prompt that was sent. -/
structure Sent where
  turns : List (TurnRole × String)
  made : Made

/-- The session and its turns, what it was when it was first finalized, the prompts, and the
answers, each with whether its request started after that. -/
structure BuilderStore where
  session : BuilderSession
  turns : List Turn
  finalizedAs : Option Decided
  sent : List Sent
  answers : List (Bool × Answer)

/-- The turns in the order of the listing. -/
def BuilderStore.table (st : BuilderStore) : List Turn := st.turns.insertionSort Turn.Upto

def BuilderStore.send (st : BuilderStore) (turns : List (TurnRole × String)) (made : Made) :
    BuilderStore :=
  { st with sent := { turns, made } :: st.sent }

def BuilderStore.select (st : BuilderStore) (latestIntent : Option String) (keys : List String) :
    BuilderStore :=
  { st with session := { st.session with
      latestIntent := latestIntent <|> st.session.latestIntent, selectedComponentKeys := keys } }

def BuilderStore.finalize (st : BuilderStore) (keys : List String) (draft : ToolsetDraft) :
    BuilderStore :=
  let session := { st.session with
    status := .finalized, selectedComponentKeys := keys, finalDraft := some draft }
  { st with session, finalizedAs := st.finalizedAs <|> some session.decided }

/-- What others do: the id and the time of a row, and the answers of the secrets and the model. -/
structure World where
  id : Nat
  createdAt : Nat
  secret : Except BuilderError Unit
  assistant : Except BuilderError AssistantReply
  draft : Except BuilderError DraftReply

def performBuilder (st : BuilderStore) (world : World) :
    (op : BuilderOp) → Option (op.Reply × BuilderStore)
  | .getToolsetBuilderSessionById => some (some st.session, st)
  | .appendToolsetBuilderTurn role messageText =>
    let turn : Turn := { id := world.id, role, messageText, createdAt := world.createdAt }
    some (turn, { st with turns := turn :: st.turns })
  | .resolveToolsetBuilderSecretValue => some (world.secret, st)
  | .listToolsetBuilderTurns limit =>
    some ({ rows := st.table.take (max 1 limit), table := st.table }, st)
  | .callChatLlm prompt made => some (world.assistant, st.send prompt.turns made)
  | .callFinalizeLlm prompt made => some (world.draft, st.send prompt.turns made)
  | .updateToolsetBuilderSessionSelection latestIntent keys =>
    some (some (st.select latestIntent keys).session, st.select latestIntent keys)
  | .finalizeToolsetBuilderSession keys draft =>
    some (some (st.finalize keys draft).session, st.finalize keys draft)

inductive BuilderRequest where
  | chat (request : ChatRequest)
  | finalize (request : FinalizeRequest)

def Builder.handle (builder : Builder) : BuilderRequest → BuilderProgram Answer
  | .chat request => builder.chat request
  | .finalize request => builder.finalize request

/-- Any number of chats and finalizes; each knows whether it started after a finalize. -/
abbrev builderSystem (builder : Builder) : System BuilderOps where
  Store := BuilderStore
  Launch := Bool × BuilderRequest
  Loop := Empty
  Outcome := Answer
  Choice := World
  Tick := Empty
  perform op st world := performBuilder st world op
  launch l st := if l.1 = st.finalizedAs.isSome then some st else none
  entry l := .inr <$> builder.handle l.2
  body _ loop := nomatch loop
  finish l answer st := { st with answers := (l.1, answer) :: st.answers }
  tick impossible := nomatch impossible

/-- A session in any state, with any turns. -/
def opened (builder : Builder) (session : BuilderSession) (turns : List Turn) :
    (builderSystem builder).State where
  store :=
    { session, turns, sent := [], answers := []
      finalizedAs := if session.status = .finalized then some session.decided else none }
  process _ := none

/-! ### The claim and its condition -/

/-- A finalized session stays as it is, requests that start after a finalize are refused, and
prompts hold the last 12 turns, among them the message that the chat stored. -/
structure FinishesOnce (st : BuilderStore) : Prop where
  frozen : ∀ decided, st.finalizedAs = some decided → st.session.decided = decided
  refused : ∀ a ∈ st.answers, a.1 = true → ∃ error, a.2 = .error error
  recent : ∀ sent ∈ st.sent,
    sent.turns = (sent.made.table.rtake 12).map (fun t => (t.role, t.messageText)) ∧
      ∀ t, sent.made.stored = some t → t ∈ sent.made.table.rtake 12

/-- How far a request is. -/
structure Progress where
  passed : Bool
  stored : Option Turn
  listed : Option Listed

def Progress.made (g : Progress) (turns : List (TurnRole × String)) (made : Made) : Prop :=
  ∃ listed, g.listed = some listed ∧ turns = promptTurns listed.rows ∧
    made = { table := listed.table, stored := g.stored }

def builderProtocol : Protocol BuilderOps Progress where
  permits g op := match op with
    | .appendToolsetBuilderTurn .user _ => g.listed = none
    | .listToolsetBuilderTurns limit => limit = 24
    | .callChatLlm prompt made => g.made prompt.turns made
    | .callFinalizeLlm prompt made => g.made prompt.turns made
    | _ => True
  expects _ _ := True
  observe g op reply := match op, reply with
    | .getToolsetBuilderSessionById, some session =>
      { g with passed := decide (session.status ≠ .finalized) }
    | .appendToolsetBuilderTurn .user _, turn => { g with stored := some turn }
    | .listToolsetBuilderTurns _, listed => { g with listed := some listed }
    | _, _ => g

/-- A request that is not refused has found the session not finalized. -/
def Answered (answer : Answer) (g : Progress) : Prop :=
  g.passed = true ∨ ∃ error, answer = .error error

def Progress.start : Progress where
  passed := false
  stored := none
  listed := none

section follows
variable (builder : Builder)

theorem keepReply_follows (selected : List String) (message : String) (assistant : AssistantReply)
    {g : Progress} (passed : g.passed = true) :
    (builder.keepReply selected message assistant).wp builderProtocol Answered g := by
  unfold Builder.keepReply
  split
  · exact .inl passed
  · exact ⟨trivial, fun _ _ => ⟨trivial, fun _ _ => .inl passed⟩⟩

theorem askChat_follows (session : BuilderSession) (selected : List String) (message : String)
    {g : Progress} (passed : g.passed = true) (unlisted : g.listed = none) :
    (builder.askChat session selected message).wp builderProtocol Answered g := by
  refine ⟨unlisted, fun stored _ => ⟨trivial, fun secret _ => ?_⟩⟩
  cases secret with
  | error error => exact .inl passed
  | ok known =>
    refine ⟨rfl, fun listed _ => ⟨⟨listed, rfl, rfl, rfl⟩, fun reply _ => ?_⟩⟩
    cases reply with
    | error error => exact .inl passed
    | ok assistant => exact keepReply_follows builder selected message assistant passed

theorem keepDraft_follows (request : FinalizeRequest) (keys : List String) (reply : DraftReply)
    {g : Progress} (passed : g.passed = true) :
    (builder.keepDraft request keys reply).wp builderProtocol Answered g := by
  unfold Builder.keepDraft
  split
  · exact .inl passed
  · refine ⟨trivial, fun row _ => ?_⟩
    cases row <;> exact .inl passed

theorem askDraft_follows (request : FinalizeRequest) (session : BuilderSession) (keys : List String)
    {g : Progress} (passed : g.passed = true) (unstored : g.stored = none) :
    (builder.askDraft request session keys).wp builderProtocol Answered g := by
  refine ⟨trivial, fun secret _ => ?_⟩
  cases secret with
  | error error => exact .inl passed
  | ok known =>
    refine ⟨rfl, fun listed _ => ⟨⟨listed, rfl, rfl, ?_⟩, fun reply _ => ?_⟩⟩
    · exact congrArg _ unstored.symm
    · cases reply with
      | error error => exact .inl passed
      | ok draft => exact keepDraft_follows builder request keys draft passed

theorem chat_follows (request : ChatRequest) :
    (builder.chat request).wp builderProtocol Answered .start := by
  refine ⟨trivial, fun session _ => ?_⟩
  cases session with
  | none => exact .inr ⟨_, rfl⟩
  | some session =>
    show Program.wp builderProtocol Answered (if session.status = .finalized then _ else _)
      { passed := decide (session.status ≠ .finalized), stored := none, listed := none }
    split
    · exact .inr ⟨_, rfl⟩
    · next unfinished =>
      rw [decide_eq_true unfinished]
      show Program.wp builderProtocol Answered
        (match builder.normalizeSelectedComponentKeys request.selectedComponentKeys with
          | .error _ => _ | .ok _ => _) _
      split
      · exact .inl rfl
      · exact askChat_follows builder session _ _ rfl rfl

theorem finalize_follows (request : FinalizeRequest) :
    (builder.finalize request).wp builderProtocol Answered .start := by
  refine ⟨trivial, fun session _ => ?_⟩
  cases session with
  | none => exact .inr ⟨_, rfl⟩
  | some session =>
    show Program.wp builderProtocol Answered (if session.status = .finalized then _ else _)
      { passed := decide (session.status ≠ .finalized), stored := none, listed := none }
    split
    · exact .inr ⟨_, rfl⟩
    · next unfinished =>
      rw [decide_eq_true unfinished]
      show Program.wp builderProtocol Answered
        (match builder.normalizeSelectedComponentKeys request.selectedComponentKeys with
          | .error _ => _ | .ok _ => _) _
      split
      · exact .inl rfl
      · exact askDraft_follows builder request session _ rfl rfl

end follows

def builderCertified (builder : Builder) : Certified (builderSystem builder) builderProtocol where
  start _ := .start
  looping _ loop _ := nomatch loop
  ended _ := Answered
  entry_follows l := by
    obtain ⟨late, request⟩ := l
    cases request with
    | chat request => exact Program.wp_seq (chat_follows builder request) fun _ _ ended => ended
    | finalize request =>
      exact Program.wp_seq (finalize_follows builder request) fun _ _ ended => ended
  body_follows _ loop := nomatch loop
  replies _ _ _ _ _ _ := trivial

/-- The turns of the session that are listed after the given one. -/
def later (turns : List Turn) (t : Turn) : List Turn := turns.filter fun u => u ≠ t ∧ t.Upto u

/-- A write finds the session not finalized; a listing finds at most 24 turns, and fewer than 12
of them after the one that its chat stored. -/
def Timely (builder : Builder) (s : (builderSystem builder).State)
    (a : (builderSystem builder).Action) : Prop :=
  match (builderCertified builder).issued s a with
  | some (_, .updateToolsetBuilderSessionSelection _ _) => s.store.session.status ≠ .finalized
  | some (_, .finalizeToolsetBuilderSession _ _) => s.store.session.status ≠ .finalized
  | some (g, .listToolsetBuilderTurns _) => s.store.turns.length ≤ 24 ∧
      ∀ t ∈ g.stored, (later s.store.turns t).length < 12
  | _ => True

instance (builder : Builder) (s : (builderSystem builder).State)
    (a : (builderSystem builder).Action) : Decidable (Timely builder s a) := by
  unfold Timely
  split <;> infer_instance

/-! ### The last turns -/

theorem mem_rtake_of_later {turns : List Turn} {t : Turn} {n : Nat} (mem : t ∈ turns)
    (few : (later turns t).length < n) : t ∈ (turns.insertionSort Turn.Upto).rtake n := by
  have sorted := List.pairwise_insertionSort Turn.Upto turns
  have perm := List.perm_insertionSort Turn.Upto turns
  have same : (later (turns.insertionSort Turn.Upto) t).length = (later turns t).length :=
    (perm.filter _).length_eq
  have there : t ∈ turns.insertionSort Turn.Upto := perm.mem_iff.mpr mem
  generalize turns.insertionSort Turn.Upto = table at sorted same there
  unfold List.rtake
  by_contra missing
  have first : t ∈ table.take (table.length - n) := by
    rw [← List.take_append_drop (table.length - n) table] at there
    exact (List.mem_append.mp there).resolve_right missing
  have all : ∀ u ∈ table.drop (table.length - n), u ≠ t ∧ t.Upto u := by
    intro u after
    refine ⟨fun is => missing (is ▸ after), ?_⟩
    rw [← List.take_append_drop (table.length - n) table] at sorted
    exact (List.pairwise_append.mp sorted).2.2 t first u after
  have kept : (table.drop (table.length - n)).filter (fun u => u ≠ t ∧ t.Upto u) =
      table.drop (table.length - n) := List.filter_eq_self.mpr fun u after => by simpa using all u after
  have counted := ((List.drop_sublist (table.length - n) table).filter
    fun u => u ≠ t ∧ t.Upto u).length_le
  rw [kept, List.length_drop] at counted
  have positive : 0 < table.length - n := by
    by_contra zero
    rw [show table.length - n = 0 by omega] at first
    cases first
  have few : (later table t).length < n := same ▸ few
  unfold later at few
  omega

theorem promptTurns_eq {turns : List Turn} {limit : Nat} (short : turns.length ≤ limit) :
    promptTurns (turns.take limit) = (turns.rtake 12).map fun t => (t.role, t.messageText) := by
  unfold promptTurns List.rtake
  rw [List.take_of_length_le short, List.length_map, List.map_drop]

/-- From 24 turns on the prompt is cut from the first 24, whatever comes after them. -/
theorem promptTurns_stale {table : List Turn} (long : 24 ≤ table.length) :
    promptTurns (table.take 24) =
      ((table.take 24).drop 12).map fun t => (t.role, t.messageText) := by
  unfold promptTurns List.rtake
  rw [List.length_map, List.length_take, min_eq_left long, List.map_drop]

/-! ### What every request keeps -/

/-- The turns of a prompt made now would be the last ones. -/
def Progress.Recent (g : Progress) : Prop :=
  ∀ listed, g.listed = some listed →
    promptTurns listed.rows = (listed.table.rtake 12).map (fun t => (t.role, t.messageText)) ∧
      ∀ t, g.stored = some t → t ∈ listed.table.rtake 12

structure BuilderInv (st : BuilderStore)
    (crew : Nat → Option ((Bool × BuilderRequest) × Progress)) : Prop where
  status : st.session.status = .finalized ↔ st.finalizedAs.isSome = true
  claim : FinishesOnce st
  late : ∀ i q, crew i = some q → q.1.1 = true →
    st.finalizedAs.isSome = true ∧ q.2.passed = false
  stored : ∀ i q t, crew i = some q → q.2.stored = some t → t ∈ st.turns
  recent : ∀ i q, crew i = some q → q.2.Recent

section steps
variable {st st' : BuilderStore} {crew : Nat → Option ((Bool × BuilderRequest) × Progress)}
  {id : Nat} {l : Bool × BuilderRequest} {g : Progress}

/-- A request goes on where the store only grows. -/
theorem builderInv_step (inv : BuilderInv st crew) {new : Option ((Bool × BuilderRequest) × Progress)}
    (status : st'.session.status = .finalized ↔ st'.finalizedAs.isSome = true)
    (claim : FinishesOnce st') (still : st.finalizedAs.isSome = true → st'.finalizedAs.isSome = true)
    (grown : ∀ t ∈ st.turns, t ∈ st'.turns)
    (late : ∀ q, new = some q → q.1.1 = true → st'.finalizedAs.isSome = true ∧ q.2.passed = false)
    (stored : ∀ q t, new = some q → q.2.stored = some t → t ∈ st'.turns)
    (recent : ∀ q, new = some q → q.2.Recent) :
    BuilderInv st' (Function.update crew id new) where
  status := status
  claim := claim
  late i q there is := by
    obtain ⟨-, same⟩ | ⟨-, there⟩ := update_cases there
    · exact late q same is
    · obtain ⟨finalized, passed⟩ := inv.late i q there is
      exact ⟨still finalized, passed⟩
  stored i q t there is := by
    obtain ⟨-, same⟩ | ⟨-, there⟩ := update_cases there
    · exact stored q t same is
    · exact grown t (inv.stored i q t there is)
  recent i q there := by
    obtain ⟨-, same⟩ | ⟨-, there⟩ := update_cases there
    · exact recent q same
    · exact inv.recent i q there

/-- A request that does not look at the session or the turns goes on where the store only grows. -/
theorem builderInv_same (inv : BuilderInv st crew) (here : crew id = some (l, g))
    (status : st'.session.status = .finalized ↔ st'.finalizedAs.isSome = true)
    (claim : FinishesOnce st') (still : st.finalizedAs.isSome = true → st'.finalizedAs.isSome = true)
    (grown : ∀ t ∈ st.turns, t ∈ st'.turns) :
    BuilderInv st' (Function.update crew id (some (l, g))) := by
  refine builderInv_step inv status claim still grown (fun q is late => ?_) (fun q t is has => ?_)
    fun q is => ?_
  · obtain rfl := Option.some.inj is
    obtain ⟨finalized, passed⟩ := inv.late id _ here late
    exact ⟨still finalized, passed⟩
  · obtain rfl := Option.some.inj is
    exact grown t (inv.stored id _ t here has)
  · obtain rfl := Option.some.inj is
    exact inv.recent id _ here

theorem finishesOnce_send (claim : FinishesOnce st) {turns : List (TurnRole × String)} {made : Made}
    (recent : g.Recent) (from_ : g.made turns made) : FinishesOnce (st.send turns made) where
  frozen := claim.frozen
  refused := claim.refused
  recent sent mem := by
    obtain rfl | mem := List.mem_cons.mp mem
    · obtain ⟨listed, is, rfl, rfl⟩ := from_
      exact recent listed is
    · exact claim.recent sent mem

theorem finishesOnce_write (inv : BuilderInv st crew) {session : BuilderSession}
    {finalizedAs : Option Decided}
    (as : ∀ decided, finalizedAs = some decided → session.decided = decided) :
    FinishesOnce { st with session, finalizedAs } where
  frozen := as
  refused := inv.claim.refused
  recent := inv.claim.recent

theorem unfinished (inv : BuilderInv st crew) (open_ : st.session.status ≠ .finalized) :
    st.finalizedAs = none := by
  rw [← Option.not_isSome_iff_eq_none, ← inv.status]
  exact open_

theorem builderInv_read (inv : BuilderInv st crew) (here : crew id = some (l, g)) :
    BuilderInv st (Function.update crew id
      (some (l, { g with passed := decide (st.session.status ≠ .finalized) }))) := by
  refine builderInv_step inv inv.status inv.claim (fun is => is) (fun _ mem => mem)
    (fun q is late => ?_) (fun q t is => ?_) fun q is => ?_
  · obtain rfl := Option.some.inj is
    have finished := (inv.late id (l, g) here late).1
    exact ⟨finished, decide_eq_false (not_not_intro (inv.status.mpr finished))⟩
  · obtain rfl := Option.some.inj is
    exact inv.stored id (l, g) t here
  · obtain rfl := Option.some.inj is
    exact inv.recent id (l, g) here

theorem builderInv_append (inv : BuilderInv st crew) (here : crew id = some (l, g)) {turn : Turn}
    {stored : Option Turn} (from_ : stored = g.stored ∨ (stored = some turn ∧ g.listed = none)) :
    BuilderInv { st with turns := turn :: st.turns }
      (Function.update crew id (some (l, { g with stored }))) := by
  refine builderInv_step inv inv.status ⟨inv.claim.frozen, inv.claim.refused, inv.claim.recent⟩
    (fun is => is) (fun _ => List.mem_cons_of_mem _) (fun q is => ?_) (fun q t is has => ?_)
    fun q is => ?_
  · obtain rfl := Option.some.inj is
    exact inv.late id (l, g) here
  · obtain rfl := Option.some.inj is
    obtain rfl | ⟨rfl, -⟩ := from_
    · exact List.mem_cons_of_mem _ (inv.stored id (l, g) t here has)
    · rw [← Option.some.inj has]
      exact List.mem_cons_self
  · obtain rfl := Option.some.inj is
    obtain rfl | ⟨-, none_⟩ := from_
    · exact inv.recent id (l, g) here
    · intro listed is
      rw [show g.listed = some listed from is] at none_
      cases none_

theorem builderInv_list (inv : BuilderInv st crew) (here : crew id = some (l, g))
    (short : st.turns.length ≤ 24)
    (few : ∀ t, g.stored = some t → (later st.turns t).length < 12) :
    BuilderInv st (Function.update crew id
      (some (l, { g with listed := some { rows := st.table.take 24, table := st.table } }))) := by
  refine builderInv_step inv inv.status inv.claim (fun is => is) (fun _ mem => mem) (fun q is => ?_)
    (fun q t is => ?_) fun q is => ?_
  · obtain rfl := Option.some.inj is
    exact inv.late id (l, g) here
  · obtain rfl := Option.some.inj is
    exact inv.stored id (l, g) t here
  · obtain rfl := Option.some.inj is
    intro listed same
    obtain rfl := Option.some.inj same
    refine ⟨promptTurns_eq ?_, fun t has => ?_⟩
    · rwa [BuilderStore.table, List.length_insertionSort]
    · exact mem_rtake_of_later (inv.stored id (l, g) t here has) (few t has)

theorem builderInv_call (inv : BuilderInv st crew) (here : crew id = some (l, g)) {op : BuilderOp}
    {world : World} {reply : op.Reply} (permitted : builderProtocol.permits g op)
    (performed : performBuilder st world op = some (reply, st'))
    (updates : ∀ intent keys, op = .updateToolsetBuilderSessionSelection intent keys →
      st.session.status ≠ .finalized)
    (finalizes : ∀ keys draft, op = .finalizeToolsetBuilderSession keys draft →
      st.session.status ≠ .finalized)
    (timely : ∀ limit, op = .listToolsetBuilderTurns limit → st.turns.length ≤ 24 ∧
      ∀ t ∈ g.stored, (later st.turns t).length < 12) :
    BuilderInv st' (Function.update crew id (some (l, builderProtocol.observe g op reply))) := by
  cases op with
  | getToolsetBuilderSessionById =>
    cases performed
    exact builderInv_read inv here
  | appendToolsetBuilderTurn role text =>
    cases performed
    cases role with
    | user => exact builderInv_append inv here (.inr ⟨rfl, permitted⟩)
    | assistant => exact builderInv_append inv here (.inl rfl)
  | resolveToolsetBuilderSecretValue =>
    cases performed
    exact builderInv_same inv here inv.status inv.claim (fun is => is) fun _ mem => mem
  | listToolsetBuilderTurns limit =>
    obtain rfl : limit = 24 := permitted
    cases performed
    obtain ⟨short, few⟩ := timely 24 rfl
    exact builderInv_list inv here short few
  | callChatLlm prompt made =>
    cases performed
    exact builderInv_same inv here inv.status
      (finishesOnce_send inv.claim (inv.recent id (l, g) here) permitted) (fun is => is) fun _ mem => mem
  | callFinalizeLlm prompt made =>
    cases performed
    exact builderInv_same inv here inv.status
      (finishesOnce_send inv.claim (inv.recent id (l, g) here) permitted) (fun is => is) fun _ mem => mem
  | updateToolsetBuilderSessionSelection intent keys =>
    cases performed
    have none_ := unfinished inv (updates intent keys rfl)
    refine builderInv_same inv here inv.status (finishesOnce_write inv fun decided is => ?_)
      (fun is => is) fun _ mem => mem
    rw [none_] at is
    cases is
  | finalizeToolsetBuilderSession keys draft =>
    cases performed
    have none_ := unfinished inv (finalizes keys draft rfl)
    refine builderInv_same inv here ?_ (finishesOnce_write inv fun decided is => ?_)
      (fun is => ?_) fun _ mem => mem
    · simp [BuilderStore.finalize, none_]
    · rw [none_] at is
      exact Option.some.inj is
    · simp [BuilderStore.finalize, none_]

theorem builderInv_launch (inv : BuilderInv st crew) (late : l.1 = st.finalizedAs.isSome) :
    BuilderInv st (Function.update crew id (some (l, .start))) := by
  refine builderInv_step inv inv.status inv.claim (fun is => is) (fun _ mem => mem)
    (fun q is late' => ?_) (fun q t is has => ?_) fun q is => ?_
  · obtain rfl := Option.some.inj is
    exact ⟨late ▸ late', rfl⟩
  · obtain rfl := Option.some.inj is
    cases has
  · obtain rfl := Option.some.inj is
    intro listed same
    cases same

theorem builderInv_finish (inv : BuilderInv st crew) (here : crew id = some (l, g)) {answer : Answer}
    (ended : Answered answer g) : BuilderInv { st with answers := (l.1, answer) :: st.answers }
      (Function.update crew id none) := by
  refine builderInv_step inv inv.status ⟨inv.claim.frozen, fun a mem late => ?_, inv.claim.recent⟩
    (fun is => is) (fun _ mem => mem) (fun q is => (by cases is)) (fun q t is => (by cases is))
    fun q is => (by cases is)
  obtain rfl | mem := List.mem_cons.mp mem
  · obtain passed | refused := ended
    · rw [(inv.late id (l, g) here late).2] at passed
      cases passed
    · exact refused
  · exact inv.claim.refused a mem late

end steps

theorem builderInv_opened (builder : Builder) (session : BuilderSession) (turns : List Turn) :
    BuilderInv (opened builder session turns).store fun _ => none where
  status := by
    unfold opened
    split <;> simp_all
  claim :=
    { frozen := fun decided is => by
        unfold opened at is ⊢
        split at is
        · exact Option.some.inj is
        · cases is
      refused := fun _ mem => by cases mem
      recent := fun _ mem => by cases mem }
  late _ _ there := by cases there
  stored _ _ _ there := by cases there
  recent _ _ there := by cases there

theorem builderInv_stepped {builder : Builder} {s t : (builderSystem builder).State}
    {a : (builderSystem builder).Action} (all : (builderCertified builder).AllFollow s)
    (inv : BuilderInv s.store ((builderCertified builder).crew s)) (timely : Timely builder s a)
    (stepped : System.Stepped s a t) :
    BuilderInv t.store ((builderCertified builder).crew t) := by
  have happened := Certified.happened all stepped
  generalize (builderCertified builder).crew t = crew at happened ⊢
  generalize t.store = store at happened ⊢
  cases happened with
  | launch free launched =>
    simp only at launched
    split at launched
    · next late =>
      cases launched
      exact builderInv_launch inv late
    · cases launched
  | call here issues permitted performed =>
    unfold Timely at timely
    simp only [issues] at timely
    refine builderInv_call inv here permitted performed ?_ ?_ ?_
    · rintro intent keys rfl
      exact timely
    · rintro keys draft rfl
      exact timely
    · rintro limit rfl
      exact timely
  | loop => exact inv
  | finish here ended => exact builderInv_finish inv here ended
  | @tick impossible _ _ => exact nomatch impossible

/-- A session finishes once, and prompts hold the last turns, in every run whose writes find the
session not finalized and whose listings find few enough turns. -/
theorem finishes_once (builder : Builder) (session : BuilderSession) (turns : List Turn)
    {s : (builderSystem builder).State}
    (run : System.Steps (Timely builder) (opened builder session turns) s) :
    FinishesOnce s.store := by
  have inv := ((builderCertified builder).invariant
    (fun s => BuilderInv s.store ((builderCertified builder).crew s)) (fun _ => rfl)
    (builderInv_opened builder session turns)
    (fun _ _ _ all inv timely stepped => builderInv_stepped all inv timely stepped) run).2
  exact inv.claim

/-! ### A chat that overlaps a finalize -/

def plain : Builder where
  catalog _ := none
  redactLikelySecrets := id

def fresh : BuilderSession where
  status := .active
  latestIntent := none
  selectedComponentKeys := []
  finalDraft := none

/-- A world in which the secret is found and the model answers. -/
def willing (id : Nat) : World where
  id := id
  createdAt := id
  secret := .ok ()
  assistant := .ok { message := "Done.", suggestedComponentKeys := [] }
  draft := .ok { name := "tools", description := none, agentSkills := [] }

def hello : BuilderRequest := .chat { message := "Hello", selectedComponentKeys := [] }

def done : BuilderRequest :=
  .finalize { name := none, description := none, visibility := none, selectedComponentKeys := [] }

/-- The given number of statements of a request. -/
def calls (id calls : Nat) : List (builderSystem plain).Action :=
  List.replicate calls (.call id (willing 0))

/-- A chat runs to its end, then a finalize. -/
theorem finishes_once_one_chat : ∃ s, System.Steps (Timely plain) (opened plain fresh []) s ∧
    (s.store.session.status, s.store.sent.length) = (.finalized, 2) ∧ FinishesOnce s.store := by
  have ended : (System.exec (Timely plain) (opened plain fresh [])
      (.launch 0 (false, hello) :: calls 0 7 ++ .finish 0 :: .launch 0 (false, done) :: calls 0 5 ++
        [.finish 0])).map (fun s => (s.store.session.status, s.store.sent.length)) =
      some (.finalized, 2) := by decide +kernel
  obtain ⟨s, ran, same⟩ := Option.map_eq_some_iff.mp ended
  have steps := System.steps_of_exec ran
  exact ⟨s, steps, same, finishes_once plain fresh [] steps⟩

/-- A chat has read the session when a finalize runs, and writes its intent afterwards. -/
theorem finalized_session_written : ¬ ∀ (builder : Builder) (session : BuilderSession)
    (turns : List Turn) (s : (builderSystem builder).State),
      System.Steps (fun _ _ => True) (opened builder session turns) s → FinishesOnce s.store := by
  intro claim
  have ended : (System.exec (fun _ _ => True) (opened plain fresh [])
      (.launch 0 (false, hello) :: calls 0 1 ++ .launch 1 (false, done) :: calls 1 5 ++
        .finish 1 :: calls 0 6)).map (fun s => (s.store.session.latestIntent,
          s.store.finalizedAs.map fun decided => decided.latestIntent)) =
      some (some "Hello", some none) := by decide +kernel
  obtain ⟨s, ran, same⟩ := Option.map_eq_some_iff.mp ended
  obtain ⟨intent, was⟩ := Prod.mk.inj same
  obtain ⟨decided, finalized, none_⟩ := Option.map_eq_some_iff.mp was
  have frozen := (claim plain fresh [] s (System.steps_of_exec ran)).frozen decided finalized
  rw [← frozen] at none_
  rw [show s.store.session.decided.latestIntent = some "Hello" from intent] at none_
  cases none_

end Vespid.Api.ToolsetBuilder
