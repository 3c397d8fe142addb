import Vespid.AgentRuntime.Tools

/-!
# The tool allowlist

A call is checked against the allowlist under the id the model gives. An alias of a connector action
then turns into arguments that the model's own input is spread over, so that the list bounds the
actions only while the model's input leaves them as they are.
-/

namespace Vespid.AgentRuntime

open Interleaving

/-! ### What a model calls -/

/-- The id and the input of the tool call in an answer. -/
def calledTool (host : Host) (maxOutputChars : Nat) (content : String) :
    Option (String × List (String × Json)) :=
  let content := safeTruncate host (String.ofList (Scheduler.trim content.toList)) maxOutputChars
  match parseEnvelope host content.toList with
  | some (type, fields) =>
    if type = "tool_call" then
      match fields.lookup "toolId", fields.lookup "input" with
      | some (.str toolId), some (.obj toolInput) => some (toolId, toolInput)
      | _, _ => none
    else none
  | none => none

/-- An input under an alias names no connector or action of its own but those of the alias. -/
def KeepsToAlias (toolId : String) (toolInput : List (String × Json)) : Prop :=
  ∀ connectorId actionId, parseConnectorToolId toolId = some (connectorId, actionId) →
    (∀ value, ("connectorId", value) ∈ toolInput → value = .str connectorId) ∧
      ∀ value, ("actionId", value) ∈ toolInput → value = .str actionId

/-- The tool call in a reply of the model, if there is one, keeps to its alias. -/
def AnswerKeeps (host : Host) (maxOutputChars : Nat) (reply : LlmReply) : Prop :=
  ∀ content, reply = .ok content → ∀ toolId toolInput,
    calledTool host maxOutputChars content = some (toolId, toolInput) →
      KeepsToAlias toolId toolInput

/-- The action is that of an alias on the list, or was asked for through the listed tool for all
actions. -/
def NamedBy (allow : List String) (toolId connectorId actionId : String) : Prop :=
  (∃ listed ∈ allow, parseConnectorToolId listed = some (connectorId, actionId)) ∨
    (toolId = "connector.action" ∧ toolId ∈ allow)

/-- The action a block dispatches, if it dispatches one, is on the list. -/
def Dispatched (allow : List String) (toolId : String) (block : Block) : Prop :=
  block.kind = .connectorAction → ∃ connectorId actionId actionInput,
    block.payload = .obj [("connectorId", .str connectorId), ("actionId", .str actionId),
      ("input", actionInput)] ∧ NamedBy allow toolId connectorId actionId

theorem dispatched_redirect {allow : List String} {toolId : String} {block : Block}
    (dispatched : Dispatched allow toolId block) (dispatchNodeId : String) :
    Dispatched allow toolId (redirect block dispatchNodeId) := by
  obtain ⟨kind, payload, secret, executorSelector, timeoutMs⟩ := block
  cases kind with
  | connectorAction => exact dispatched
  | agentExecute =>
    intro connector
    cases payload <;> cases connector

/-! ### One loop -/

/-- Tools are executed under ids on the list, with the arguments of the alias below the model's
input. -/
def callProtocol (host : Host) (allow : List String) : Protocol LoopI Unit where
  permits _ op := match op with
    | .call toolId _ _ => toolId ∈ allow
    | .execute tool toolId _ args => ∃ base toolInput, toolId ∈ allow ∧
        resolveAgentTool toolId = some (tool, base) ∧ args = OrderedMap.merge base toolInput ∧
        KeepsToAlias toolId toolInput
    | _ => True
  expects op := match op with
    | .llmInvoke maxOutputChars => fun reply => AnswerKeeps host maxOutputChars reply
    | .execute _ toolId _ _ => fun reply => ∀ block, reply = .blocked block →
        Dispatched allow toolId block
    | _ => fun _ => True
  observe g _ _ := g

/-- An action that an outcome dispatches is on the list. -/
def OutcomeDispatched (allow : List String) (outcome : Outcome) : Prop :=
  ∀ block pending runtime, outcome = .blocked block pending runtime →
    Dispatched allow pending.toolId block

def NextDispatched (allow : List String) (next : Loop ⊕ Outcome) (_ : Unit) : Prop :=
  next.elim (fun _ => True) (OutcomeDispatched allow)

section loop
variable {host : Host} {input : AgentLoopInput} {l : Loop}

attribute [local irreducible] parseEnvelope

theorem persistState_calls (post : Loop → Unit → Prop) (checkpoint : Bool)
    (ends : ∀ l, post l ()) :
    (persistState host input l checkpoint).wp (callProtocol host input.allow) post () := by
  unfold persistState
  split
  · exact ends _
  · exact ⟨trivial, fun _ _ => ends _⟩

theorem fail_calls (error : String) :
    (fail host input l error).wp (callProtocol host input.allow) (NextDispatched input.allow)
      () := by
  refine Program.wp_seq (persistState_calls (fun _ _ => True) false fun _ => trivial) ?_
  intro l' g' _ block pending runtime blocked
  cases blocked

theorem failReturning_calls (error : String) :
    (failReturning host input l error).wp (callProtocol host input.allow)
      (fun outcome _ => OutcomeDispatched input.allow outcome) () := by
  refine Program.wp_seq (persistState_calls (fun _ _ => True) false fun _ => trivial) ?_
  intro l' g' _ block pending runtime blocked
  cases blocked

theorem finish_calls (output : Option Json) :
    (finish host input l output).wp (callProtocol host input.allow) (NextDispatched input.allow)
      () := by
  have success (runtime : Option WorkflowRuntime) :
      OutcomeDispatched input.allow (.succeeded output runtime) := by
    intro block pending runtime blocked
    cases blocked
  unfold finish
  split
  · split
    · exact fail_calls _
    · exact fail_calls _
    · exact success _
  · exact success _

theorem suspend_calls {toolId : String} (toolInput : List (String × Json)) (callIndex : Nat)
    {block : Block} (dispatched : Dispatched input.allow toolId block) :
    (suspend host input l toolId toolInput callIndex block).wp (callProtocol host input.allow)
      (NextDispatched input.allow) () := by
  refine Program.wp_seq (persistState_calls (fun _ _ => True) true fun _ => trivial) ?_
  intro l' g' _ block' pending runtime blocked
  cases blocked
  exact dispatched_redirect dispatched _

theorem recordResult_calls (callIndex : Nat) (result : RecordedResult) :
    (recordResult host input l callIndex result).wp (callProtocol host input.allow)
      (NextDispatched input.allow) () := by
  refine ⟨trivial, fun _ _ => ?_⟩
  show (persistState host input _ true >>= _).wp _ _ _
  exact Program.wp_seq (persistState_calls (fun _ _ => True) true fun _ => trivial)
    fun _ _ _ => trivial

theorem executeCall_calls {toolId : String} {toolInput : List (String × Json)} (callIndex : Nat)
    (listed : toolId ∈ input.allow) (keeps : KeepsToAlias toolId toolInput) :
    (executeCall host input l toolId toolInput callIndex).wp (callProtocol host input.allow)
      (NextDispatched input.allow) () := by
  unfold executeCall
  split
  · refine ⟨trivial, fun _ _ => ?_⟩
    exact fail_calls _
  · split
    · exact fail_calls _
    · rename_i tool args resolved
      refine ⟨⟨args, toolInput, listed, resolved, rfl, keeps⟩, fun reply expected => ?_⟩
      cases reply with
      | threw =>
        intro block pending runtime blocked
        cases blocked
      | blocked block =>
        show (if input.allowRemoteBlocked = true then _ else _ : Program LoopI _).wp _ _ _
        split
        · exact suspend_calls toolInput callIndex (expected block rfl)
        · exact fail_calls _
      | succeeded output => exact recordResult_calls callIndex _
      | failed error output => exact recordResult_calls callIndex _

theorem issueCall_calls {toolId : String} {toolInput : List (String × Json)}
    (listed : toolId ∈ input.allow) (keeps : KeepsToAlias toolId toolInput) :
    (issueCall host input l toolId toolInput).wp (callProtocol host input.allow)
      (NextDispatched input.allow) () := by
  refine ⟨listed, fun _ _ => ?_⟩
  show (persistState host input _ false >>= _).wp _ _ _
  refine Program.wp_seq (persistState_calls (fun _ _ => True) false fun _ => trivial) ?_
  intro l' g' _
  split
  · exact ⟨trivial, fun _ _ => trivial⟩
  · exact executeCall_calls _ listed keeps

theorem toolCall_calls {fields : List (String × Json)}
    (keeps : ∀ toolId toolInput, fields.lookup "toolId" = some (.str toolId) →
      fields.lookup "input" = some (.obj toolInput) → KeepsToAlias toolId toolInput) :
    (toolCall host input l fields).wp (callProtocol host input.allow)
      (NextDispatched input.allow) () := by
  unfold toolCall
  split
  · rename_i toolId named
    split
    · exact fail_calls _
    · split
      · exact fail_calls _
      · rename_i listed
        split
        · rename_i toolInput given
          split
          · exact fail_calls _
          · exact issueCall_calls (not_not.mp listed) (keeps toolId toolInput named given)
        · exact fail_calls _
  · exact fail_calls _

theorem answer_calls {content : String}
    (keeps : ∀ toolId toolInput,
      calledTool host input.limits.maxOutputChars content = some (toolId, toolInput) →
        KeepsToAlias toolId toolInput) :
    (answer host input l content).wp (callProtocol host input.allow)
      (NextDispatched input.allow) () := by
  unfold answer
  dsimp only
  split
  · exact fail_calls _
  · rename_i type fields parsed
    split
    · exact finish_calls _
    · split
      · rename_i toolCall
        refine toolCall_calls fun toolId toolInput named given => keeps toolId toolInput ?_
        unfold calledTool
        dsimp only
        rw [parsed]
        dsimp only
        rw [if_pos toolCall, named, given]
      · exact fail_calls _

theorem invoke_calls :
    (invoke host input l).wp (callProtocol host input.allow) (NextDispatched input.allow) () := by
  refine ⟨trivial, fun reply expected => ?_⟩
  cases reply with
  | threw =>
    intro block pending runtime blocked
    cases blocked
  | failed error => exact fail_calls error
  | ok content => exact answer_calls (expected content rfl)

theorem turn_calls :
    (turn host input l).wp (callProtocol host input.allow) (NextDispatched input.allow) () := by
  let next : Loop := { l with state := { l.state with turns := l.state.turns + 1 } }
  unfold turn
  split
  · refine ⟨trivial, fun reply _ => ?_⟩
    cases reply with
    | true =>
      show (invoke host input next).wp _ _ _
      exact invoke_calls
    | false =>
      show (failReturning host input next _ >>= _).wp _ _ _
      exact Program.wp_seq (failReturning_calls _) fun outcome _ dispatched => dispatched
  · show (invoke host input next).wp _ _ _
    exact invoke_calls

theorem turns_call (left : Nat) :
    (turns host input left l).wp (callProtocol host input.allow)
      (fun outcome _ => OutcomeDispatched input.allow outcome) () := by
  induction left generalizing l with
  | zero =>
    refine ⟨trivial, fun reply _ => ?_⟩
    cases reply with
    | true => exact failReturning_calls _
    | false => exact failReturning_calls _
  | succ left ih =>
    refine ⟨trivial, fun reply _ => ?_⟩
    cases reply with
    | true => exact failReturning_calls _
    | false =>
      show (turn host input l >>= _).wp _ _ _
      refine Program.wp_seq turn_calls fun next g' dispatched => ?_
      cases next with
      | inl l' => exact ih
      | inr outcome => exact dispatched

theorem start_calls :
    (start host input l).wp (callProtocol host input.allow)
      (fun outcome _ => OutcomeDispatched input.allow outcome) () := by
  refine ⟨trivial, fun reply _ => ?_⟩
  cases reply with
  | found => exact turns_call _
  | _ =>
    intro block pending runtime blocked
    cases blocked

theorem resume_calls (pending : PendingToolCall) (pendingRemote : Json) :
    (resume host input l pending pendingRemote).wp (callProtocol host input.allow)
      (fun _ _ => True) () := by
  refine ⟨trivial, fun _ _ => ?_⟩
  show (persistState host input _ true).wp _ _ _
  exact persistState_calls _ true fun _ => trivial

theorem runAgentLoop_calls :
    (runAgentLoop host input).wp (callProtocol host input.allow)
      (fun outcome _ => OutcomeDispatched input.allow outcome) () := by
  unfold runAgentLoop
  dsimp only
  split
  · split
    · split
      · intro block pending runtime blocked
        cases blocked
      · rename_i pending _
        exact Program.wp_seq (resume_calls pending _) fun l' g' _ => start_calls
    · exact start_calls
  · exact start_calls

end loop

/-! ### Tools -/

theorem lookup_merge_kept (base overrides : List (String × Json)) {key : String} {value : Json}
    (kept : ∀ other, (key, other) ∈ overrides → other = value)
    (present : base.lookup key = some value) :
    (OrderedMap.merge base overrides).lookup key = some value := by
  induction overrides generalizing base with
  | nil => exact present
  | cons entry rest ih =>
    obtain ⟨name, other⟩ := entry
    rw [OrderedMap.merge, List.foldl_cons, ← OrderedMap.merge]
    refine ih _ (fun other mem => kept other (List.mem_cons_of_mem _ mem)) ?_
    rw [OrderedMap.lookup_set]
    split
    · rename_i same
      subst same
      rw [kept other List.mem_cons_self]
    · exact present

/-- What the tool for connector actions was resolved from. -/
theorem resolve_connectorAction {toolId : String} {base : List (String × Json)}
    (resolved : resolveAgentTool toolId = some (.connectorAction, base)) :
    toolId = "connector.action" ∨ ∃ connectorId actionId,
      parseConnectorToolId toolId = some (connectorId, actionId) ∧
        base = [("connectorId", .str connectorId), ("actionId", .str actionId)] := by
  unfold resolveAgentTool at resolved
  split at resolved
  · cases resolved
  · split at resolved
    · cases resolved
    · split at resolved
      · cases resolved
      · split at resolved
        · rename_i connectorId actionId parsed
          cases resolved
          exact .inr ⟨connectorId, actionId, parsed, rfl⟩
        · obtain ⟨tool, found, same⟩ := Option.map_eq_some_iff.mp resolved
          cases same
          have named := List.find?_some found
          exact .inl (of_decide_eq_true named).symm

section tools
variable {host : Host} {allow : List String}

theorem parseConnectorArgs_ids {args : List (String × Json)} {parsed : ConnectorArgs}
    (accepted : parseConnectorArgs host args = some parsed) :
    args.lookup "connectorId" = some (.str parsed.connectorId) ∧
      args.lookup "actionId" = some (.str parsed.actionId) := by
  unfold parseConnectorArgs at accepted
  split at accepted
  · rename_i connectorId actionId secretId selector connector action _ _
    split at accepted
    · cases accepted
    · cases accepted
      exact ⟨connector, action⟩
  · cases accepted

/-- The action of arguments that keep to the alias they are given under. -/
theorem parsed_named {toolId : String} {base toolInput : List (String × Json)}
    {parsed : ConnectorArgs} (listed : toolId ∈ allow)
    (resolved : resolveAgentTool toolId = some (.connectorAction, base))
    (keeps : KeepsToAlias toolId toolInput)
    (accepted : parseConnectorArgs host (OrderedMap.merge base toolInput) = some parsed) :
    NamedBy allow toolId parsed.connectorId parsed.actionId := by
  rcases resolve_connectorAction resolved with direct | ⟨connectorId, actionId, alias', rfl⟩
  · exact .inr ⟨direct, listed⟩
  · obtain ⟨ownConnector, ownAction⟩ := keeps connectorId actionId alias'
    obtain ⟨connector, action⟩ := parseConnectorArgs_ids accepted
    rw [lookup_merge_kept _ _ ownConnector rfl] at connector
    rw [lookup_merge_kept _ _ ownAction rfl] at action
    cases connector
    cases action
    exact .inl ⟨toolId, listed, alias'⟩

end tools

/-! ### The agent and its team -/

def teammateAllow (config : TeamConfig) (teammateId : String) : List String :=
  match config.team.bind fun team => team.teammates.find? (·.id = teammateId) with
  | some teammate => intersectAllowlist config.policyToolAllow teammate.allow
  | none => []

/-- The list that bounds a loop of the agent's run. -/
def allowAt (input : AgentLoopInput) (team : Option TeamConfig) : Option AgentTeamMeta → List String
  | none => input.allow
  | some level => match team with
    | some config => teammateAllow config level.teammateId
    | none => []

/-- The loop an operation is from and the tool it is asked for through. -/
def ToolOp.caller : ToolOp → Option (Option AgentTeamMeta × String)
  | loop team (.call toolId _ _) => some (team, toolId)
  | execute ctx _ _ _ _ => some (ctx.team, ctx.toolId)
  | memory ctx _ _ => some (ctx.team, ctx.toolId)
  | _ => none

/-- Operations are asked for through listed tools, and the actions executed are on the list. -/
def toolProtocol (host : Host) (allowed : Option AgentTeamMeta → List String) :
    Protocol ToolI Unit where
  permits _ op := (∀ level toolId, op.caller = some (level, toolId) → toolId ∈ allowed level) ∧
    match op with
    | .execute ctx connectorId actionId _ _ =>
      NamedBy (allowed ctx.team) ctx.toolId connectorId actionId
    | _ => True
  expects op := match op with
    | .loop _ (.llmInvoke maxOutputChars) => fun reply => AnswerKeeps host maxOutputChars reply
    | _ => fun _ => True
  observe g _ _ := g

/-- A block that a tool replies with dispatches what is on the list. -/
def ReplyDispatched (allow : List String) (toolId : String) (reply : ToolReply) (_ : Unit) : Prop :=
  ∀ block, reply = .blocked block → Dispatched allow toolId block

/-- A tool does only what the list of its loop allows. -/
def Executes (host : Host) (allowed : Option AgentTeamMeta → List String)
    (team : Option AgentTeamMeta)
    (execute : ToolContext → AgentTool → List (String × Json) → Program ToolI ToolReply) : Prop :=
  ∀ ctx tool base toolInput, ctx.team = team → ctx.toolId ∈ allowed team →
    resolveAgentTool ctx.toolId = some (tool, base) → KeepsToAlias ctx.toolId toolInput →
      (execute ctx tool (OrderedMap.merge base toolInput)).wp (toolProtocol host allowed)
        (ReplyDispatched (allowed team) ctx.toolId) ()

section team
variable {host : Host} {allowed : Option AgentTeamMeta → List String}

/-- A reply that is no block dispatches nothing. -/
theorem reply_dispatched {allow : List String} {toolId : String} {reply : ToolReply}
    (free : ∀ block, reply ≠ .blocked block) : ReplyDispatched allow toolId reply () :=
  fun block blocked => absurd blocked (free block)

theorem failed_dispatched {allow : List String} (toolId error : String) (output : Json) :
    ReplyDispatched allow toolId (.failed error output) () := reply_dispatched fun _ => nofun

theorem threw_dispatched {allow : List String} (toolId : String) :
    ReplyDispatched allow toolId .threw () := reply_dispatched fun _ => nofun

theorem performAction_executes {ctx : ToolContext} {parsed : ConnectorArgs} (actionInput : Json)
    (secret : Option String) (listed : ctx.toolId ∈ allowed ctx.team)
    (named : NamedBy (allowed ctx.team) ctx.toolId parsed.connectorId parsed.actionId) :
    (performAction ctx parsed actionInput secret).wp (toolProtocol host allowed)
      (ReplyDispatched (allowed ctx.team) ctx.toolId) () := by
  unfold performAction
  split
  · intro block blocked
    cases blocked
    exact fun _ => ⟨parsed.connectorId, parsed.actionId, actionInput, rfl, named⟩
  · refine ⟨⟨fun level toolId called => ?_, named⟩, fun reply _ => ?_⟩
    · cases called
      exact listed
    · cases reply with
      | blocked block => exact threw_dispatched _
      | _ => exact reply_dispatched fun _ => nofun

theorem connectorActionExecute_executes {ctx : ToolContext} {base toolInput : List (String × Json)}
    (listed : ctx.toolId ∈ allowed ctx.team)
    (resolved : resolveAgentTool ctx.toolId = some (.connectorAction, base))
    (keeps : KeepsToAlias ctx.toolId toolInput) :
    (connectorActionExecute host ctx (OrderedMap.merge base toolInput)).wp
      (toolProtocol host allowed) (ReplyDispatched (allowed ctx.team) ctx.toolId) () := by
  unfold connectorActionExecute
  split
  · exact failed_dispatched _ _ _
  · rename_i parsed accepted
    have named := parsed_named listed resolved keeps accepted
    split
    · exact failed_dispatched _ _ _
    · split
      · exact failed_dispatched _ _ _
      · rename_i actionInput _
        split
        · split
          · exact failed_dispatched _ _ _
          · refine ⟨⟨fun level toolId called => (by cases called), trivial⟩, fun reply _ => ?_⟩
            cases reply with
            | none => exact threw_dispatched _
            | some secret => exact performAction_executes actionInput (some secret) listed named
        · exact performAction_executes actionInput none listed named

theorem memoryExecute_executes {ctx : ToolContext} (tool : AgentTool) (args : List (String × Json))
    (listed : ctx.toolId ∈ allowed ctx.team) :
    (memoryExecute ctx tool args).wp (toolProtocol host allowed)
      (ReplyDispatched (allowed ctx.team) ctx.toolId) () := by
  unfold memoryExecute
  split
  · exact failed_dispatched _ _ _
  · split
    · refine ⟨⟨fun level toolId called => ?_, trivial⟩, fun reply _ => ?_⟩
      · cases called
        exact listed
      · cases reply with
        | blocked block => exact threw_dispatched _
        | _ => exact reply_dispatched fun _ => nofun
    · exact failed_dispatched _ _ _

/-- A shell script is dispatched to an executor, and is no connector action. -/
theorem shellRunExecute_executes (ctx : ToolContext) (args : List (String × Json))
    (allow : List String) :
    ReplyDispatched allow ctx.toolId (shellRunExecute host ctx args) () := by
  unfold shellRunExecute
  split
  · exact failed_dispatched _ _ _
  · split
    · exact failed_dispatched _ _ _
    · intro block blocked
      cases blocked
      exact nofun

theorem executeAlone_executes (team : Option AgentTeamMeta) :
    Executes host allowed team (executeAlone host) := by
  intro ctx tool base toolInput level listed resolved keeps
  subst level
  cases tool with
  | connectorAction => exact connectorActionExecute_executes listed resolved keeps
  | shellRun => exact shellRunExecute_executes ctx _ _
  | memorySearch => exact memoryExecute_executes _ _ listed
  | memoryGet => exact memoryExecute_executes _ _ listed
  | teamDelegate =>
    show (if _ then _ else _ : Program ToolI ToolReply).wp _ _ _
    split
    · exact failed_dispatched _ _ _
    · exact failed_dispatched _ _ _
  | teamMap =>
    show (if _ then _ else _ : Program ToolI ToolReply).wp _ _ _
    split
    · exact failed_dispatched _ _ _
    · exact failed_dispatched _ _ _

/-- The operations of a loop, carried out with its tools. -/
theorem withTools_executes {input : AgentLoopInput} {team : Option AgentTeamMeta} (memory : Bool)
    {execute : ToolContext → AgentTool → List (String × Json) → Program ToolI ToolReply}
    (same : allowed team = input.allow) (executes : Executes host allowed team execute)
    {op : LoopOp} (permitted : (callProtocol host input.allow).permits () op) :
    (withTools team (toolContext input team memory) execute op).wp (toolProtocol host allowed)
      (fun reply _ => (callProtocol host input.allow).expects op reply) () := by
  cases op with
  | call toolId callIndex summary =>
    refine ⟨⟨fun level id called => ?_, trivial⟩, fun _ _ => trivial⟩
    cases called
    rw [same]
    exact permitted
  | llmInvoke maxOutputChars =>
    exact ⟨⟨fun level id called => (by cases called), trivial⟩, fun reply expected => expected⟩
  | execute tool toolId callIndex args =>
    obtain ⟨base, toolInput, listed, resolved, rfl, keeps⟩ := permitted
    rw [← same] at listed ⊢
    exact executes (toolContext input team memory toolId callIndex) tool base toolInput rfl listed
      resolved keeps
  | _ => exact ⟨⟨fun level id called => (by cases called), trivial⟩, fun _ _ => trivial⟩

theorem loop_executes {input : AgentLoopInput} {team : Option AgentTeamMeta} (memory : Bool)
    {execute : ToolContext → AgentTool → List (String × Json) → Program ToolI ToolReply}
    (same : allowed team = input.allow) (executes : Executes host allowed team execute) :
    ((runAgentLoop host input).interpret
      (withTools team (toolContext input team memory) execute)).wp (toolProtocol host allowed)
      (fun outcome _ => OutcomeDispatched input.allow outcome) () := by
  refine Program.wp_mono ?_ (Program.wp_interpret (fun _ _ => True) ?_ trivial runAgentLoop_calls)
  · rintro outcome h ⟨g, -, dispatched⟩
    exact dispatched
  · intro g h op _ permitted
    exact Program.wp_mono (fun reply h' expected => ⟨expected, trivial⟩)
      (withTools_executes memory same executes permitted)

theorem intersectAllowlist_subset {parent teammate : List String} {toolId : String}
    (listed : toolId ∈ intersectAllowlist parent teammate) :
    toolId ∈ teammate ∧ toolId ∈ parent ∧ toolId ≠ "team.delegate" ∧ toolId ≠ "team.map" := by
  obtain ⟨own, rest⟩ := List.mem_filter.mp listed
  simp only [Bool.and_eq_true, List.contains_eq_mem, decide_eq_true_eq, Bool.not_eq_true',
    decide_eq_false_iff_not, List.mem_cons, List.not_mem_nil, or_false, not_or] at rest
  exact ⟨own, rest.1, rest.2.1, rest.2.2⟩

/-- A tool whose replies never block dispatches nothing. -/
def Unblocked (reply : ToolReply) (_ : Unit) : Prop := ∀ block, reply ≠ .blocked block

theorem delegateReply_unblocked (teammate : TeammateConfig) (outcome : Outcome) :
    Unblocked (delegateReply teammate outcome) () := by
  intro block blocked
  cases outcome <;> cases blocked

theorem runDelegate_executes {config : TeamConfig}
    (bounded : ∀ level : AgentTeamMeta,
      allowed (some level) = teammateAllow config level.teammateId)
    (ctx : ToolContext) (args : DelegateArgs) :
    (runDelegate host config ctx args).wp (toolProtocol host allowed) Unblocked () := by
  unfold runDelegate
  split
  · exact fun _ => nofun
  · rename_i team configured
    split
    · exact fun _ => nofun
    · rename_i teammate found
      have named := List.find?_some found
      have same : teammate.id = args.teammateId := of_decide_eq_true named
      have list : allowed (some ⟨teammate.id, config.nodeId, ctx.callIndex⟩) =
          (teammateInput config teammate).allow := by
        rw [bounded, teammateAllow, configured, Option.bind_some, same, found]
        rfl
      refine Program.wp_seq (loop_executes false list (executeAlone_executes _)) ?_
      intro outcome g' _
      exact delegateReply_unblocked teammate outcome

/-- Tasks that do what is permitted, whatever they reply. -/
theorem runWithConcurrency_executes {run : DelegateArgs → Program ToolI ToolReply}
    (runs : ∀ task, (run task).wp (toolProtocol host allowed) Unblocked ()) (workers : Nat)
    (tasks : List DelegateArgs) :
    (runWithConcurrency run workers tasks).wp (toolProtocol host allowed) (fun _ _ => True) () := by
  induction tasks generalizing workers with
  | nil =>
    rw [runWithConcurrency.eq_def]
    trivial
  | cons task rest ih =>
    cases workers with
    | zero => trivial
    | succ workers =>
      rw [runWithConcurrency]
      refine Program.wp_seq (runs task) fun reply g' _ => ?_
      cases reply with
      | threw => exact Program.wp_seq (ih workers) fun _ _ _ => trivial
      | _ => exact Program.wp_seq (ih (workers + 1)) fun _ _ _ => trivial

theorem teamMapExecute_executes {config : TeamConfig}
    (bounded : ∀ level : AgentTeamMeta,
      allowed (some level) = teammateAllow config level.teammateId)
    (ctx : ToolContext) (args : List (String × Json)) :
    (teamMapExecute host config ctx args).wp (toolProtocol host allowed) Unblocked () := by
  unfold teamMapExecute
  split
  · exact fun _ => nofun
  · exact fun _ => nofun
  · refine Program.wp_seq (runWithConcurrency_executes (runDelegate_executes bounded ctx) _ _) ?_
    rintro ⟨threw, outputs⟩ g' _ block
    cases threw <;> exact nofun

theorem executeTool_executes {team : Option TeamConfig}
    (bounded : ∀ config, team = some config → ∀ level : AgentTeamMeta,
      allowed (some level) = teammateAllow config level.teammateId) :
    Executes host allowed none (executeTool host team) := by
  have alone : Executes host allowed none (executeAlone host) := executeAlone_executes none
  intro ctx tool base toolInput level listed resolved keeps
  have other := alone ctx tool base toolInput level listed resolved keeps
  cases team with
  | none => exact other
  | some config =>
    have bounded := bounded config rfl
    cases tool with
    | teamDelegate =>
      unfold executeTool
      dsimp only
      split
      · exact failed_dispatched _ _ _
      · exact Program.wp_mono (fun reply _ free => reply_dispatched free)
          (runDelegate_executes bounded ctx _)
    | teamMap =>
      exact Program.wp_mono (fun reply _ free => reply_dispatched free)
        (teamMapExecute_executes bounded ctx _)
    | _ => exact other

end team

/-! ### The bound -/

/-- What an agent did is within its allowlist. -/
structure WithinAllowlist (input : AgentLoopInput) (team : Option TeamConfig)
    (trace : List (Event ToolI)) (outcome : Outcome) : Prop where
  /-- Tools are used under ids on the list of the loop that uses them. -/
  used : ∀ event ∈ trace, ∀ level toolId, event.op.caller = some (level, toolId) →
    toolId ∈ allowAt input team level
  executed : ∀ event ∈ trace, ∀ ctx connectorId actionId actionInput secret,
    event.op = .execute ctx connectorId actionId actionInput secret →
      NamedBy (allowAt input team ctx.team) ctx.toolId connectorId actionId
  dispatched : OutcomeDispatched input.allow outcome
  /-- A teammate uses what is on its own list and on that of its parent, and no team tools. -/
  teammates : ∀ event ∈ trace, ∀ level toolId, event.op.caller = some (some level, toolId) →
    ∃ config members teammate, team = some config ∧ config.team = some members ∧
      teammate ∈ members.teammates ∧ teammate.id = level.teammateId ∧ toolId ∈ teammate.allow ∧
      toolId ∈ config.policyToolAllow ∧ toolId ≠ "team.delegate" ∧ toolId ≠ "team.map"

/-- The model's answers in a run keep to the aliases they call. -/
def AnswersKeep (host : Host) (trace : List (Event ToolI)) : Prop :=
  ∀ event ∈ trace, (toolProtocol host fun _ => []).expects event.op event.reply

theorem teammateAllow_cases {config : TeamConfig} {teammateId toolId : String}
    (listed : toolId ∈ teammateAllow config teammateId) :
    ∃ members teammate, config.team = some members ∧ teammate ∈ members.teammates ∧
      teammate.id = teammateId ∧
      toolId ∈ intersectAllowlist config.policyToolAllow teammate.allow := by
  unfold teammateAllow at listed
  split at listed
  · rename_i teammate found
    obtain ⟨members, configured, found⟩ := Option.bind_eq_some_iff.mp found
    have named := List.find?_some found
    exact ⟨members, teammate, configured, List.mem_of_find?_eq_some found, of_decide_eq_true named,
      listed⟩
  · cases listed

/-- Operations that are permitted where they are issued are permitted at all. -/
theorem permitted_op {host : Host} {allowed : Option AgentTeamMeta → List String}
    {trace : List (Event ToolI)} (permitted : (toolProtocol host allowed).Permitted () trace)
    {event : Event ToolI} (mem : event ∈ trace) :
    (toolProtocol host allowed).permits () event.op := by
  induction trace with
  | nil => cases mem
  | cons head rest ih =>
    rcases List.mem_cons.mp mem with rfl | mem
    · exact permitted.1
    · exact ih permitted.2 mem

/-- While the model's answers keep to the aliases they call, the allowlist bounds the agent. -/
theorem allowlist_bounds {host : Host} {input : AgentLoopInput} {team : Option TeamConfig}
    {memory : Bool} {trace : List (Event ToolI)} {outcome : Outcome}
    (run : (runAgent host input team memory).Runs trace outcome) (keeps : AnswersKeep host trace) :
    WithinAllowlist input team trace outcome := by
  have executes : Executes host (allowAt input team) none (executeTool host team) := by
    refine executeTool_executes fun config configured level => ?_
    subst configured
    rfl
  obtain ⟨permitted, dispatched⟩ := run.follows (loop_executes memory rfl executes) keeps
  exact {
    used := fun event mem => (permitted_op permitted mem).1
    executed := by
      intro event mem ctx connectorId actionId actionInput secret here
      have allowed := (permitted_op permitted mem).2
      rw [here] at allowed
      exact allowed
    dispatched
    teammates := by
      intro event mem level toolId called
      have listed := (permitted_op permitted mem).1 _ _ called
      cases team with
      | none => cases listed
      | some config =>
        obtain ⟨members, teammate, configured, member, named, listed⟩ := teammateAllow_cases listed
        exact ⟨config, members, teammate, rfl, configured, member, named,
          intersectAllowlist_subset listed⟩ }

/-! ### An alias and another action -/

/-- The tool call the model answers with. -/
def callingHost (toolId : String) (toolInput : List (String × Json)) : Host where
  stringify _ := ""
  parse _ := some (.obj [("type", .str "tool_call"), ("toolId", .str toolId),
    ("input", .obj toolInput)])
  slice text _ := text
  asText _ := ""
  isUuid _ := true
  validates _ _ := some true

theorem calledTool_callingHost {toolId called : String} {toolInput input : List (String × Json)}
    {maxOutputChars : Nat} {content : String}
    (calls : calledTool (callingHost toolId toolInput) maxOutputChars content =
      some (called, input)) : input = toolInput := by
  unfold calledTool at calls
  dsimp only at calls
  split at calls
  · rename_i type fields parsed
    obtain ⟨candidate, -, found⟩ := List.exists_of_findSome?_eq_some parsed
    have same : ("tool_call", _) = (type, fields) := Option.some.inj found
    cases same
    cases calls
    rfl
  · cases calls

def issueInput : List (String × Json) :=
  [("input", .obj [("repo", .str "org/repo"), ("title", .str "title")]),
    ("auth", .obj [("secretId", .str "secret")])]

/-- An input with a connector and an action of its own. -/
def otherAction : List (String × Json) :=
  ("connectorId", .str "github") :: ("actionId", .str "issue.create") :: issueInput

def connectorAgent (allow : List String) : AgentLoopInput where
  nodeId := "agent"
  organizationSettings := .null
  runtime := ⟨[], none⟩
  pendingRemoteResult := none
  allow
  execution := .cloud
  connectorSecrets := []
  limits := ⟨1, 1, 100, 100⟩
  output := ⟨false, none⟩
  usesManagedCredits := false
  persistNodeId := none
  allowRemoteBlocked := true

def agentReply : (op : ToolOp) → op.Reply
  | .loop _ .expired => false
  | .loop _ .llmAuth => .found
  | .loop _ (.ensureAvailable _) => true
  | .loop _ (.llmInvoke _) => .ok "call"
  | .loop _ (.call _ _ _) | .loop _ (.result _ _ _) | .loop _ (.persist _ _ _)
  | .loop _ (.cached _) => ()
  | .loop _ (.execute _ _ _ _) => .threw
  | .loadSecretValue _ => some "token"
  | .execute _ _ _ _ _ | .memory _ _ _ => .succeeded .null

def callingRun (toolId : String) (toolInput : List (String × Json)) : Program ToolI Outcome :=
  runAgent (callingHost toolId toolInput) (connectorAgent [toolId]) none false

/-- An agent with no list but a Slack alias creates a GitHub issue. -/
theorem alias_executes_other_action :
    ¬ ∀ (host : Host) (input : AgentLoopInput) (team : Option TeamConfig) (memory : Bool)
      (trace : List (Event ToolI)) (outcome : Outcome),
      (runAgent host input team memory).Runs trace outcome →
        WithinAllowlist input team trace outcome := by
  intro bounds
  have run := Program.runs_with (I := ToolI) agentReply
    (callingRun "connector.slack.message.post" otherAction)
  have within := bounds _ _ _ _ _ _ run
  have executed : ∃ event ∈ (callingRun "connector.slack.message.post" otherAction).traceWith
      (I := ToolI) agentReply, ∃ ctx actionInput secret,
        event.op = .execute ctx "github" "issue.create" actionInput secret ∧ ctx.team = none ∧
          ctx.toolId = "connector.slack.message.post" :=
    ⟨_, List.mem_of_getElem? (i := 5) rfl, _, _, _, rfl, rfl, rfl⟩
  obtain ⟨event, mem, ctx, actionInput, secret, here, level, toolId⟩ := executed
  have named := within.executed event mem ctx _ _ _ _ here
  rw [level, toolId] at named
  rcases named with ⟨listed, mem, parsed⟩ | ⟨direct, -⟩
  · cases List.mem_singleton.mp mem
    exact absurd parsed (by decide)
  · exact absurd direct (by decide)

/-- The list holds of a run in which the model only gives the input of the action. -/
theorem allowlist_bounds_issue :
    WithinAllowlist (connectorAgent ["connector.github.issue.create"]) none
      ((callingRun "connector.github.issue.create" issueInput).traceWith (I := ToolI) agentReply)
      ((callingRun "connector.github.issue.create" issueInput).valueWith (I := ToolI)
        agentReply) := by
  refine allowlist_bounds (Program.runs_with (I := ToolI) agentReply
    (callingRun "connector.github.issue.create" issueInput)) fun event mem => ?_
  rw [Program.eq_of_mem_traceWith mem]
  generalize event.op = op
  match op with
  | .loop _ (.llmInvoke _) =>
    intro content _ toolId toolInput called
    cases calledTool_callingHost called
    intro connectorId actionId _
    simp [issueInput]
  | .loop _ (.expired) | .loop _ .llmAuth | .loop _ (.ensureAvailable _) | .loop _ (.call _ _ _)
  | .loop _ (.result _ _ _) | .loop _ (.persist _ _ _) | .loop _ (.cached _)
  | .loop _ (.execute _ _ _ _) | .loadSecretValue _ | .execute _ _ _ _ _ | .memory _ _ _ => trivial

end Vespid.AgentRuntime
