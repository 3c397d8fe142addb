import Vespid.Lib.Exclusive
import Vespid.Lib.Protocol
import Vespid.NodeAgent.Listener

/-!
# One answer for each message

An executor answers what its schemas accept with one final message that the edge takes, unless
an engine throws in a turn or an error has no text where the answer is to carry it.
-/

namespace Vespid.NodeAgent.Listener

open Interleaving
open AgentRuntime (ToolStatus)
open AgentRun hiding Allows runToolCalls attemptCall attempt

/-! ### What the edge takes -/

/-- The schemas of `wireExecutorSocket`. -/
def edgeAccepts : Answer → Bool
  | .toolResult requestId _ error => requestId ≠ "" && error.all (· ≠ "")
  | .sessionOpened requestId sessionId | .turnFinal requestId sessionId _
  | .memorySyncResult requestId sessionId _ => requestId ≠ "" && Workflow.isUuid sessionId
  | .turnError requestId sessionId code message =>
    requestId ≠ "" && Workflow.isUuid sessionId && code ≠ "" && message ≠ ""
  | .memoryQueryResult requestId sessionId _ error =>
    requestId ≠ "" && Workflow.isUuid sessionId && error.all (· ≠ "")

/-- The answers of a message are of its type and carry its request. -/
def IsAnswer : Incoming → Answer → Prop
  | .invokeTool message, .toolResult requestId _ _ => requestId = message.requestId
  | .sessionOpen message, .sessionOpened requestId _
  | .sessionOpen message, .turnError requestId _ _ _ => requestId = message.requestId
  | .sessionTurn message, .turnFinal requestId _ _
  | .sessionTurn message, .turnError requestId _ _ _ => requestId = message.requestId
  | .memorySync message, .memorySyncResult requestId _ _ => requestId = message.requestId
  | .memoryQuery message, .memoryQueryResult requestId _ _ _ => requestId = message.requestId
  | _, _ => False

/-- A message that is to be answered. -/
def Incoming.isCommand : Incoming → Bool
  | sessionCancel _ | other => false
  | _ => true

/-! ### What a handler knows -/

inductive Phase where
  | idle
  /-- the turn of a context is active -/
  | holding (context : Nat)
  | answered (answer : Answer)

/-- `blank` is for a shell task that has failed with an empty text, and `doomed` for a failure
that no accepted answer follows. -/
structure Stage where
  number : Nat
  message : Incoming
  phase : Phase
  blank : Bool
  doomed : Bool

variable (env : AgentEnv)

/-- A call of `agent.execute` with a task. -/
def hasTask (incoming : Schema.InvokeToolV2) : Bool :=
  incoming.kind = .agentExecute &&
    ((agentExecutePayloadSchema env.host incoming.payload).bind (·.task)).isSome

/-- An engine that throws in a turn, or an error whose empty text would be the answer's. -/
def fatal (blank : Bool) : (op : ListenerOp) → op.Reply → Bool
  | .runLlmInference input, .error _ => input.signal.isSome
  | .runCliCommand input _, .error _ => input.signal.isSome
  | .mkdir _, .error thrown => thrown.message = some ""
  | .search .., .error thrown => thrown.message = some ""
  | .snapshotAndUploadWorkspace incoming, .error thrown =>
    hasTask env incoming && thrown.message = some ""
  | .snapshotAndUploadWorkspace incoming, .ok _ => hasTask env incoming && blank
  | _, _ => false

namespace Stage

def start (l : Received) : Stage where
  number := l.number
  message := l.message
  phase := .idle
  blank := false
  doomed := false

def nextPhase (phase : Phase) : (op : ListenerOp) → op.Reply → Phase
  | .beginTurn _, .ok started => .holding started.context
  | .endTurn .., _ => .idle
  | .send _ answer, _ => .answered answer
  | _, _ => phase

def nextBlank (blank : Bool) : (op : ListenerOp) → op.Reply → Bool
  | .executeShellTask .., .ok (.failed error _) => error = ""
  | .executeShellTask .., _ => false
  | _, _ => blank

def observe (g : Stage) (op : ListenerOp) (reply : op.Reply) : Stage where
  number := g.number
  message := g.message
  phase := nextPhase g.phase op reply
  blank := nextBlank g.blank op reply
  doomed := g.doomed || fatal env g.blank op reply

/-- A message is answered once, by its own turn if it is a turn, after the turn has ended. -/
def permits (g : Stage) : ListenerOp → Prop
  | .send number answer => number = g.number ∧ g.phase = .idle ∧ IsAnswer g.message answer ∧
      (g.doomed = false → edgeAccepts answer = true)
  | .beginTurn message => g.message = .sessionTurn message ∧ g.phase = .idle
  | .endTurn context requestId _ => g.phase = .holding context ∧
      ∃ message, g.message = .sessionTurn message ∧ requestId = message.requestId
  | _ => True

end Stage

/-- Code and message are there. -/
def Told (failure : TurnFailure) : Prop := failure.code ≠ "" ∧ failure.message ≠ ""

/-- A turn that does not begin says why. -/
def repliesTo : (op : ListenerOp) → op.Reply → Prop
  | .beginTurn _, .error failure => Told failure
  | _, _ => True

def answerProtocol : Protocol ListenerOps Stage where
  permits := Stage.permits
  expects := repliesTo
  observe := Stage.observe env

/-- What a step that is no turn's and sends nothing keeps. -/
structure Kept (g g' : Stage) : Prop where
  number : g'.number = g.number
  message : g'.message = g.message
  phase : g'.phase = g.phase
  doomed : g.doomed = true → g'.doomed = true

theorem Kept.refl (g : Stage) : Kept g g := ⟨rfl, rfl, rfl, id⟩

theorem Kept.trans {g g' g'' : Stage} (first : Kept g g') (rest : Kept g' g'') : Kept g g'' where
  number := rest.number.trans first.number
  message := rest.message.trans first.message
  phase := rest.phase.trans first.phase
  doomed is := rest.doomed (first.doomed is)

/-! ### Texts -/

theorem LlmProvider.name_append_ne (provider : LlmProvider) (text : String) :
    provider.name ++ text ≠ "" := by
  intro empty
  have none_ := (String.append_eq_empty_iff.mp empty).1
  cases provider <;> exact absurd none_ (by decide)

theorem LlmError.text_ne (error : LlmError) : error.text ≠ "" := by
  cases error with
  | requestFailed provider status =>
    rw [LlmError.text, String.append_assoc]
    exact provider.name_append_ne _
  | responseInvalid provider => exact provider.name_append_ne _
  | responseEmpty provider => exact provider.name_append_ne _
  | unavailable provider => exact provider.name_append_ne _
  | timeout => decide

theorem ActionError.text_ne (error : ActionError) : error.text ≠ "" := by
  cases error with
  | requestFailed status =>
    intro empty
    exact absurd (String.append_eq_empty_iff.mp empty).1 (by decide)
  | _ => decide

theorem Thrown.message_of_text {thrown : Thrown} {fallback : String} (text : fallback ≠ "")
    (empty : thrown.text fallback = "") : thrown.message = some "" := by
  unfold Thrown.text at empty
  cases is : thrown.message with
  | none =>
    rw [is] at empty
    exact absurd empty text
  | some message =>
    rw [is] at empty
    rw [show message = "" from empty]

theorem told_of {code message : String} (named : code ≠ "") (text : message ≠ "") :
    Told { code, message } := ⟨named, text⟩

theorem cliFailed_told (lastStderr : String) : Told (cliFailed lastStderr) := by
  refine ⟨by show "EXECUTOR_CLI_FAILED" ≠ ""; decide, ?_⟩
  unfold cliFailed
  split
  · decide
  · assumption

theorem runTurn_told {node : NodeSessions} {turn : NodeAgent.SessionTurn} {failure : TurnFailure}
    (failed : NodeAgent.runTurn node turn = .error failure) : Told failure := by
  unfold NodeAgent.runTurn at failed
  split at failed
  · cases failed
    exact ⟨by decide, by decide⟩
  · split at failed
    · cases failed
      exact ⟨by decide, by decide⟩
    · unfold NodeAgent.beginTurn at failed
      split at failed
      · cases failed
        exact ⟨by decide, by decide⟩
      · split at failed
        · cases failed
          exact ⟨by decide, by decide⟩
        · cases failed

/-! ### Engines -/

section follows
variable {env} {g : Stage}

theorem kept_observe (op : ListenerOp) (reply : op.Reply)
    (still : Stage.nextPhase g.phase op reply = g.phase) : Kept g (g.observe env op reply) where
  number := rfl
  message := rfl
  phase := still
  doomed is := by
    show (g.doomed || fatal env g.blank op reply) = true
    rw [is]
    rfl

/-- What an engine leaves: errors have texts, and it dooms a turn that it throws in. -/
theorem runAttempts_follows (input : EngineInput) (attempts : List (List String))
    (lastStderr : String) :
    (runAttempts env input attempts lastStderr).wp (answerProtocol env)
      (fun result g' => Kept g g' ∧ ∀ failure, result = .error failure → Told failure)
      (fun _ g' => Kept g g' ∧ (input.signal.isSome = true → g'.doomed = true)) g := by
  induction attempts generalizing g lastStderr with
  | nil =>
    refine Throwing.wp_pure ⟨.refl g, fun failure is => ?_⟩
    cases is
    exact cliFailed_told lastStderr
  | cons args rest ih =>
    refine Throwing.wp_bind (Q := fun _ g' => Kept g g') ⟨trivial, fun reply _ => ?_⟩
      fun result g' kept => ?_
    · have kept : Kept g (g.observe env (.runCliCommand input args) reply) :=
        kept_observe (.runCliCommand input args) reply rfl
      cases reply with
      | ok result => exact kept
      | error thrown =>
        refine ⟨kept, fun signal => ?_⟩
        show (g.doomed || input.signal.isSome) = true
        rw [signal, Bool.or_true]
    · split
      · refine Throwing.wp_pure ⟨kept, fun failure is => ?_⟩
        cases is
        exact ⟨by decide, by decide⟩
      · split
        · refine Throwing.wp_pure ⟨kept, fun failure is => ?_⟩
          cases is
          refine told_of (by decide) fun empty => ?_
          exact absurd (String.append_eq_empty_iff.mp empty).1 (by decide)
        · split
          · refine Throwing.wp_pure ⟨kept, fun failure is => ?_⟩
            cases is
          · exact Throwing.wp_mono (fun _ _ held => ⟨kept.trans held.1, held.2⟩)
              (fun _ _ held => ⟨kept.trans held.1, held.2⟩) (ih result.stderr)

theorem executeEnginePrompt_follows (input : EngineInput) :
    (executeEnginePrompt env input).wp (answerProtocol env)
      (fun result g' => Kept g g' ∧ ∀ failure, result = .error failure → Told failure)
      (fun _ g' => Kept g g' ∧ (input.signal.isSome = true → g'.doomed = true)) g := by
  unfold executeEnginePrompt
  split
  · refine Throwing.wp_bind (Q := fun _ g' => Kept g g') ⟨trivial, fun reply _ => ?_⟩
      fun infer g' kept => ?_
    · have kept : Kept g (g.observe env (.runLlmInference input) reply) :=
        kept_observe (.runLlmInference input) reply rfl
      cases reply with
      | ok result => exact kept
      | error thrown =>
        refine ⟨kept, fun signal => ?_⟩
        show (g.doomed || input.signal.isSome) = true
        rw [signal, Bool.or_true]
    · cases infer with
      | ok content =>
        refine Throwing.wp_pure ⟨kept, fun failure is => ?_⟩
        cases is
      | error error =>
        refine Throwing.wp_pure ⟨kept, fun failure is => ?_⟩
        cases is
        exact told_of (by decide) error.text_ne
  · exact runAttempts_follows input _ _

attribute [local irreducible] executeEnginePrompt

/-! ### Tools -/

theorem executeAction_follows (incoming : Schema.InvokeToolV2) (call : ActionCall) :
    (performCall incoming (.action call)).wp (answerProtocol env)
      (fun result g' => Kept g g' ∧ result.error ≠ some "") (fun _ g' => Kept g g') g := by
  refine Throwing.wp_bind (Q := fun _ g' => Kept g g') ⟨trivial, fun reply _ => ?_⟩
    fun result g' kept => Throwing.wp_pure ⟨kept, fun empty => ?_⟩
  · have kept : Kept g (g.observe env (.executeAction incoming call) reply) :=
      kept_observe (.executeAction incoming call) reply rfl
    cases reply <;> exact kept
  · cases result with
    | succeeded output => cases empty
    | failed error => exact error.text_ne (Option.some.inj empty)

theorem performCall_follows (incoming : Schema.InvokeToolV2) (call : ToolCall) :
    (performCall incoming call).wp (answerProtocol env)
      (fun result g' => Kept g g' ∧ (result.error = some "" → g'.blank = true))
      (fun _ g' => Kept g g') g := by
  cases call with
  | action call =>
    exact Throwing.wp_mono (fun _ _ held => ⟨held.1, fun empty => absurd empty held.2⟩)
      (fun _ _ => id) (executeAction_follows incoming call)
  | shell call =>
    refine Throwing.wp_bind
      (Q := fun result g' => Kept g g' ∧ ∀ output, result = .failed "" output → g'.blank = true)
      ⟨trivial, fun reply _ => ?_⟩ fun result g' held => Throwing.wp_pure ⟨held.1, fun blank => ?_⟩
    · have kept : Kept g (g.observe env (.executeShellTask incoming call) reply) :=
        kept_observe (.executeShellTask incoming call) reply rfl
      cases reply with
      | error thrown => exact kept
      | ok result =>
        refine ⟨kept, fun output is => ?_⟩
        cases is
        rfl
    · cases result with
      | succeeded output => cases blank
      | failed error output =>
        obtain rfl := Option.some.inj blank
        exact held.2 output rfl

theorem runToolCalls_follows (incoming : Schema.InvokeToolV2) (tools : AgentRun.AgentRunPayload)
    (calls : List BridgeCall) (index : Nat) (toolResults : List ToolResult) :
    (runToolCalls env incoming tools calls index toolResults).wp (answerProtocol env)
      (fun _ g' => Kept g g') (fun _ g' => Kept g g') g := by
  induction calls generalizing g index toolResults with
  | nil => exact Throwing.wp_pure (Kept.refl g)
  | cons call rest ih =>
    unfold runToolCalls
    split
    · exact Throwing.wp_pure (Kept.refl g)
    · split
      · exact ih _ _
      · split
        · exact ih _ _
        · exact ih _ _
        · refine Throwing.wp_bind (performCall_follows incoming _) fun result g' held => ?_
          exact Throwing.wp_mono (fun _ _ => held.1.trans) (fun _ _ => held.1.trans) (ih _ _)

theorem snapshot_follows (incoming : Schema.InvokeToolV2) :
    (invoke (.snapshotAndUploadWorkspace incoming) rfl : Async Unit).wp (answerProtocol env)
      (fun _ g' => Kept g g' ∧ (hasTask env incoming && g.blank → g'.doomed = true))
      (fun thrown g' => Kept g g' ∧
        (hasTask env incoming → thrown.message = some "" → g'.doomed = true)) g := by
  refine ⟨trivial, fun reply _ => ?_⟩
  have kept : Kept g (g.observe env (.snapshotAndUploadWorkspace incoming) reply) :=
    kept_observe (.snapshotAndUploadWorkspace incoming) reply rfl
  cases reply with
  | ok value =>
    refine ⟨kept, fun bad => ?_⟩
    show (g.doomed || (hasTask env incoming && g.blank)) = true
    rw [bad, Bool.or_true]
  | error thrown =>
    refine ⟨kept, fun task empty => ?_⟩
    show (g.doomed || (hasTask env incoming && decide (thrown.message = some ""))) = true
    rw [task, empty]
    simp

/-- What a tool leaves: a result whose error has a text, unless it is doomed. -/
def ToolEnds (g : Stage) (answer : ToolAnswer) (g' : Stage) : Prop :=
  Kept g g' ∧ (g'.doomed = false → answer.error ≠ some "")

theorem toolFailure_ends {error : String} {g' : Stage} (kept : Kept g g') (text : error ≠ "") :
    ToolEnds g (toolFailure error) g' := by
  refine ⟨kept, fun _ empty => ?_⟩
  exact text (Option.some.inj empty)

theorem upload_follows (incoming : Schema.InvokeToolV2) (answer : ToolAnswer) :
    (upload incoming answer).wp (answerProtocol env)
      (fun answer' g' => answer' = answer ∧ Kept g g' ∧
        (hasTask env incoming && g.blank → g'.doomed = true))
      (fun thrown g' => Kept g g' ∧
        (hasTask env incoming → thrown.message = some "" → g'.doomed = true)) g := by
  refine Throwing.wp_bind (Throwing.wp_mono (fun _ _ held => held) (fun _ _ held => held)
    (snapshot_follows incoming)) fun _ g' held => ?_
  exact Throwing.wp_pure ⟨rfl, held⟩

theorem upload_ends {incoming : Schema.InvokeToolV2} {answer : ToolAnswer} {h : Stage}
    (kept : Kept g h) (text : answer.error ≠ some "") :
    (upload incoming answer).wp (answerProtocol env) (ToolEnds g) (fun _ g' => Kept g g') h := by
  refine Throwing.wp_mono (fun answer' g' held => ?_) (fun _ _ held => kept.trans held.1)
    (upload_follows incoming answer)
  obtain ⟨rfl, uploaded, -⟩ := held
  exact ⟨kept.trans uploaded, fun _ => text⟩

theorem rerun_follows (request : AgentRunRequest) (toolResults : List ToolResult) :
    (rerun env request toolResults).wp (answerProtocol env) (fun _ g' => Kept g g')
      (fun _ g' => Kept g g') g := by
  unfold rerun
  split
  · exact Throwing.wp_pure (Kept.refl g)
  · refine Throwing.wp_bind (Throwing.wp_mono (fun _ _ => And.left) (fun _ _ => And.left)
      (executeEnginePrompt_follows _)) fun _ _ kept => ?_
    exact Throwing.wp_pure kept

theorem executeAgentRun_follows (incoming : Schema.InvokeToolV2) :
    (executeAgentRun env incoming).wp (answerProtocol env) (ToolEnds g) (fun _ g' => Kept g g')
      g := by
  unfold executeAgentRun
  split
  · exact Throwing.wp_pure (toolFailure_ends (.refl g) (by decide))
  · next request _ =>
    refine Throwing.wp_bind (Throwing.wp_mono (fun _ _ => id) (fun _ _ => And.left)
      (executeEnginePrompt_follows _)) fun base g' held => ?_
    cases base with
    | error failure =>
      refine Throwing.wp_pure (toolFailure_ends held.1 fun empty => ?_)
      exact (held.2 failure rfl).2 (String.append_eq_empty_iff.mp empty).2
    | ok content =>
      refine Throwing.wp_bind (Throwing.wp_mono (fun _ _ => held.1.trans)
        (fun _ _ => held.1.trans) (runToolCalls_follows incoming _ _ _ _))
        fun toolResults g'' kept => ?_
      refine Throwing.wp_bind (Throwing.wp_mono (fun _ _ => kept.trans)
        (fun _ _ => kept.trans) (rerun_follows request toolResults)) fun _ h kept => ?_
      exact upload_ends kept fun empty => by cases empty

theorem toolAnswer_error {result : CallResult} (empty : (toolAnswer result).error = some "") :
    result.error = some "" := by
  unfold toolAnswer at empty
  dsimp only at empty
  split at empty
  · cases empty
  · exact empty

theorem executeAgentExecute_follows (incoming : Schema.InvokeToolV2)
    (kind : incoming.kind = .agentExecute) :
    (executeAgentExecute env incoming).wp (answerProtocol env) (ToolEnds g) (fun _ g' => Kept g g')
      g := by
  unfold executeAgentExecute
  split
  · exact Throwing.wp_pure (toolFailure_ends (.refl g) (by decide))
  · next execute parsed =>
    split
    · exact upload_ends (.refl g) fun empty => by cases empty
    · next task there =>
      have has : hasTask env incoming = true := by
        simp [hasTask, kind, parsed, there]
      refine Throwing.wp_bind (performCall_follows incoming _) fun exec g' held => ?_
      refine Throwing.wp_tryCatch (Q := fun thrown g'' => Kept g' g'' ∧
        (thrown.message = some "" → g''.doomed = true)) ?_ fun thrown g'' failed => ?_
      · refine Throwing.wp_mono (fun answer g'' uploaded => ?_)
          (fun _ _ failed => ⟨failed.1, failed.2 has⟩) (upload_follows incoming _)
        obtain ⟨rfl, kept, bad⟩ := uploaded
        refine ⟨held.1.trans kept, fun fine empty => ?_⟩
        have doomed := bad (by rw [has, held.2 (toolAnswer_error empty)]; rfl)
        rw [fine] at doomed
        cases doomed
      · refine Throwing.wp_pure ⟨held.1.trans failed.1, fun fine empty => ?_⟩
        have doomed := failed.2 (thrown.message_of_text (by decide) (Option.some.inj empty))
        rw [fine] at doomed
        cases doomed

theorem runConnectorTask_refuse {action : ConnectorPayload} {secret : Option String}
    {error : String} (refused : runConnectorTask action secret = .refuse error) : error ≠ "" := by
  unfold runConnectorTask at refused
  split at refused
  · cases refused
    rw [String.append_assoc, String.append_assoc]
    intro empty
    exact absurd (String.append_eq_empty_iff.mp empty).1 (by decide)
  · split at refused
    · cases refused
      decide
    · dsimp only at refused
      split at refused
      · split at refused
        · cases refused
          decide
        · cases refused
      · split at refused
        · cases refused
          decide
        · cases refused

theorem connectorResult_follows (incoming : Schema.InvokeToolV2) (action : ConnectorPayload)
    (secret : Option String) :
    (connectorResult incoming (runConnectorTask action secret)).wp (answerProtocol env)
      (fun result g' => Kept g g' ∧ result.error ≠ some "") (fun _ g' => Kept g g') g := by
  cases attempted : runConnectorTask action secret with
  | perform call =>
    obtain ⟨call, rfl, -⟩ := runConnectorTask_perform attempted
    exact executeAction_follows incoming call
  | refuse error =>
    refine Throwing.wp_pure ⟨.refl g, fun empty => ?_⟩
    exact runConnectorTask_refuse attempted (Option.some.inj empty)
  | skip => exact Throwing.wp_throw (Kept.refl g)

theorem executeConnectorAction_follows (incoming : Schema.InvokeToolV2) :
    (executeConnectorAction env incoming).wp (answerProtocol env) (ToolEnds g)
      (fun _ g' => Kept g g') g := by
  unfold executeConnectorAction
  split
  · exact Throwing.wp_pure (toolFailure_ends (.refl g) (by decide))
  · refine Throwing.wp_bind (connectorResult_follows incoming _ _) fun result g' held => ?_
    exact upload_ends held.1 fun empty => held.2 (toolAnswer_error empty)

theorem executeTool_follows (incoming : Schema.InvokeToolV2) :
    (executeTool env incoming).wp (answerProtocol env) (ToolEnds g) (fun _ g' => Kept g g') g := by
  unfold executeTool
  split
  · exact Throwing.wp_pure (toolFailure_ends (.refl g) (by decide))
  · refine Throwing.wp_bind (Q := fun _ g' => Kept g g') ⟨trivial, fun reply _ => ?_⟩
      fun _ g' kept => ?_
    · have kept : Kept g (g.observe env (.ensureWorkspaceExtracted incoming) reply) :=
        kept_observe (.ensureWorkspaceExtracted incoming) reply rfl
      cases reply <;> exact kept
    · have widen {p : Async ToolAnswer} (follows : p.wp (answerProtocol env) (ToolEnds g')
          (fun _ g'' => Kept g' g'') g') :
          p.wp (answerProtocol env) (ToolEnds g) (fun _ g'' => Kept g g'') g' :=
        Throwing.wp_mono (fun _ _ held => ⟨kept.trans held.1, held.2⟩) (fun _ _ => kept.trans)
          follows
      cases kind : incoming.kind with
      | agentExecute => exact widen (executeAgentExecute_follows incoming kind)
      | agentRun => exact widen (executeAgentRun_follows incoming)
      | connectorAction => exact widen (executeConnectorAction_follows incoming)

/-! ### Sessions -/

/-- Between turns, for the same message. -/
def Rests (g g' : Stage) : Prop :=
  g'.number = g.number ∧ g'.message = g.message ∧ g'.phase = .idle

theorem endTurn_follows {message : Schema.SessionTurn} {context : Nat}
    (own : g.message = .sessionTurn message) (holding : g.phase = .holding context)
    (answer : Option String) :
    (await (.endTurn context message.requestId answer)).wp (answerProtocol env)
      (fun _ g' => Rests g g' ∧ g'.doomed = g.doomed) (fun _ _ => False) g :=
  ⟨⟨holding, message, own, rfl⟩, fun _ _ => ⟨⟨rfl, rfl, rfl⟩, Bool.or_false _⟩⟩

theorem finishTurn_follows {message : Schema.SessionTurn} {context : Nat}
    {ended : Except Thrown (Except TurnFailure String)} (own : g.message = .sessionTurn message)
    (holding : g.phase = .holding context)
    (told : ∀ failure, ended = .ok (.error failure) → Told failure)
    (doomed : ∀ thrown, ended = .error thrown → g.doomed = true) :
    (finishTurn context message.requestId ended).wp (answerProtocol env)
      (fun result g' => Rests g g' ∧ ∀ failure, result = .error failure → Told failure)
      (fun _ g' => g'.doomed = true) g := by
  cases ended with
  | error thrown =>
    refine Throwing.wp_bind (Throwing.wp_mono (fun _ _ held => held) (fun _ _ => False.elim)
      (endTurn_follows own holding none)) fun _ g' held => ?_
    exact Throwing.wp_throw (held.2.trans (doomed thrown rfl))
  | ok result =>
    cases result with
    | error failure =>
      refine Throwing.wp_bind (Throwing.wp_mono (fun _ _ held => held) (fun _ _ => False.elim)
        (endTurn_follows own holding none)) fun _ g' held => ?_
      refine Throwing.wp_pure ⟨held.1, fun other is => ?_⟩
      cases is
      exact told failure rfl
    | ok content =>
      refine Throwing.wp_bind (Throwing.wp_mono (fun _ _ held => held) (fun _ _ => False.elim)
        (endTurn_follows own holding (some content))) fun _ g' held => ?_
      exact Throwing.wp_pure ⟨held.1, fun other is => by cases is⟩

theorem Kept.rests {g' g'' : Stage} (kept : Kept g g') (rests : Rests g' g'') : Rests g g'' :=
  ⟨rests.1.trans kept.number, rests.2.1.trans kept.message, rests.2.2⟩

/-- A turn has its context, or says why it has none. -/
def Begun (g : Stage) : Except TurnFailure StartedTurn → Prop
  | .error failure => Told failure ∧ g.phase = .idle
  | .ok started => g.phase = .holding started.context

theorem goOn_follows {message : Schema.SessionTurn} {begun : Except TurnFailure StartedTurn}
    (own : g.message = .sessionTurn message)
    (phase : Begun g begun) :
    (goOn env message.requestId begun).wp (answerProtocol env)
      (fun result g' => Rests g g' ∧ ∀ failure, result = .error failure → Told failure)
      (fun _ g' => g'.doomed = true) g := by
  cases begun with
  | error failure =>
    refine Throwing.wp_pure ⟨⟨rfl, rfl, phase.2⟩, fun other is => ?_⟩
    cases is
    exact phase.1
  | ok started =>
    refine Throwing.wp_observe (executeEnginePrompt_follows (turnInput started))
      (fun result g' after => ?_) fun thrown g' after => ?_
    · refine Throwing.wp_mono (fun _ _ held => ⟨after.1.rests held.1, held.2⟩) (fun _ _ => id)
        (finishTurn_follows (after.1.message.trans own) (after.1.phase.trans phase)
          (fun failure is => after.2 failure ?_) fun thrown is => by cases is)
      exact Except.ok.inj is
    · refine Throwing.wp_mono (fun _ _ held => ⟨after.1.rests held.1, held.2⟩) (fun _ _ => id)
        (finishTurn_follows (after.1.message.trans own) (after.1.phase.trans phase)
          (fun failure is => by cases is) fun _ _ => after.2 rfl)

/-- A turn begins idle and is idle again at its end; where it throws, it is doomed. -/
theorem runTurn_follows {message : Schema.SessionTurn} (idle : g.phase = .idle)
    (own : g.message = .sessionTurn message) :
    (runTurn env message).wp (answerProtocol env)
      (fun result g' => Rests g g' ∧ ∀ failure, result = .error failure → Told failure)
      (fun _ g' => g'.doomed = true) g := by
  refine Throwing.wp_bind (Q := fun result g' => (g'.number = g.number ∧
      g'.message = g.message) ∧ Begun g' result) ⟨⟨own, idle⟩, fun reply told => ?_⟩
    fun begun g' held => ?_
  · cases reply with
    | error failure => exact ⟨⟨rfl, rfl⟩, told, idle⟩
    | ok started => exact ⟨⟨rfl, rfl⟩, rfl⟩
  · obtain ⟨⟨number, kept⟩, phase⟩ := held
    exact Throwing.wp_mono (fun _ _ held => ⟨⟨held.1.1.trans number, held.1.2.1.trans kept,
      held.1.2.2⟩, held.2⟩) (fun _ _ => id) (goOn_follows (kept.trans own) phase)

/-! ### Handlers -/

theorem openSession_follows (message : Schema.SessionOpen) :
    (openSession message).wp (answerProtocol env) (fun _ g' => Kept g g')
      (fun thrown g' => Kept g g' ∧ (thrown.message = some "" → g'.doomed = true)) g := by
  refine Throwing.wp_bind (Q := fun _ g' => Kept g g') ⟨trivial, fun reply _ => ?_⟩
    fun _ g' kept => ⟨trivial, fun reply _ => ?_⟩
  · have kept : Kept g (g.observe env (.mkdir message) reply) :=
      kept_observe (.mkdir message) reply rfl
    cases reply with
    | ok value => exact kept
    | error thrown =>
      refine ⟨kept, fun empty => ?_⟩
      show (g.doomed || decide (thrown.message = some "")) = true
      rw [empty]
      simp
  · exact kept.trans (kept_observe (.setSession message) reply rfl)

theorem syncMemory_follows (message : MemorySync) :
    (syncMemory message).wp (answerProtocol env) (fun _ g' => Kept g g') (fun _ _ => False) g := by
  refine Throwing.wp_bind (Q := fun _ g' => Kept g g') ⟨trivial, fun reply _ => ?_⟩
    fun session g' kept => ?_
  · exact kept_observe (.getSession message.sessionId) reply rfl
  · refine Throwing.wp_tryCatch (Q := fun _ g'' => Kept g g'') ?_
      fun _ _ kept => Throwing.wp_pure kept
    refine Throwing.wp_bind (Q := fun _ g'' => Kept g g'') ⟨trivial, fun reply _ => ?_⟩
      fun _ _ kept => Throwing.wp_pure kept
    have later : Kept g' (g'.observe env
        (.sync (managerOf session message.provider message.workspaceDir)) reply) :=
      kept_observe (.sync _) reply rfl
    cases reply <;> exact kept.trans later

theorem queryMemory_follows (message : MemoryQuery) :
    (queryMemory env message).wp (answerProtocol env)
      (fun error g' => Kept g g' ∧ (error = some "" → g'.doomed = true)) (fun _ _ => False) g := by
  refine Throwing.wp_bind (Q := fun _ g' => Kept g g') ⟨trivial, fun reply _ => ?_⟩
    fun session g' kept => ?_
  · exact kept_observe (.getSession message.sessionId) reply rfl
  · refine Throwing.wp_tryCatch (Q := fun thrown g'' => Kept g g'' ∧
      (thrown.message = some "" → g''.doomed = true)) ?_ fun thrown g'' failed => ?_
    · refine Throwing.wp_bind (Q := fun _ g'' => Kept g g'') ⟨trivial, fun reply _ => ?_⟩
        fun _ _ kept => Throwing.wp_pure ⟨kept, fun is => by cases is⟩
      have later : Kept g' (g'.observe env
          (.search (managerOf session message.provider (env.ephemeralDir message.sessionId))
            message.query) reply) := kept_observe (.search _ _) reply rfl
      cases reply with
      | ok value => exact kept.trans later
      | error thrown =>
        refine ⟨kept.trans later, fun empty => ?_⟩
        show (g'.doomed || decide (thrown.message = some "")) = true
        rw [empty]
        simp
    · refine Throwing.wp_pure ⟨failed.1, fun empty => failed.2 ?_⟩
      exact thrown.message_of_text (by decide) (Option.some.inj empty)

/-- The answer of a handler, which then has nothing left to do. -/
def Answered (g : Stage) : Prop := ∃ answer, g.phase = .answered answer

theorem send_follows {answer : Answer} {g' : Stage} (number : g'.number = g.number)
    (idle : g'.phase = .idle) (is : IsAnswer g'.message answer)
    (taken : g'.doomed = false → edgeAccepts answer = true) :
    (await (.send g.number answer)).wp (answerProtocol env) (fun _ => Answered)
      (fun _ g' => g'.doomed = true) g' := by
  refine ⟨⟨number.symm, idle, is, taken⟩, fun _ _ => ⟨answer, rfl⟩⟩

/-- What a handler leaves: an answer if there is to be one, unless it is doomed. -/
def HandlerEnds (env : AgentEnv) (l : Received) : Except Thrown Unit → Stage → Prop
  | .error _, g => g.doomed = true
  | .ok (), g =>
    if l.message.accepted env.isUrl && l.message.isCommand then Answered g else g.phase = .idle

theorem invokeTool_named {isUrl : String → Bool} {message : Schema.InvokeToolV2}
    (accepted : Schema.invokeToolSchema isUrl message = true) : message.requestId ≠ "" := by
  simp only [Schema.invokeToolSchema, Bool.and_eq_true, decide_eq_true_eq] at accepted
  tauto

theorem sessionOpen_named {isUrl : String → Bool} {message : Schema.SessionOpen}
    (accepted : Schema.sessionOpenSchema isUrl message = true) :
    message.requestId ≠ "" ∧ Workflow.isUuid message.sessionId = true := by
  simp only [Schema.sessionOpenSchema, Bool.and_eq_true, decide_eq_true_eq] at accepted
  tauto

theorem sessionTurn_named {message : Schema.SessionTurn}
    (accepted : Schema.sessionTurnSchema message = true) :
    message.requestId ≠ "" ∧ Workflow.isUuid message.sessionId = true := by
  simp only [Schema.sessionTurnSchema, Bool.and_eq_true, decide_eq_true_eq] at accepted
  tauto

theorem memorySync_named {message : MemorySync} (accepted : memorySyncSchema message = true) :
    message.requestId ≠ "" ∧ Workflow.isUuid message.sessionId = true := by
  simp only [memorySyncSchema, Bool.and_eq_true, decide_eq_true_eq] at accepted
  tauto

theorem memoryQuery_named {message : MemoryQuery} (accepted : memoryQuerySchema message = true) :
    message.requestId ≠ "" ∧ Workflow.isUuid message.sessionId = true := by
  simp only [memoryQuerySchema, Bool.and_eq_true, decide_eq_true_eq] at accepted
  tauto

/-- A text that may be absent is not empty. -/
theorem all_ne_empty {error : Option String} (text : error ≠ some "") :
    (error.all (· ≠ "")) = true := by
  cases error with
  | none => rfl
  | some error => simpa using text

section handlers
variable {number : Nat}

theorem handleTool_follows {message : Schema.InvokeToolV2}
    (accepted : Schema.invokeToolSchema env.isUrl message = true) :
    (handleAccepted env number (.invokeTool message)).wp (answerProtocol env)
      (fun _ => Answered) (fun _ g => g.doomed = true) (.start ⟨number, .invokeTool message⟩) := by
  refine Throwing.wp_bind (Throwing.wp_tryCatch (executeTool_follows message) fun thrown g kept =>
    Throwing.wp_pure (toolFailure_ends kept ?_)) fun result g held => ?_
  · split
    · decide
    · assumption
  · refine send_follows held.1.number held.1.phase ?_ fun fine => ?_
    · rw [held.1.message]
      rfl
    · simp only [edgeAccepts, all_ne_empty (held.2 fine), Bool.and_true, decide_eq_true_eq]
      exact invokeTool_named accepted

theorem handleOpen_follows {message : Schema.SessionOpen}
    (accepted : Schema.sessionOpenSchema env.isUrl message = true) :
    (handleAccepted env number (.sessionOpen message)).wp (answerProtocol env)
      (fun _ => Answered) (fun _ g => g.doomed = true) (.start ⟨number, .sessionOpen message⟩) := by
  obtain ⟨named, session⟩ := sessionOpen_named accepted
  refine Throwing.wp_bind (Q := fun answer g => Kept (.start ⟨number, .sessionOpen message⟩) g ∧
      IsAnswer (.sessionOpen message) answer ∧ (g.doomed = false → edgeAccepts answer = true))
    (Throwing.wp_tryCatch (Throwing.wp_bind (openSession_follows message) fun _ g kept =>
      Throwing.wp_pure ⟨kept, rfl, fun _ => ?_⟩) fun thrown g failed =>
        Throwing.wp_pure ⟨failed.1, rfl, fun fine => ?_⟩) fun answer g held => ?_
  · simp [edgeAccepts, named, session]
  · have text : thrown.text "SESSION_OPEN_FAILED" ≠ "" := by
      intro empty
      have doomed := failed.2 (thrown.message_of_text (by decide) empty)
      rw [fine] at doomed
      cases doomed
    simp [edgeAccepts, named, session, text]
  · refine send_follows held.1.number held.1.phase ?_ held.2.2
    rw [held.1.message]
    exact held.2.1

theorem handleTurn_follows {message : Schema.SessionTurn}
    (accepted : Schema.sessionTurnSchema message = true) :
    (handleAccepted env number (.sessionTurn message)).wp (answerProtocol env)
      (fun _ => Answered) (fun _ g => g.doomed = true) (.start ⟨number, .sessionTurn message⟩) := by
  obtain ⟨named, session⟩ := sessionTurn_named accepted
  refine Throwing.wp_bind (runTurn_follows rfl rfl) fun result g held => ?_
  obtain ⟨⟨same, own, idle⟩, told⟩ := held
  cases result with
  | error failure =>
    refine send_follows same idle ?_ fun _ => ?_
    · rw [own]
      rfl
    · obtain ⟨code, text⟩ := told failure rfl
      simp [edgeAccepts, named, session, code, text]
  | ok content =>
    refine send_follows same idle ?_ fun _ => ?_
    · rw [own]
      rfl
    · simp [edgeAccepts, named, session]

theorem handleSync_follows {message : MemorySync} (accepted : memorySyncSchema message = true) :
    (handleAccepted env number (.memorySync message)).wp (answerProtocol env)
      (fun _ => Answered) (fun _ g => g.doomed = true) (.start ⟨number, .memorySync message⟩) := by
  obtain ⟨named, session⟩ := memorySync_named accepted
  refine Throwing.wp_bind (Throwing.wp_mono (fun _ _ => id) (fun _ _ => False.elim)
    (syncMemory_follows message)) fun ok g kept => ?_
  refine send_follows kept.number kept.phase ?_ fun _ => ?_
  · rw [kept.message]
    rfl
  · simp [edgeAccepts, named, session]

theorem handleQuery_follows {message : MemoryQuery} (accepted : memoryQuerySchema message = true) :
    (handleAccepted env number (.memoryQuery message)).wp (answerProtocol env)
      (fun _ => Answered) (fun _ g => g.doomed = true) (.start ⟨number, .memoryQuery message⟩) := by
  obtain ⟨named, session⟩ := memoryQuery_named accepted
  refine Throwing.wp_bind (Throwing.wp_mono (fun _ _ => id) (fun _ _ => False.elim)
    (queryMemory_follows message)) fun error g held => ?_
  refine send_follows held.1.number held.1.phase ?_ fun fine => ?_
  · rw [held.1.message]
    rfl
  · have text : error ≠ some "" := by
      intro empty
      have doomed := held.2 empty
      rw [fine] at doomed
      cases doomed
    simp only [edgeAccepts, all_ne_empty text, session, Bool.and_true, decide_eq_true_eq]
    exact named

theorem handleAccepted_follows {message : Incoming}
    (accepted : message.accepted env.isUrl = true) :
    (handleAccepted env number message).wp (answerProtocol env)
      (fun _ g => if message.isCommand then Answered g else g.phase = .idle)
      (fun _ g => g.doomed = true) (.start ⟨number, message⟩) := by
  cases message with
  | invokeTool message => exact handleTool_follows accepted
  | sessionOpen message => exact handleOpen_follows accepted
  | sessionTurn message => exact handleTurn_follows accepted
  | sessionCancel message => exact ⟨trivial, fun _ _ => rfl⟩
  | memorySync message => exact handleSync_follows accepted
  | memoryQuery message => exact handleQuery_follows accepted
  | other => cases accepted

end handlers

theorem handleMessage_follows (l : Received) :
    Program.wp (answerProtocol env) (HandlerEnds env l) (handleMessage env l.number l.message).run
      (.start l) := by
  unfold handleMessage
  split
  · next accepted =>
    refine Program.wp_mono (fun outcome g held => ?_) (handleAccepted_follows accepted)
    cases outcome with
    | error thrown => exact held
    | ok value =>
      unfold HandlerEnds
      rw [accepted]
      exact held
  · next other =>
    unfold HandlerEnds
    simp only [other, Bool.false_and]
    rfl

end follows

/-! ### What an operation does -/

theorem beginTurn_told {agent : Agent} {message : Schema.SessionTurn} {failure : TurnFailure}
    (failed : (agent.beginTurn env message).1 = .error failure) : Told failure := by
  unfold Agent.beginTurn at failed
  cases began : NodeAgent.runTurn agent.node (turnOf env message) with
  | error other =>
    rw [began] at failed
    cases failed
    exact runTurn_told began
  | ok started =>
    rw [began] at failed
    cases failed

/-- What an operation sends. -/
def sendsOf : ListenerOp → List (Nat × Answer)
  | .send number answer => [(number, answer)]
  | _ => []

/-- What an operation does to the agent. -/
def agentAfter (agent : Agent) : ListenerOp → Agent
  | .setSession message => agent.setSession message
  | .beginTurn message => (agent.beginTurn env message).2
  | .endTurn context requestId answer => agent.endTurn context requestId answer
  | .abortTurn message => agent.abortTurn message
  | .send number answer => { agent with sent := agent.sent ++ [(number, answer)] }
  | _ => agent

theorem perform_state {op : ListenerOp} {agent agent' : Agent} {choice : ListenerChoice}
    {reply : op.Reply} (performed : performListener env op agent choice = some (reply, agent')) :
    agent' = agentAfter env agent op := by
  unfold performListener at performed
  split at performed
  · cases performed
  · split at performed
    case h_16 => cases performed
    all_goals exact (congrArg Prod.snd (Option.some.inj performed)).symm

theorem perform_begin {message : Schema.SessionTurn} {agent agent' : Agent}
    {choice : ListenerChoice} {reply : Except TurnFailure StartedTurn}
    (performed : performListener env (.beginTurn message) agent choice = some (reply, agent')) :
    agent.beginTurn env message = (reply, agent') := by
  unfold performListener at performed
  split at performed
  · cases performed
  · cases choice with
    | none => exact Option.some.inj performed
    | _ => cases performed

theorem perform_replies {op : ListenerOp} {agent agent' : Agent} {choice : ListenerChoice}
    {reply : op.Reply} (performed : performListener env op agent choice = some (reply, agent')) :
    repliesTo op reply := by
  cases op with
  | beginTurn message =>
    cases reply with
    | error failure => exact beginTurn_told env (congrArg Prod.fst (perform_begin env performed))
    | ok started => trivial
  | _ => trivial

theorem agentAfter_received (agent : Agent) (op : ListenerOp) :
    (agentAfter env agent op).received = agent.received ∧
      (agentAfter env agent op).terminated = agent.terminated ∧
      (agentAfter env agent op).sent = agent.sent ++ sendsOf op := by
  cases op with
  | beginTurn message =>
    simp only [agentAfter, Agent.beginTurn, sendsOf, List.append_nil]
    split <;> exact ⟨rfl, rfl, rfl⟩
  | endTurn context requestId answer =>
    simp only [agentAfter, Agent.endTurn, sendsOf, List.append_nil]
    split <;> exact ⟨rfl, rfl, rfl⟩
  | abortTurn message =>
    simp only [agentAfter, Agent.abortTurn, sendsOf, List.append_nil]
    split <;> exact ⟨rfl, rfl, rfl⟩
  | send number answer => exact ⟨rfl, rfl, rfl⟩
  | _ => exact ⟨rfl, rfl, (List.append_nil _).symm⟩

/-! ### The listener and its handlers -/

def answering : Certified (listener env) (answerProtocol env) where
  start := .start
  looping _ loop _ := nomatch loop
  ended := HandlerEnds env
  entry_follows l := Program.wp_seq (handleMessage_follows l) fun _ _ held => held
  body_follows _ loop := nomatch loop
  replies _ _ _ _ _ performed := perform_replies env performed

/-- The operation of an action fails so that no accepted answer follows. -/
def harmful (s : (listener env).State) : (listener env).Action → Bool
  | .call id choice =>
    match (answering env).issued s (.call id choice) with
    | some (g, op) =>
      match performListener env op s.store choice with
      | some (reply, _) => fatal env g.blank op reply
      | none => false
    | none => false
  | _ => false

def Harmless (s : (listener env).State) (a : (listener env).Action) : Prop :=
  harmful env s a = false

instance (s : (listener env).State) (a : (listener env).Action) : Decidable (Harmless env s a) :=
  inferInstanceAs (Decidable (_ = _))

variable {env} in
theorem harmless_call {s : (listener env).State} {id : Nat} {choice : ListenerChoice} {g : Stage}
    {op : ListenerOp} {reply : op.Reply} {agent : Agent}
    (harmless : Harmless env s (.call id choice))
    (issues : (answering env).issued s (.call id choice) = some (g, op))
    (performed : performListener env op s.store choice = some (reply, agent)) :
    fatal env g.blank op reply = false := by
  unfold Harmless harmful at harmless
  dsimp only at harmless
  rw [issues] at harmless
  dsimp only at harmless
  rw [performed] at harmless
  exact harmless

/-! ### Answers -/

/-- The answers to the message with a number. -/
def answersTo (sent : List (Nat × Answer)) (number : Nat) : List Answer :=
  (sent.filter (·.1 = number)).map (·.2)

/-- A message has one answer, which is its own and accepted, or none if it is not to be answered. -/
def Settled (sent : List (Nat × Answer)) (number : Nat) (message : Incoming) : Prop :=
  if message.accepted env.isUrl && message.isCommand then
    ∃ answer, answersTo sent number = [answer] ∧ IsAnswer message answer ∧
      edgeAccepts answer = true
  else answersTo sent number = []

def Stage.given (g : Stage) : List Answer :=
  match g.phase with
  | .answered answer => [answer]
  | _ => []

abbrev Crew := Nat → Option (Received × Stage)

/-- Each handler has sent what it knows it has, and what has no handler any more is settled. -/
structure SendingOk (agent : Agent) (crew : Crew) : Prop where
  alive : agent.terminated = false
  fortunate : ∀ id l g, crew id = some (l, g) → g.doomed = false
  own : ∀ id l g, crew id = some (l, g) → agent.received[l.number]? = some l.message ∧
    g.number = l.number ∧ g.message = l.message
  single : ∀ i j l l' g g', crew i = some (l, g) → crew j = some (l', g') →
    l.number = l'.number → i = j
  past : ∀ entry ∈ agent.sent, entry.1 < agent.received.length
  sent : ∀ id l g, crew id = some (l, g) → answersTo agent.sent l.number = g.given
  fits : ∀ id l g answer, crew id = some (l, g) → g.phase = .answered answer →
    IsAnswer l.message answer ∧ edgeAccepts answer = true
  settled : ∀ number message, agent.received[number]? = some message →
    (∀ id l g, crew id = some (l, g) → l.number ≠ number) → Settled env agent.sent number message

section sending
variable {env} {agent : Agent} {crew : Crew}

theorem answersTo_append (sent more : List (Nat × Answer)) (number : Nat) :
    answersTo (sent ++ more) number = answersTo sent number ++ answersTo more number := by
  simp [answersTo]

theorem answersTo_none {sent : List (Nat × Answer)} {number : Nat}
    (none_ : ∀ entry ∈ sent, entry.1 ≠ number) : answersTo sent number = [] := by
  unfold answersTo
  rw [List.filter_eq_nil_iff.mpr fun entry mem => by simpa using none_ entry mem]
  rfl

theorem sendingOk_launch {l : Received} {id : Nat} (ok : SendingOk env agent crew)
    (free : crew id = none) (next : l.number = agent.received.length) :
    SendingOk env { agent with received := agent.received ++ [l.message] }
      (Function.update crew id (some (l, .start l))) where
  alive := ok.alive
  fortunate i l' g there := by
    obtain ⟨-, new⟩ | ⟨-, there⟩ := update_cases there
    · cases new
      rfl
    · exact ok.fortunate i l' g there
  own i l' g there := by
    obtain ⟨-, new⟩ | ⟨-, there⟩ := update_cases there
    · cases new
      refine ⟨?_, rfl, rfl⟩
      rw [next]
      simp
    · obtain ⟨is, same⟩ := ok.own i l' g there
      exact ⟨List.getElem?_append_left (List.getElem?_eq_some_iff.mp is).1 ▸ is, same⟩
  single i j l₁ l₂ g₁ g₂ first second same := by
    have below {i : Nat} {l' : Received} {g : Stage} (there : crew i = some (l', g)) :
        l'.number < agent.received.length :=
      (List.getElem?_eq_some_iff.mp (ok.own i l' g there).1).1
    obtain ⟨here, new⟩ | ⟨-, first⟩ := update_cases first <;>
      obtain ⟨here', new'⟩ | ⟨-, second⟩ := update_cases second
    · exact here.trans here'.symm
    · cases new
      have small := below second
      omega
    · cases new'
      have small := below first
      omega
    · exact ok.single i j l₁ l₂ g₁ g₂ first second same
  past entry mem := by
    have small := ok.past entry mem
    rw [List.length_append]
    omega
  sent i l' g there := by
    obtain ⟨-, new⟩ | ⟨-, there⟩ := update_cases there
    · cases new
      refine answersTo_none fun entry mem same => ?_
      have small := ok.past entry mem
      omega
    · exact ok.sent i l' g there
  fits i l' g answer there phase := by
    obtain ⟨-, new⟩ | ⟨-, there⟩ := update_cases there
    · cases new
      cases phase
    · exact ok.fits i l' g answer there phase
  settled number message is ended := by
    obtain same | other := Decidable.em (number = l.number)
    · exact absurd same.symm (ended id l (.start l) (Function.update_self ..))
    · have small : number < agent.received.length := by
        have bound := (List.getElem?_eq_some_iff.mp is).1
        rw [List.length_append, List.length_singleton] at bound
        omega
      rw [List.getElem?_append_left small] at is
      refine ok.settled number message is fun i l' g there same => ?_
      obtain rfl | apart := Decidable.em (i = id)
      · rw [free] at there
        cases there
      · exact ended i l' g (by rw [Function.update_of_ne apart]; exact there) same

theorem given_observe {g : Stage} {op : ListenerOp} (reply : op.Reply) (permitted : g.permits op) :
    (g.observe env op reply).given = g.given ++ answersTo (sendsOf op) g.number := by
  cases op with
  | send number answer =>
    obtain ⟨rfl, idle, -, -⟩ := permitted
    have before : g.given = [] := by
      unfold Stage.given
      rw [idle]
    rw [before]
    simp [Stage.given, Stage.observe, Stage.nextPhase, answersTo, sendsOf]
  | beginTurn message =>
    have before : g.given = [] := by
      unfold Stage.given
      rw [permitted.2]
    rw [before]
    cases reply with
    | error failure =>
      show (match g.phase with | .answered answer => [answer] | _ => []) = []
      rw [permitted.2]
    | ok started => rfl
  | endTurn context requestId answer =>
    have before : g.given = [] := by
      unfold Stage.given
      rw [permitted.1]
    rw [before]
    rfl
  | _ => exact (List.append_nil _).symm

theorem answered_observe {g : Stage} {op : ListenerOp} {reply : op.Reply} {answer : Answer}
    (phase : (g.observe env op reply).phase = .answered answer) :
    g.phase = .answered answer ∨ ∃ number, op = .send number answer := by
  cases op with
  | send number other =>
    cases phase
    exact .inr ⟨number, rfl⟩
  | beginTurn message =>
    cases reply with
    | error failure => exact .inl phase
    | ok started => cases phase
  | endTurn context requestId content => cases phase
  | _ => exact .inl phase

theorem sendingOk_call {id : Nat} {l : Received} {g : Stage} {op : ListenerOp} {reply : op.Reply}
    (ok : SendingOk env agent crew) (here : crew id = some (l, g)) (permitted : g.permits op)
    (fine : fatal env g.blank op reply = false) :
    SendingOk env (agentAfter env agent op)
      (Function.update crew id (some (l, g.observe env op reply))) := by
  obtain ⟨received, terminated, sent⟩ := agentAfter_received env agent op
  obtain ⟨is, number, message⟩ := ok.own id l g here
  have sends : ∀ entry ∈ sendsOf op, entry.1 = l.number := by
    intro entry mem
    cases op with
    | send number' answer =>
      obtain rfl := List.mem_singleton.mp mem
      exact permitted.1.trans number
    | _ => cases mem
  have others {number' : Nat} (other : number' ≠ l.number) :
      answersTo (agentAfter env agent op).sent number' = answersTo agent.sent number' := by
    rw [sent, answersTo_append, answersTo_none fun entry mem same =>
      other (same.symm.trans (sends entry mem)), List.append_nil]
  refine ⟨terminated.trans ok.alive, fun i l' g' there => ?_, fun i l' g' there => ?_,
    fun i j l₁ l₂ g₁ g₂ first second same => ?_, fun entry mem => ?_, fun i l' g' there => ?_,
    fun i l' g' answer there phase => ?_, fun number' message' is' ended => ?_⟩
  · obtain ⟨-, new⟩ | ⟨-, there⟩ := update_cases there
    · cases new
      show (g.doomed || fatal env g.blank op reply) = false
      rw [ok.fortunate id l g here, fine]
      rfl
    · exact ok.fortunate i l' g' there
  · rw [received]
    obtain ⟨-, new⟩ | ⟨-, there⟩ := update_cases there
    · cases new
      exact ⟨is, number, message⟩
    · exact ok.own i l' g' there
  · obtain ⟨here₁, new⟩ | ⟨-, first⟩ := update_cases first <;>
      obtain ⟨here₂, new'⟩ | ⟨-, second⟩ := update_cases second
    · exact here₁.trans here₂.symm
    · cases new
      exact here₁.trans (ok.single id j _ l₂ g g₂ here second same)
    · cases new'
      exact (ok.single i id l₁ _ g₁ g first here same).trans here₂.symm
    · exact ok.single i j l₁ l₂ g₁ g₂ first second same
  · rw [received]
    rw [sent] at mem
    obtain mem | mem := List.mem_append.mp mem
    · exact ok.past entry mem
    · rw [sends entry mem]
      exact (List.getElem?_eq_some_iff.mp is).1
  · obtain ⟨-, new⟩ | ⟨apart, there⟩ := update_cases there
    · cases new
      rw [given_observe reply permitted, sent, answersTo_append, ok.sent id l g here, number]
    · rw [others fun same => apart (ok.single i id l' l g' g there here same)]
      exact ok.sent i l' g' there
  · obtain ⟨-, new⟩ | ⟨-, there⟩ := update_cases there
    · cases new
      obtain same | ⟨number', rfl⟩ := answered_observe phase
      · exact ok.fits id l g answer here same
      · rw [← message]
        exact ⟨permitted.2.2.1, permitted.2.2.2 (ok.fortunate id l g here)⟩
    · exact ok.fits i l' g' answer there phase
  · rw [received] at is'
    have other : number' ≠ l.number := fun same =>
      ended id l _ (Function.update_self ..) same.symm
    have before := ok.settled number' message' is' fun i l' g' there same => by
      obtain rfl | apart := Decidable.em (i = id)
      · rw [here] at there
        cases there
        exact other same.symm
      · exact ended i l' g' (by rw [Function.update_of_ne apart]; exact there) same
    unfold Settled at before ⊢
    rw [others other]
    exact before

theorem sendingOk_finish {id : Nat} {l : Received} {g : Stage} {outcome : Except Thrown Unit}
    (ok : SendingOk env agent crew) (here : crew id = some (l, g))
    (ended : HandlerEnds env l outcome g) :
    SendingOk env ((listener env).finish l outcome agent) (Function.update crew id none) := by
  cases outcome with
  | error thrown =>
    have doomed : g.doomed = true := ended
    rw [ok.fortunate id l g here] at doomed
    cases doomed
  | ok value =>
    have old {i : Nat} {r : Received × Stage} (there : Function.update crew id none i = some r) :
        crew i = some r := by
      obtain ⟨-, new⟩ | ⟨-, there⟩ := update_cases there
      · cases new
      · exact there
    refine ⟨ok.alive, fun i l' g' there => ok.fortunate i l' g' (old there),
      fun i l' g' there => ok.own i l' g' (old there),
      fun i j l₁ l₂ g₁ g₂ first second same =>
        ok.single i j l₁ l₂ g₁ g₂ (old first) (old second) same, ok.past,
      fun i l' g' there => ok.sent i l' g' (old there),
      fun i l' g' answer there phase => ok.fits i l' g' answer (old there) phase,
      fun number message is gone => ?_⟩
    obtain rfl | other := Decidable.em (number = l.number)
    · have own := ok.own id l g here
      rw [own.1] at is
      obtain rfl := Option.some.inj is
      have sent := ok.sent id l g here
      show Settled env agent.sent l.number l.message
      unfold Settled
      unfold HandlerEnds at ended
      dsimp only at ended
      split at ended
      · next command =>
        obtain ⟨answer, phase⟩ := ended
        rw [if_pos command, sent, Stage.given, phase]
        exact ⟨answer, rfl, ok.fits id l g answer here phase⟩
      · next ignored =>
        rw [if_neg ignored, sent, Stage.given, ended]
    · refine ok.settled number message is fun i l' g' there same => ?_
      obtain rfl | apart := Decidable.em (i = id)
      · rw [here] at there
        cases there
        exact other same.symm
      · exact gone i l' g' (by rw [Function.update_of_ne apart]; exact there) same

end sending

/-! ### Turns -/

/-- An active turn belongs to a handler that has not answered yet. -/
structure TurnsOk (node : NodeSessions) (crew : Crew) : Prop where
  fresh : ∀ context, node.opened ≤ context → node.contexts context = none
  held : ∀ context ctx active, node.contexts context = some ctx → ctx.activeTurn = some active →
    ∃ id l g message, crew id = some (l, g) ∧ g.phase = .holding context ∧
      g.message = .sessionTurn message ∧ message.requestId = active.requestId
  holder : ∀ id l g context, crew id = some (l, g) → g.phase = .holding context →
    ∃ ctx active message, node.contexts context = some ctx ∧ ctx.activeTurn = some active ∧
      g.message = .sessionTurn message ∧ message.requestId = active.requestId
  sole : ∀ i j l l' g g' context, crew i = some (l, g) → crew j = some (l', g') →
    g.phase = .holding context → g'.phase = .holding context → i = j

section turns
variable {env} {node : NodeSessions} {crew : Crew} {id : Nat} {l : Received} {g g' : Stage}

/-- A handler that holds no context comes, goes or stays so. -/
theorem TurnsOk.idle {new : Option (Received × Stage)} (ok : TurnsOk node crew)
    (before : ∀ l g context, crew id = some (l, g) → g.phase ≠ .holding context)
    (after : ∀ l g context, new = some (l, g) → g.phase ≠ .holding context) :
    TurnsOk node (Function.update crew id new) where
  fresh := ok.fresh
  held context ctx active is turn := by
    obtain ⟨i, l, g, message, there, phase, own, same⟩ := ok.held context ctx active is turn
    refine ⟨i, l, g, message, ?_, phase, own, same⟩
    rw [Function.update_of_ne fun here => ?_]
    · exact there
    · rw [here] at there
      exact before l g context there phase
  holder i l g context there phase := by
    obtain ⟨-, is⟩ | ⟨-, there⟩ := update_cases there
    · exact absurd phase (after l g context is)
    · exact ok.holder i l g context there phase
  sole i j l₁ l₂ g₁ g₂ context first second phase phase' := by
    obtain ⟨-, is⟩ | ⟨-, first⟩ := update_cases first
    · exact absurd phase (after _ _ _ is)
    · obtain ⟨-, is⟩ | ⟨-, second⟩ := update_cases second
      · exact absurd phase' (after _ _ _ is)
      · exact ok.sole i j l₁ l₂ g₁ g₂ context first second phase phase'

/-- A handler goes on with the same phase. -/
theorem TurnsOk.goesOn (ok : TurnsOk node crew) (here : crew id = some (l, g))
    (phase : g'.phase = g.phase) (own : g'.message = g.message) :
    TurnsOk node (Function.update crew id (some (l, g'))) where
  fresh := ok.fresh
  held context ctx active is turn := by
    obtain ⟨i, l', h, message, there, holding, its, same⟩ := ok.held context ctx active is turn
    obtain rfl | apart := Decidable.em (i = id)
    · rw [here] at there
      cases there
      exact ⟨i, l, g', message, Function.update_self .., phase.trans holding, own.trans its, same⟩
    · exact ⟨i, l', h, message, by rw [Function.update_of_ne apart]; exact there, holding, its,
        same⟩
  holder i l' h context there holding := by
    obtain ⟨-, is⟩ | ⟨-, there⟩ := update_cases there
    · cases is
      obtain ⟨ctx, active, message, found, turn, its, same⟩ :=
        ok.holder id l g context here (phase.symm.trans holding)
      exact ⟨ctx, active, message, found, turn, own.trans its, same⟩
    · exact ok.holder i l' h context there holding
  sole i j l₁ l₂ g₁ g₂ context first second holding holding' := by
    have before {i : Nat} {l' : Received} {h : Stage} (holding : h.phase = .holding context)
        (there : Function.update crew id (some (l, g')) i = some (l', h)) :
        ∃ l' h, crew i = some (l', h) ∧ h.phase = .holding context := by
      obtain ⟨rfl, is⟩ | ⟨-, there⟩ := update_cases there
      · cases is
        exact ⟨l, g, here, phase.symm.trans holding⟩
      · exact ⟨l', h, there, holding⟩
    obtain ⟨l₁, g₁, first, holding⟩ := before holding first
    obtain ⟨l₂, g₂, second, holding'⟩ := before holding' second
    exact ok.sole i j l₁ l₂ g₁ g₂ context first second holding holding'

theorem TurnsOk.opens (ok : TurnsOk node crew) (open_ : NodeAgent.SessionOpen) :
    TurnsOk (NodeAgent.openSession node open_) crew where
  fresh context above := by
    have later : node.opened + 1 ≤ context := above
    show Function.update node.contexts node.opened _ context = none
    rw [Function.update_of_ne (by omega)]
    exact ok.fresh context (by omega)
  held context ctx active is turn := by
    have is : Function.update node.contexts node.opened _ context = some ctx := is
    obtain ⟨-, new⟩ | ⟨-, is⟩ := update_cases is
    · cases new
      cases turn
    · exact ok.held context ctx active is turn
  holder i l g context there holding := by
    obtain ⟨ctx, active, message, found, rest⟩ := ok.holder i l g context there holding
    refine ⟨ctx, active, message, ?_, rest⟩
    show Function.update node.contexts node.opened _ context = some ctx
    rw [Function.update_of_ne fun same => ?_]
    · exact found
    · rw [ok.fresh context (Nat.le_of_eq same.symm)] at found
      cases found
  sole := ok.sole

theorem TurnsOk.begins {context : Nat} {ctx : SessionContext} {message : Schema.SessionTurn}
    (ok : TurnsOk node crew) (here : crew id = some (l, g)) (idle : g.phase = .idle)
    (own : g.message = .sessionTurn message)
    (begun : NodeAgent.runTurn node (turnOf env message) = .ok (context, ctx))
    (phase : g'.phase = .holding context) (kept : g'.message = g.message) :
    TurnsOk (node.setContext context ctx) (Function.update crew id (some (l, g'))) := by
  obtain ⟨before, -, found, started⟩ := runTurn_ok begun
  obtain ⟨free, -, rfl⟩ := beginTurn_ok started
  have unheld (i : Nat) (l' : Received) (h : Stage) (there : crew i = some (l', h)) :
      h.phase ≠ .holding context := by
    intro holding
    obtain ⟨ctx, active, -, found', turn, -⟩ := ok.holder i l' h context there holding
    rw [found] at found'
    cases found'
    rw [free] at turn
    cases turn
  refine ⟨fun other above => ?_, fun other ctx active is turn => ?_,
    fun i l' h other there holding => ?_,
    fun i j l₁ l₂ g₁ g₂ other first second holding holding' => ?_⟩
  · show Function.update node.contexts context _ other = none
    rw [Function.update_of_ne fun same => ?_]
    · exact ok.fresh other above
    · rw [← same, ok.fresh other above] at found
      cases found
  · obtain ⟨rfl, new⟩ | ⟨-, is⟩ := update_cases is
    · cases new
      obtain rfl := Option.some.inj turn
      exact ⟨id, l, g', message, Function.update_self .., phase, kept.trans own, rfl⟩
    · obtain ⟨i, l', h, message', there, holding, rest⟩ := ok.held other ctx active is turn
      refine ⟨i, l', h, message', ?_, holding, rest⟩
      rw [Function.update_of_ne fun same => ?_]
      · exact there
      · rw [same, here] at there
        cases there
        rw [idle] at holding
        cases holding
  · obtain ⟨-, is⟩ | ⟨-, there⟩ := update_cases there
    · cases is
      rw [phase] at holding
      cases holding
      exact ⟨_, _, message, Function.update_self .., rfl, kept.trans own, rfl⟩
    · obtain ⟨ctx, active, message', found', rest⟩ := ok.holder i l' h other there holding
      refine ⟨ctx, active, message', ?_, rest⟩
      show Function.update node.contexts context _ other = some ctx
      rw [Function.update_of_ne fun same => ?_]
      · exact found'
      · rw [same] at holding
        exact unheld i l' h there holding
  · obtain ⟨here₁, new⟩ | ⟨-, first⟩ := update_cases first <;>
      obtain ⟨here₂, new'⟩ | ⟨-, second⟩ := update_cases second
    · exact here₁.trans here₂.symm
    · cases new
      rw [phase] at holding
      cases holding
      exact absurd holding' (unheld j l₂ g₂ second)
    · cases new'
      rw [phase] at holding'
      cases holding'
      exact absurd holding (unheld i l₁ g₁ first)
    · exact ok.sole i j l₁ l₂ g₁ g₂ other first second holding holding'

theorem TurnsOk.ends {context : Nat} {message : Schema.SessionTurn} {ctx : SessionContext}
    {answer : Option String} (ok : TurnsOk node crew) (here : crew id = some (l, g))
    (holding : g.phase = .holding context) (own : g.message = .sessionTurn message)
    (there : node.contexts context = some ctx) (idle : g'.phase = .idle) :
    TurnsOk (node.setContext context (Agent.endContext ctx message.requestId answer))
      (Function.update crew id (some (l, g'))) := by
  have apart {i : Nat} {l' : Received} {h : Stage} {other : Nat} (other_ : i ≠ id)
      (is : crew i = some (l', h)) (phase : h.phase = .holding other) : other ≠ context := by
    rintro rfl
    exact other_ (ok.sole i id l' l h g other is here phase holding)
  have released : (Agent.endContext ctx message.requestId answer).activeTurn = none := by
    obtain ⟨ctx', active, message', found, turn, own', same⟩ :=
      ok.holder id l g context here holding
    rw [there] at found
    cases found
    rw [own] at own'
    cases own'
    simp [Agent.endContext, turn, same]
  refine ⟨fun other above => ?_, fun other ctx' active is turn => ?_,
    fun i l' h other is phase => ?_,
    fun i j l₁ l₂ g₁ g₂ other first second phase phase' => ?_⟩
  · show Function.update node.contexts context _ other = none
    rw [Function.update_of_ne fun same => ?_]
    · exact ok.fresh other above
    · rw [← same, ok.fresh other above] at there
      cases there
  · obtain ⟨-, new⟩ | ⟨other_, is⟩ := update_cases is
    · cases new
      rw [released] at turn
      cases turn
    · obtain ⟨i, l', h, message', found, phase, rest⟩ := ok.held other ctx' active is turn
      refine ⟨i, l', h, message', ?_, phase, rest⟩
      rw [Function.update_of_ne fun same => ?_]
      · exact found
      · rw [same, here] at found
        cases found
        rw [holding] at phase
        cases phase
        exact other_ rfl
  · obtain ⟨-, new⟩ | ⟨other_, is⟩ := update_cases is
    · cases new
      rw [idle] at phase
      cases phase
    · obtain ⟨ctx', active, message', found, rest⟩ := ok.holder i l' h other is phase
      refine ⟨ctx', active, message', ?_, rest⟩
      show Function.update node.contexts context _ other = some ctx'
      rw [Function.update_of_ne (apart other_ is phase)]
      exact found
  · obtain ⟨-, new⟩ | ⟨-, first⟩ := update_cases first
    · cases new
      rw [idle] at phase
      cases phase
    · obtain ⟨-, new⟩ | ⟨-, second⟩ := update_cases second
      · cases new
        rw [idle] at phase'
        cases phase'
      · exact ok.sole i j l₁ l₂ g₁ g₂ other first second phase phase'

theorem TurnsOk.call {agent agent' : Agent} {op : ListenerOp} {choice : ListenerChoice}
    {reply : op.Reply} (ok : TurnsOk agent.node crew) (here : crew id = some (l, g))
    (permitted : g.permits op)
    (performed : performListener env op agent choice = some (reply, agent')) :
    TurnsOk agent'.node (Function.update crew id (some (l, g.observe env op reply))) := by
  have after := perform_state env performed
  cases op with
  | setSession message =>
    obtain rfl := after
    exact (ok.opens (sessionOf message)).goesOn here rfl rfl
  | beginTurn message =>
    have begun := perform_begin env performed
    unfold Agent.beginTurn at begun
    cases started : NodeAgent.runTurn agent.node (turnOf env message) with
    | error failure =>
      rw [started] at begun
      cases begun
      exact ok.goesOn here rfl rfl
    | ok turn =>
      rw [started] at begun
      cases begun
      exact ok.begins here permitted.2 permitted.1 started rfl rfl
  | endTurn context requestId answer =>
    obtain rfl := after
    obtain ⟨holding, message, own, rfl⟩ := permitted
    obtain ⟨ctx, active, -, there, -⟩ := ok.holder id l g context here holding
    show TurnsOk (agent.endTurn context message.requestId answer).node _
    unfold Agent.endTurn
    rw [there]
    exact ok.ends here holding own there rfl
  | abortTurn message =>
    obtain rfl := after
    have same : (agent.abortTurn message).node = agent.node := by
      unfold Agent.abortTurn
      split <;> rfl
    show TurnsOk (agent.abortTurn message).node _
    rw [same]
    exact ok.goesOn here rfl rfl
  | send number answer =>
    obtain rfl := after
    refine ok.idle (fun l' h context there holding => ?_) fun l' h context is holding => ?_
    · rw [here] at there
      cases there
      rw [permitted.2.1] at holding
      cases holding
    · cases is
      cases holding
  | _ =>
    obtain rfl := after
    exact ok.goesOn here rfl rfl

end turns

/-! ### Runs -/

/-- What holds of a process that has had no harmful failure. -/
structure AnsweredOnce (s : (listener env).State) : Prop where
  alive : s.store.terminated = false
  once : ∀ number, (answersTo s.store.sent number).length ≤ 1
  answered : ∀ number message, s.store.received[number]? = some message →
    (∀ id p, s.process id = some p → p.launch.number ≠ number) →
    Settled env s.store.sent number message
  released : ∀ context ctx active, s.store.node.contexts context = some ctx →
    ctx.activeTurn = some active → ∃ id p message, s.process id = some p ∧
      p.launch.message = .sessionTurn message ∧ message.requestId = active.requestId ∧
      answersTo s.store.sent p.launch.number = []
  ends : ∀ id p, s.process id = some p → ∃ t,
    System.Steps (fun t a => Harmless env t a ∧ a.handler = some id) s t ∧ t.process id = none

structure ListenerOk (s : (listener env).State) : Prop where
  sending : SendingOk env s.store ((answering env).crew s)
  turns : TurnsOk s.store.node ((answering env).crew s)

section runs
variable {env} {s t : (listener env).State}

theorem listenerOk_start : ListenerOk env (listening env) where
  sending :=
    { alive := rfl
      fortunate := fun _ _ _ there => by cases there
      own := fun _ _ _ there => by cases there
      single := fun _ _ _ _ _ _ there => by cases there
      past := fun _ mem => by cases mem
      sent := fun _ _ _ there => by cases there
      fits := fun _ _ _ _ there => by cases there
      settled := fun _ _ is => by cases is }
  turns :=
    { fresh := fun _ _ => rfl
      held := fun _ _ _ is => by cases is
      holder := fun _ _ _ _ there => by cases there
      sole := fun _ _ _ _ _ _ _ there => by cases there }

/-- No turn is active when its handler has come to an end. -/
theorem not_holding {l : Received} {g : Stage} {outcome : Except Thrown Unit} {context : Nat}
    (fortunate : g.doomed = false) (ended : HandlerEnds env l outcome g) :
    g.phase ≠ .holding context := by
  intro holding
  cases outcome with
  | error thrown =>
    have doomed : g.doomed = true := ended
    rw [fortunate] at doomed
    cases doomed
  | ok value =>
    unfold HandlerEnds at ended
    dsimp only at ended
    split at ended
    · obtain ⟨answer, phase⟩ := ended
      rw [holding] at phase
      cases phase
    · rw [holding] at ended
      cases ended

theorem listenerOk_step {a : (listener env).Action} (all : (answering env).AllFollow s)
    (ok : ListenerOk env s) (harmless : Harmless env s a) (stepped : System.Stepped s a t) :
    ListenerOk env t := by
  obtain ⟨sending, turns⟩ := ok
  have happened := Certified.happened all stepped
  suffices both : SendingOk env t.store ((answering env).crew t) ∧
      TurnsOk t.store.node ((answering env).crew t) from ⟨both.1, both.2⟩
  generalize (answering env).crew t = crew at happened ⊢
  generalize t.store = store at happened ⊢
  cases happened with
  | launch free launched =>
    rename_i id l
    obtain ⟨⟨-, next⟩, is⟩ := Option.ite_none_right_eq_some.mp launched
    obtain rfl := Option.some.inj is
    refine ⟨sendingOk_launch sending free next, turns.idle (fun l' g context there _ => ?_)
      fun l' g context is holding => ?_⟩
    · rw [free] at there
      cases there
    · cases is
      cases holding
  | call here issues permitted performed =>
    rename_i id choice l g op reply
    have fine := harmless_call harmless issues performed
    refine ⟨?_, turns.call here permitted performed⟩
    rw [perform_state env performed]
    exact sendingOk_call sending here permitted fine
  | loop => exact ⟨sending, turns⟩
  | finish here ended =>
    rename_i id l g outcome
    refine ⟨sendingOk_finish sending here ended, ?_⟩
    have through : TurnsOk s.store.node
        (Function.update ((answering env).crew s) id none) := by
      refine turns.idle (fun l' g' context there holding => ?_) fun _ _ _ is => by cases is
      rw [here] at there
      cases there
      exact not_holding (sending.fortunate id l g here) ended holding
    cases outcome <;> exact through
  | tick ticked => rename_i none_; cases none_

theorem listenerOk_run (run : System.Steps (Harmless env) (listening env) s) :
    (answering env).AllFollow s ∧ ListenerOk env s :=
  (answering env).invariant (ListenerOk env) (fun _ => rfl) listenerOk_start
    (fun _ _ _ all ok harmless stepped => listenerOk_step all ok harmless stepped) run

/-- A way for an operation to turn out that does no harm. -/
theorem perform_possible (op : ListenerOp) {agent : Agent} (alive : agent.terminated = false)
    (blank : Bool) : ∃ choice reply agent', performListener env op agent choice =
      some (reply, agent') ∧ fatal env blank op reply = false := by
  unfold performListener
  simp only [alive]
  cases op with
  | ensureWorkspaceExtracted incoming => exact ⟨.task (.ok ()), _, _, rfl, rfl⟩
  | snapshotAndUploadWorkspace incoming =>
    exact ⟨.task (.error { message := none }), _, _, rfl, Bool.and_false _⟩
  | executeShellTask incoming call => exact ⟨.shell (.ok (.succeeded .null)), _, _, rfl, rfl⟩
  | executeAction incoming call => exact ⟨.action (.ok (.succeeded .null)), _, _, rfl, rfl⟩
  | runLlmInference input => exact ⟨.inferred (.ok (.ok "")), _, _, rfl, rfl⟩
  | runCliCommand input args => exact ⟨.child .notFound, _, _, rfl, rfl⟩
  | mkdir message => exact ⟨.task (.ok ()), _, _, rfl, rfl⟩
  | sync manager => exact ⟨.task (.ok ()), _, _, rfl, rfl⟩
  | search manager query => exact ⟨.task (.ok ()), _, _, rfl, rfl⟩
  | setSession message => exact ⟨.none, _, _, rfl, rfl⟩
  | getSession sessionId => exact ⟨.none, _, _, rfl, rfl⟩
  | beginTurn message => exact ⟨.none, _, _, rfl, rfl⟩
  | endTurn context requestId answer => exact ⟨.none, _, _, rfl, rfl⟩
  | abortTurn message => exact ⟨.none, _, _, rfl, rfl⟩
  | send number answer => exact ⟨.none, _, _, rfl, rfl⟩

/-- A handler left to itself comes to its end. -/
theorem handler_ends {id : Nat} {l : Received} {history : List (Event ListenerOps)}
    {program : Program ListenerOps (Empty ⊕ Except Thrown Unit)}
    (alive : s.store.terminated = false)
    (here : s.process id = some { launch := l, history, program }) : ∃ t,
      System.Steps (fun t a => Harmless env t a ∧ a.handler = some id) s t ∧
        t.process id = none := by
  induction program generalizing s history with
  | done value =>
    cases value with
    | inl loop => cases loop
    | inr outcome =>
      have stepped : System.step s (.finish id) =
          some (s.update ((listener env).finish l outcome s.store) id none) := by
        simp only [System.step, here]
      have harmless : Harmless env s (.finish id) := rfl
      exact ⟨_, System.Steps.refl.tail ⟨harmless, rfl⟩ stepped,
        System.State.update_process_self ..⟩
  | call op next ih =>
    have issues (choice : ListenerChoice) : (answering env).issued s (.call id choice) = some
        ((answering env).view { launch := l, history, program := .call op next }, op) := by
      simp only [Certified.issued, here]
      rfl
    obtain ⟨choice, reply, agent, performed, fine⟩ := perform_possible op alive
      ((answering env).view { launch := l, history, program := .call op next }).blank
    have harmless : Harmless env s (.call id choice) := by
      unfold Harmless harmful
      dsimp only
      rw [issues]
      dsimp only
      rw [performed]
      exact fine
    have stepped : System.step s (.call id choice) = some (s.update agent id
        (some { launch := l, history := history ++ [⟨op, reply⟩], program := next reply })) := by
      simp only [System.step, here, Option.bind_some, System.Process.step]
      rw [performed]
      rfl
    have alive' : agent.terminated = false := by
      rw [perform_state env performed, (agentAfter_received env s.store op).2.1]
      exact alive
    obtain ⟨t, rest, gone⟩ := ih reply (s := s.update agent id _) alive'
      (System.State.update_process_self ..)
    exact ⟨t, (System.Steps.refl.tail ⟨harmless, rfl⟩ stepped).trans rest, gone⟩

theorem given_length (g : Stage) : g.given.length ≤ 1 := by
  unfold Stage.given
  split
  · exact Nat.le_refl 1
  · exact Nat.zero_le 1

theorem settled_length {sent : List (Nat × Answer)} {number : Nat} {message : Incoming}
    (settled : Settled env sent number message) : (answersTo sent number).length ≤ 1 := by
  unfold Settled at settled
  split at settled
  · obtain ⟨answer, is, -⟩ := settled
    rw [is]
    exact Nat.le_refl 1
  · rw [settled]
    exact Nat.zero_le 1

theorem sendingOk_once {agent : Agent} {crew : Crew} (ok : SendingOk env agent crew)
    (number : Nat) : (answersTo agent.sent number).length ≤ 1 := by
  by_cases running : ∃ id l g, crew id = some (l, g) ∧ l.number = number
  · obtain ⟨id, l, g, here, rfl⟩ := running
    rw [ok.sent id l g here]
    exact given_length g
  · cases is : agent.received[number]? with
    | some message =>
      refine settled_length (ok.settled number message is fun id l g here same => ?_)
      exact running ⟨id, l, g, here, same⟩
    | none =>
      have beyond := List.getElem?_eq_none_iff.mp is
      rw [answersTo_none fun entry mem same => ?_]
      · exact Nat.zero_le 1
      · have small := ok.past entry mem
        omega

/-- Where no engine throws in a turn and no error lacks the text of an answer, every message is
answered once and the process goes on. -/
theorem answered_once (run : System.Steps (Harmless env) (listening env) s) :
    AnsweredOnce env s := by
  obtain ⟨all, sending, turns⟩ := listenerOk_run run
  have member {id : Nat} {l : Received} {g : Stage}
      (here : (answering env).crew s id = some (l, g)) : ∃ p, s.process id = some p ∧
        p.launch = l := by
    obtain ⟨p, is, same⟩ := Option.map_eq_some_iff.mp here
    exact ⟨p, is, (Prod.mk.inj same).1⟩
  refine ⟨sending.alive, sendingOk_once sending, fun number message is gone => ?_,
    fun context ctx active there turn => ?_, fun id p here => handler_ends sending.alive here⟩
  · refine sending.settled number message is fun id l g here => ?_
    obtain ⟨p, is, rfl⟩ := member here
    exact gone id p is
  · obtain ⟨id, l, g, message, here, holding, own, same⟩ := turns.held context ctx active there turn
    obtain ⟨p, is, rfl⟩ := member here
    refine ⟨id, p, message, is, ?_, same, ?_⟩
    · rw [← (sending.own id _ g here).2.2]
      exact own
    · rw [sending.sent id _ g here, Stage.given, holding]

end runs

/-! ### A session with one turn -/

namespace Sample

def agentEnv : AgentEnv where
  host :=
    { stringify := fun _ => "", parse := fun _ => none, slice := fun text _ => text
      asText := fun _ => "", isUuid := fun _ => true, validates := fun _ _ => some true }
  isUrl _ := true
  stringifyIndented _ := ""
  resolveEngineCommand _ := "codex"
  ephemeralDir _ := "/tmp"

def uuid : String := "00000000-0000-4000-8000-000000000000"

def openMessage : Incoming := .sessionOpen
  { requestId := "turn:open", organizationId := uuid, sessionId := uuid, sessionKey := "main"
    routedAgentId := "agent", userId := uuid
    engine := { id := "gateway.codex.v2", model := none, authMode := .env, runtimeBaseUrl := none
                apiKey := none }
    system := none, instructions := "Help", toolsAllow := []
    limits := { maxTurns := 8, maxToolCalls := 20, timeoutMs := 60000, maxOutputChars := 100000
                maxRuntimeChars := 300000 }
    memoryProvider := .builtin }

def turnMessage : Incoming := .sessionTurn
  { requestId := "turn", organizationId := uuid, sessionId := uuid, sessionKey := "main"
    userId := uuid, eventSeq := 1, message := "Hello", attachments := none }

/-- A session is opened and has a turn, whose engine ends so. -/
def turnWith (child : Child) : List (listener agentEnv).Action :=
  [.launch 0 ⟨0, openMessage⟩, .call 0 (.task (.ok ())), .call 0 .none, .call 0 .none, .finish 0,
    .launch 1 ⟨1, turnMessage⟩, .call 1 .none, .call 1 (.child child), .call 1 .none]

end Sample

open Sample in
/-- Both messages are answered. -/
theorem answered_once_turn : ∃ s, System.Steps (Harmless agentEnv) (listening agentEnv) s ∧
    s.store.sent.length = 2 ∧ AnsweredOnce agentEnv s := by
  have ran : (System.exec (Harmless agentEnv) (listening agentEnv)
      (turnWith (.exited (some 0) false "Hi" "") ++ [.call 1 .none, .finish 1])).any
        (fun s => s.store.sent.length = 2) = true := by
    decide +kernel
  obtain ⟨s, is, both⟩ := (Option.any_eq_true _ _).mp ran
  have run := System.steps_of_exec is
  exact ⟨s, run, by simpa using both, answered_once run⟩

open Sample in
/-- A command that cannot be started ends the process, and its turn has no answer. -/
theorem turn_ends_process : ¬∀ (env : AgentEnv) (s : (listener env).State),
    System.Steps (fun _ _ => True) (listening env) s → AnsweredOnce env s := by
  intro answered
  have ran : (System.exec (fun _ _ => True) (listening agentEnv)
      (turnWith (.errored { message := some "spawn codex EACCES" }) ++ [.finish 1])).any
        (fun s => s.store.terminated) = true := by
    decide +kernel
  obtain ⟨s, is, ended⟩ := (Option.any_eq_true _ _).mp ran
  have alive := (answered agentEnv s (System.steps_of_exec is)).alive
  rw [ended] at alive
  cases alive

end Vespid.NodeAgent.Listener
