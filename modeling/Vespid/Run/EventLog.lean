import Vespid.Lib.Recording
import Vespid.Run.System
import Mathlib.Tactic.MkIffOfInductiveProp

/-!
# The event log of a run

The handlers of a run write its event log and ask the executors and the gateway to do its nodes. In
what they write and ask, in the order they do it, every entry has its reason before it: an attempt
is started, a node of it is started, then executed or dispatched, and only then over.
-/

namespace Vespid.Run.EventLog

open Interleaving Worker Workflow

/-- What a handler writes to the event log, and what it has done outside. -/
inductive Entry where
  | event (event : RunEvent)
  | execute (context : ExecutorContext)
  /-- A request the gateway took. -/
  | dispatch (request : GatewayDispatchRequest)

def entryOf : (op : RunOp) → op.Reply → Option Entry
  | .appendWorkflowRunEvent event, _ => some (.event event)
  | .execute context, _ => some (.execute context)
  | .dispatchViaGatewayAsync request, .ok _ => some (.dispatch request)
  | _, _ => none

/-- The system of a run, with its log. -/
def loggedSystem (env : RunEnv) : System RunOps := (runSystem env).recording entryOf

def loggedStart (env : RunEnv) (now : Int) : (loggedSystem env).State :=
  { store := (.created env.run.maxAttempts now, []), process := fun _ => none }

/-! ### The reasons of an entry -/

/-- What a log, or what a handler has done and read, may tell. -/
inductive Fact where
  | entry (entry : Entry)
  /-- The attempt was started. -/
  | attempt (attemptCount : Nat)
  /-- The run came to wait for a node. -/
  | waited

/-- The event that starts an attempt. -/
def RunStarted (attemptCount : Nat) (event : RunEvent) : Prop :=
  event.eventType = "run_started" ∧ event.attemptCount = attemptCount

/-- The event with which the run comes to wait for a node. -/
def Waits (event : RunEvent) : Prop :=
  event.eventType = "node_dispatched" ∨ event.eventType = "approval_requested"

def Tells (log : List Entry) : Fact → Prop
  | .entry entry => entry ∈ log
  | .attempt attemptCount => ∃ event, .event event ∈ log ∧ RunStarted attemptCount event
  | .waited => ∃ event, .event event ∈ log ∧ Waits event

/-- The event with which a node is started. -/
def nodeStarted (attemptCount : Nat) (nodeId : Option String) (nodeType : Option NodeType) :
    Entry :=
  .event { attemptCount, eventType := "node_started", level := .info, nodeId, nodeType,
           message := none }

/-- The reasons of an event, where `known` tells what was before. -/
@[mk_iff]
structure EventFounded (known : Fact → Prop) (event : RunEvent) : Prop where
  /-- The attempt was started, unless this is its start, or it cannot start. -/
  attempt : event.eventType = "run_started" ∨ event.message = some "WORKFLOW_NOT_PUBLISHED" ∨
    known (.attempt event.attemptCount)
  /-- A node that is over, dispatched, denied or waits for an approval was started. -/
  node : event.eventType ∈
      ["node_succeeded", "node_dispatched", "policy_denied", "approval_requested"] →
    known (.entry (nodeStarted event.attemptCount event.nodeId event.nodeType))
  /-- A node fails after its start, or when the run waited for it. -/
  failed : event.eventType = "node_failed" →
    known (.entry (nodeStarted event.attemptCount event.nodeId event.nodeType)) ∨ known .waited
  /-- A node that succeeded was executed, unless the loop computes it itself. -/
  executed : event.eventType = "node_succeeded" →
    event.nodeType ∈ [some .condition, some .parallelJoin] ∨
      ∃ context, known (.entry (.execute context)) ∧ context.attemptCount = event.attemptCount ∧
        some context.nodeId = event.nodeId ∧ some context.nodeType = event.nodeType
  /-- The gateway took the request of a dispatched node. -/
  dispatched : event.eventType = "node_dispatched" →
    ∃ request, known (.entry (.dispatch request)) ∧ request.attemptCount = event.attemptCount ∧
      some request.nodeType = event.nodeType
  /-- Results and decisions come when the run waited for them. -/
  waited : event.eventType ∈
      ["remote_event", "remote_result_received", "approval_approved", "approval_rejected"] →
    known .waited

/-- The reasons of an entry. -/
def Founded (known : Fact → Prop) : Entry → Prop
  | .event event => EventFounded known event
  | .execute context => known (.attempt context.attemptCount) ∧
      known (.entry (nodeStarted context.attemptCount (some context.nodeId)
        (some context.nodeType)))
  | .dispatch request => known (.attempt request.attemptCount) ∧
      ∃ nodeId, known (.entry (nodeStarted request.attemptCount (some nodeId)
        (some request.nodeType)))

theorem founded_mono {known more : Fact → Prop} (grows : ∀ fact, known fact → more fact)
    {entry : Entry} (founded : Founded known entry) : Founded more entry := by
  cases entry with
  | event event =>
    obtain ⟨attempt, node, failed, executed, dispatched, waited⟩ := founded
    refine ⟨?_, fun is => grows _ (node is), fun is => ?_, fun is => ?_, fun is => ?_,
      fun is => grows _ (waited is)⟩
    · rcases attempt with start | unpublished | known
      · exact .inl start
      · exact .inr (.inl unpublished)
      · exact .inr (.inr (grows _ known))
    · exact (failed is).imp (grows _) (grows _)
    · refine (executed is).imp_right ?_
      rintro ⟨context, known, same⟩
      exact ⟨context, grows _ known, same⟩
    · obtain ⟨request, known, same⟩ := dispatched is
      exact ⟨request, grows _ known, same⟩
  | execute context => exact ⟨grows _ founded.1, grows _ founded.2⟩
  | dispatch request =>
    obtain ⟨attempt, nodeId, started⟩ := founded
    exact ⟨grows _ attempt, nodeId, grows _ started⟩

theorem tells_append {log : List Entry} (more : List Entry) {fact : Fact} (tells : Tells log fact) :
    Tells (log ++ more) fact := by
  cases fact with
  | entry entry => exact List.mem_append_left _ tells
  | attempt attemptCount =>
    obtain ⟨event, mem, started⟩ := tells
    exact ⟨event, List.mem_append_left _ mem, started⟩
  | waited =>
    obtain ⟨event, mem, waits⟩ := tells
    exact ⟨event, List.mem_append_left _ mem, waits⟩

/-! ### What a handler learns -/

/-- What the row tells of a run that was read. -/
def runFacts (run : WorkflowRun) : List Fact :=
  (if run.status = .running then [.attempt run.attemptCount, .attempt (max 1 run.attemptCount)]
    else []) ++ if run.blocked.isSome then [.waited] else []

/-- What the reply to an operation tells its handler. -/
def facts : (op : RunOp) → op.Reply → List Fact
  | .appendWorkflowRunEvent event, _ =>
    .entry (.event event) ::
      if event.eventType = "run_started" then [.attempt event.attemptCount] else []
  | .execute context, _ => [.entry (.execute context)]
  | .dispatchViaGatewayAsync request, .ok _ => [.entry (.dispatch request)]
  | .getWorkflowRunById, some run | .getWorkflowRunByBlockedRequestId _, some run => runFacts run
  | _, _ => []

/-- What a handler must know before an operation. -/
def permits (known : List Fact) : RunOp → Prop
  | .appendWorkflowRunEvent event => EventFounded (· ∈ known) event
  | .execute context => Founded (· ∈ known) (.execute context)
  | .dispatchViaGatewayAsync request => Founded (· ∈ known) (.dispatch request)
  | .markWorkflowRunRunning attemptCount => 1 ≤ attemptCount ∧ .attempt attemptCount ∈ known
  | .markWorkflowRunBlocked .. => ∃ event, .entry (.event event) ∈ known ∧ Waits event
  | _ => True

/-- A run found by the request it is blocked on is running and blocked. -/
def expects : (op : RunOp) → op.Reply → Prop
  | .getWorkflowRunByBlockedRequestId _, run =>
    ∀ found, run = some found → found.status = .running ∧ found.blocked.isSome = true
  | _, _ => True

/-- The protocol of the log. -/
def logProtocol : Protocol RunOps (List Fact) where
  permits := permits
  expects := expects
  observe known op reply := known ++ facts op reply

@[simp] theorem logProtocol_permits (known : List Fact) (op : RunOp) :
    logProtocol.permits known op = permits known op := rfl

@[simp] theorem logProtocol_observe (known : List Fact) (op : RunOp) (reply : op.Reply) :
    logProtocol.observe known op reply = known ++ facts op reply := rfl

/-! ### The run job -/

section job
variable {env : RunEnv} {d : Delivery} {known : List Fact}

/-- The attempt is known to be started. -/
def Underway {β : Type} (attemptCount : Nat) (_ : β) (known : List Fact) : Prop :=
  .attempt attemptCount ∈ known

theorem failAttempt_logs {attemptCount : Nat} (underway : .attempt attemptCount ∈ known)
    (message : String) :
    (failAttempt env attemptCount message).wp logProtocol (Underway attemptCount) known := by
  unfold failAttempt
  split <;> simp [appendEvent, permits, facts, eventFounded_iff, Underway, underway]

theorem requestApproval_logs (underway : .attempt d.attemptCount ∈ known) (p : Progress)
    (node : WorkflowNode) (reason : String) (cursor : Nat)
    (started : .entry (nodeStarted d.attemptCount (some node.id) (some node.type)) ∈ known) :
    (requestApproval env d p node reason cursor).wp logProtocol (Underway d.attemptCount)
      known := by
  simp only [requestApproval, ask, Program.issue_eq, Program.call_bind, Program.done_bind,
    Program.wp_call, logProtocol_permits, logProtocol_observe]
  refine ⟨trivial, fun now _ => ⟨trivial, fun approval _ => ?_⟩⟩
  cases approval with
  | none => simp [facts, Underway, underway]
  | some approval =>
    simp [appendNodeEvent, appendEvent, permits, facts, eventFounded_iff, Underway, Waits, underway,
      started]

theorem dispatchBlocked_logs (underway : .attempt d.attemptCount ∈ known) (p : Progress)
    (node : WorkflowNode) (block : NodeBlock) (cursor : Nat)
    (started : .entry (nodeStarted d.attemptCount (some node.id) (some node.type)) ∈ known) :
    (dispatchBlocked env d p node block cursor).wp logProtocol (Underway d.attemptCount) known := by
  simp only [dispatchBlocked, ask, Program.issue_eq, Program.call_bind, Program.done_bind,
    Program.wp_call, logProtocol_permits, logProtocol_observe]
  refine ⟨⟨underway, node.id, started⟩, fun dispatched _ => ?_⟩
  cases dispatched with
  | error message => simp [facts, Underway, underway]
  | ok _ =>
    simp [appendNodeEvent, appendEvent, permits, facts, eventFounded_iff, Underway, Waits, underway,
      started]

theorem recordResult_logs (underway : .attempt d.attemptCount ∈ known) (p : Progress)
    (node : WorkflowNode) (result : NodeResult) (cursor : Nat)
    (started : .entry (nodeStarted d.attemptCount (some node.id) (some node.type)) ∈ known)
    (executed : .entry (.execute (executorContext env d p node)) ∈ known) :
    (recordResult env d p node result cursor).wp logProtocol (Underway d.attemptCount) known := by
  unfold recordResult
  cases result.status with
  | blocked =>
    dsimp only
    split
    · exact underway
    · split
      · exact underway
      · exact dispatchBlocked_logs underway _ node _ cursor started
  | failed =>
    simp [appendNodeEvent, appendEvent, permits, facts, eventFounded_iff, Underway, underway,
      started]
  | succeeded =>
    have done : ∃ context, .entry (.execute context) ∈ known ∧
        context.attemptCount = d.attemptCount ∧ context.nodeId = node.id ∧
        context.nodeType = node.type := ⟨_, executed, rfl, rfl, rfl⟩
    simp [appendNodeEvent, appendEvent, permits, facts, eventFounded_iff, Underway, underway,
      started, done]

theorem runExecutor_logs (underway : .attempt d.attemptCount ∈ known) (p : Progress)
    (node : WorkflowNode) (cursor : Nat)
    (started : .entry (nodeStarted d.attemptCount (some node.id) (some node.type)) ∈ known) :
    (runExecutor env d p node cursor).wp logProtocol (Underway d.attemptCount) known := by
  unfold runExecutor
  split
  · simp [appendNodeEvent, appendEvent, permits, facts, eventFounded_iff, Underway, underway,
      started]
  · simp only [ask, Program.issue_eq, Program.call_bind, Program.done_bind, Program.wp_call,
      logProtocol_permits, logProtocol_observe]
    refine ⟨⟨underway, started⟩, fun answer _ => ?_⟩
    exact recordResult_logs (List.mem_append_left _ underway) p node _ cursor
      (List.mem_append_left _ started) (List.mem_append_right _ List.mem_cons_self)

theorem executeNode_logs (underway : .attempt d.attemptCount ∈ known) (p : Progress)
    (node : WorkflowNode) (cursor : Nat) :
    (executeNode env d p node cursor).wp logProtocol (Underway d.attemptCount) known := by
  simp only [executeNode, appendNodeEvent, appendEvent, ask, Program.issue_eq, Program.call_bind,
    Program.done_bind, Program.wp_call, logProtocol_permits, logProtocol_observe]
  refine ⟨by simp [permits, eventFounded_iff, underway], fun _ _ => ?_⟩
  generalize now : known ++ facts _ _ = known'
  have underway' : .attempt d.attemptCount ∈ known' := by simp [← now, underway]
  have started : .entry (nodeStarted d.attemptCount (some node.id) (some node.type)) ∈ known' := by
    simp [← now, facts, nodeStarted]
  cases (evaluateNodePolicy (buildNodePolicyContext node) d.policyRules).decision with
  | allow => exact runExecutor_logs underway' p node cursor started
  | deny => simp [permits, facts, eventFounded_iff, Underway, underway', started]
  | requireApproval =>
    simp only [Program.wp_call, logProtocol_permits, logProtocol_observe]
    refine ⟨trivial, fun hasApproval _ => ?_⟩
    split
    · exact runExecutor_logs (List.mem_append_left _ underway') p node cursor
        (List.mem_append_left _ started)
    · exact requestApproval_logs (List.mem_append_left _ underway') p node _ cursor
        (List.mem_append_left _ started)

theorem succeedAttempt_logs (underway : .attempt d.attemptCount ∈ known) (p : Progress) :
    (succeedAttempt d p).wp logProtocol (Underway d.attemptCount) known := by
  simp [succeedAttempt, appendEvent, permits, facts, eventFounded_iff, Underway, underway]

theorem appendSkipped_logs (underway : .attempt d.attemptCount ∈ known) (dsl : WorkflowDslV3)
    (nodeIds : List String) :
    (appendSkipped d dsl nodeIds).wp logProtocol (Underway d.attemptCount) known := by
  induction nodeIds generalizing known with
  | nil => exact underway
  | cons nodeId rest ih =>
    unfold appendSkipped
    cases dsl.node? nodeId with
    | none => exact ih underway
    | some node =>
      simp only [appendEvent, ask, Program.issue_eq, Program.call_bind, Program.done_bind,
        Program.wp_call, logProtocol_permits, logProtocol_observe]
      exact ⟨by simp [permits, eventFounded_iff, underway],
        fun _ _ => ih (List.mem_append_left _ underway)⟩

theorem finishGraph_logs (underway : .attempt d.attemptCount ∈ known) (dsl : WorkflowDslV3)
    (m : StepMap) (p : Progress) :
    (finishGraph env d dsl m p).wp logProtocol (Underway d.attemptCount) known := by
  unfold finishGraph
  exact Program.wp_seq (appendSkipped_logs underway dsl _) fun _ _ underway =>
    succeedAttempt_logs underway _

/-- Between the iterations of a loop its attempt is known to be started. -/
def AtLoop (v : NodeLoop ⊕ Outcome) (known : List Fact) : Prop :=
  match v with
  | .inl (.v2 d _ _ _) | .inl (.v3 d _ _ _) => .attempt d.attemptCount ∈ known
  | .inr _ => True

theorem ended_logs {q : RunProgram Outcome} {attemptCount : Nat}
    (logs : q.wp logProtocol (Underway attemptCount) known) :
    (q >>= fun o => Program.done (Sum.inr o)).wp logProtocol AtLoop known :=
  Program.wp_seq logs fun _ _ _ => trivial

theorem checkpointGraph_logs (underway : .attempt d.attemptCount ∈ known) (dsl : WorkflowDslV3)
    (m : StepMap) (p : Progress) :
    (checkpointGraph env dsl m p).wp logProtocol (Underway d.attemptCount) known := by
  simp [checkpointGraph, permits, Underway, underway]

theorem recordStep_logs (underway : .attempt d.attemptCount ∈ known) (dsl : WorkflowDslV3)
    (m : StepMap) (p : Progress) (node : WorkflowNode) (output : Json)
    (computed : node.type = .condition ∨ node.type = .parallelJoin) :
    (recordStep env d dsl m p node output).wp logProtocol AtLoop known := by
  simp only [recordStep, appendNodeEvent, appendEvent, ask, Program.issue_eq, Program.call_bind,
    Program.done_bind, Program.wp_call, logProtocol_permits, logProtocol_observe]
  refine ⟨by simp [permits, eventFounded_iff, underway], fun _ _ => ⟨?_, fun _ _ => ?_⟩⟩
  · simp [permits, facts, eventFounded_iff, nodeStarted, underway, computed]
  · refine Program.wp_seq (checkpointGraph_logs (d := d) (by simp [underway]) dsl _ _) ?_
    exact fun _ _ underway => underway

theorem graphIteration_logs (underway : .attempt d.attemptCount ∈ known) (dsl : WorkflowDslV3)
    (m : StepMap) (p : Progress) :
    (graphIteration env d dsl m p).wp logProtocol AtLoop known := by
  have executed (node : WorkflowNode) : (executeNode env d p node 0 >>= afterNode env d dsl m).wp
      logProtocol AtLoop known := by
    refine Program.wp_seq (executeNode_logs underway p node 0) ?_
    intro outcome known underway
    cases outcome with
    | blocked => exact trivial
    | threw message => exact ended_logs (failAttempt_logs underway message)
    | finished p =>
      exact Program.wp_seq (checkpointGraph_logs underway dsl _ _) fun _ _ underway => underway
  unfold graphIteration
  split
  · exact ended_logs (finishGraph_logs underway dsl m p)
  · split
    · simp only [appendNodeEvent, appendEvent, ask, Program.issue_eq, Program.call_bind,
        Program.done_bind, Program.wp_call, logProtocol_permits, logProtocol_observe]
      refine ⟨by simp [permits, eventFounded_iff, underway], fun _ _ => ⟨?_, fun _ _ => ?_⟩⟩
      · simp [permits, facts, eventFounded_iff, nodeStarted, underway]
      · exact ended_logs (failAttempt_logs (by simp [underway]) _)
    · exact recordStep_logs underway dsl m p _ _ (.inl rfl)
    · exact recordStep_logs underway dsl m p _ _ (.inr rfl)
    · exact executed _

theorem listIteration_logs (underway : .attempt d.attemptCount ∈ known)
    (nodes : List WorkflowNode) (index : Nat) (p : Progress) :
    (listIteration env d nodes index p).wp logProtocol AtLoop known := by
  unfold listIteration
  split
  · exact ended_logs (succeedAttempt_logs underway p)
  · refine Program.wp_seq (executeNode_logs underway p _ index) ?_
    intro outcome known underway
    cases outcome with
    | blocked => exact trivial
    | threw message => exact ended_logs (failAttempt_logs underway message)
    | finished p => exact ⟨trivial, fun _ _ => List.mem_append_left _ underway⟩

theorem runJobIteration_logs {loop : NodeLoop} (at_loop : AtLoop (.inl loop) known) :
    (runJobIteration env loop).wp logProtocol AtLoop known := by
  cases loop with
  | v2 d nodes index p => exact listIteration_logs at_loop nodes index p
  | v3 d dsl m p => exact graphIteration_logs at_loop dsl m p

theorem startLoop_logs (underway : .attempt d.attemptCount ∈ known) (cursor : Nat) (p : Progress)
    (dsl : Option WorkflowDslAny) :
    (startLoop env d cursor p dsl).wp logProtocol AtLoop known := by
  unfold startLoop
  split
  · exact ended_logs (failAttempt_logs underway _)
  · exact underway
  · split
    · exact ended_logs (failAttempt_logs underway _)
    · exact underway

/-- A run that is running tells of its attempt. -/
theorem runAttempt_logs (run : WorkflowRun) (live : run.status = .queued ∨ run.status = .running)
    (told : run.status = .running → .attempt (max 1 run.attemptCount) ∈ known) :
    (runAttempt env run).wp logProtocol AtLoop known := by
  simp only [runAttempt, ask, Program.issue_eq, Program.call_bind, Program.done_bind,
    Program.wp_call, logProtocol_permits, logProtocol_observe]
  refine ⟨trivial, fun settings _ => ⟨trivial, fun rules _ => ⟨trivial, fun workflow _ => ?_⟩⟩⟩
  cases workflow with
  | none => exact trivial
  | some workflow =>
    dsimp only
    split
    · simp [appendEvent, permits, eventFounded_iff, AtLoop]
    · rcases live with queued | running
      · simp only [queued, ↓reduceIte, appendEvent, ask, Program.issue_eq, Program.call_bind,
          Program.done_bind, Program.wp_call, logProtocol_permits, logProtocol_observe]
        refine ⟨by simp [permits, eventFounded_iff], fun _ _ => ⟨?_, fun started _ => ?_⟩⟩
        · exact ⟨by omega, by simp [facts, queued]⟩
        · cases started with
          | none => exact trivial
          | some _ => exact startLoop_logs (by simp [facts, queued]) _ _ _
      · simp only [running, reduceCtorEq, ↓reduceIte]
        exact startLoop_logs (by simp [facts, told running]) _ _ _

theorem processWorkflowRunJob_logs : (processWorkflowRunJob env).wp logProtocol AtLoop [] := by
  simp only [processWorkflowRunJob, ask, Program.issue_eq, Program.call_bind, Program.done_bind,
    Program.wp_call, logProtocol_permits, logProtocol_observe]
  refine ⟨trivial, fun run _ => ?_⟩
  cases run with
  | none => exact trivial
  | some run =>
    dsimp only
    cases status : run.status with
    | succeeded => exact trivial
    | failed => exact trivial
    | queued => exact runAttempt_logs run (.inl status) (by simp [status])
    | running =>
      dsimp only
      split
      · exact trivial
      · exact runAttempt_logs run (.inr status) fun _ => by simp [facts, runFacts, status]

end job

/-! ### Continuations and decisions -/

section others
variable {env : RunEnv} {known : List Fact} (payload : ContinuationPayload)

theorem applyRemoteFailure_logs (underway : .attempt payload.attemptCount ∈ known)
    (waited : .waited ∈ known) (node : WorkflowNode) (message : String) :
    (applyRemoteFailure env payload node message).wp logProtocol (fun _ _ => True) known := by
  simp only [applyRemoteFailure, appendContinuationEvent, ask, Program.issue_eq, Program.call_bind,
    Program.done_bind, Program.wp_call, logProtocol_permits, logProtocol_observe]
  refine ⟨trivial, fun _ _ => ⟨?_, fun _ _ => ?_⟩⟩
  · simp [permits, eventFounded_iff, underway, waited]
  · split <;> simp [permits, eventFounded_iff, enqueue, underway]

theorem applyRemoteResult_logs (underway : .attempt payload.attemptCount ∈ known)
    (waited : .waited ∈ known) (run : WorkflowRun) (node : WorkflowNode)
    (result : GatewayDispatchResponse) :
    (applyRemoteResult env payload run node result).wp logProtocol (fun _ _ => True) known := by
  unfold applyRemoteResult
  cases result.status with
  | failed => exact applyRemoteFailure_logs payload underway waited node _
  | succeeded =>
    simp only [applyRemoteSuccess, appendContinuationEvent, ask, Program.issue_eq,
      Program.call_bind, Program.done_bind, Program.wp_call, logProtocol_permits,
      logProtocol_observe]
    refine ⟨by simp [permits, eventFounded_iff, underway, waited], fun _ _ => ⟨trivial, ?_⟩⟩
    intro cleared _
    cases cleared <;> simp [permits, enqueue]

theorem processBlocked_logs (underway : .attempt payload.attemptCount ∈ known)
    (waited : .waited ∈ known) (run : WorkflowRun) (node : WorkflowNode) :
    (processBlocked env payload run node).wp logProtocol (fun _ _ => True) known := by
  unfold processBlocked
  cases payload.kind with
  | event level kind =>
    simp [appendContinuationEvent, permits, eventFounded_iff, underway, waited]
  | apply result =>
    exact Program.wp_seq (applyRemoteResult_logs payload underway waited run node result)
      fun _ _ _ => trivial
  | poll =>
    simp only [ask, Program.issue_eq, Program.call_bind, Program.done_bind, Program.wp_call,
      logProtocol_permits, logProtocol_observe]
    refine ⟨trivial, fun now _ => ?_⟩
    split
    · refine Program.wp_seq (applyRemoteFailure_logs payload ?_ ?_ node _) fun _ _ _ => trivial
      · exact List.mem_append_left _ underway
      · exact List.mem_append_left _ waited
    · simp only [Program.wp_call, logProtocol_permits, logProtocol_observe]
      refine ⟨trivial, fun fetched _ => ?_⟩
      have underway' := List.mem_append_left (facts (.fetchGatewayResult (payload.requestId env))
        fetched) (List.mem_append_left (facts .dateNow now) underway)
      have waited' := List.mem_append_left (facts (.fetchGatewayResult (payload.requestId env))
        fetched) (List.mem_append_left (facts .dateNow now) waited)
      split
      · exact Program.wp_seq (applyRemoteFailure_logs payload underway' waited' node _)
          fun _ _ _ => trivial
      · exact trivial
      · exact Program.wp_seq (applyRemoteResult_logs payload underway' waited' run node _)
          fun _ _ _ => trivial

/-- A run that is running and blocked tells of its attempt and that it waited. -/
theorem mem_runFacts {run : WorkflowRun} (running : run.status = .running)
    (blocked : run.blocked.isSome = true) : .attempt run.attemptCount ∈ runFacts run ∧
      .attempt (max 1 run.attemptCount) ∈ runFacts run ∧ .waited ∈ runFacts run := by
  simp [runFacts, running, blocked]

theorem isSome_blocked {run : WorkflowRun} {requestId : String}
    (blocked : run.blockedRequestId = some requestId) : run.blocked.isSome = true := by
  cases here : run.blocked with
  | none => simp [WorkflowRun.blockedRequestId, here] at blocked
  | some block => rfl

theorem processContinuationPayload_logs :
    (processContinuationPayload env payload).wp logProtocol (fun _ _ => True) [] := by
  simp only [processContinuationPayload, ask, Program.issue_eq, Program.call_bind,
    Program.done_bind, Program.wp_call, logProtocol_permits, logProtocol_observe]
  refine ⟨trivial, fun run _ => ?_⟩
  cases run with
  | none => exact trivial
  | some run =>
    dsimp only
    split
    · exact trivial
    · split
      · exact trivial
      · split
        · exact trivial
        · rename_i running blocked same
          obtain ⟨underway, -, waited⟩ := mem_runFacts (not_not.mp running)
            (isSome_blocked (not_not.mp blocked))
          rw [not_not.mp same] at underway
          simp only [Program.wp_call, logProtocol_permits, logProtocol_observe]
          refine ⟨trivial, fun workflow _ => ?_⟩
          cases workflow with
          | none => exact trivial
          | some workflow =>
            dsimp only
            split
            · exact trivial
            · split
              · simp [permits]
              · refine processBlocked_logs payload ?_ ?_ run _
                · exact List.mem_append_left _ underway
                · exact List.mem_append_left _ waited

/-- A decision about a run found blocked on the request. -/
theorem appendDecision_founded {run : WorkflowRun} (approval : WorkflowApprovalRequest)
    {eventType : String} (decides : eventType ∈ ["approval_approved", "approval_rejected"])
    (level : EventLevel) (message : String) (underway : .attempt (max 1 run.attemptCount) ∈ known)
    (waited : .waited ∈ known) : EventFounded (· ∈ known)
      { attemptCount := max 1 run.attemptCount, eventType, level, nodeId := some approval.nodeId,
        nodeType := some approval.nodeType,
        message := some (approval.decisionNote.getD message) } := by
  simp only [List.mem_cons, List.not_mem_nil, or_false] at decides
  rcases decides with rfl | rfl <;> simp [eventFounded_iff, underway, waited]

theorem approve_logs (id : Uuid) (note : Option String) :
    (Api.approve env id note).wp logProtocol (fun _ _ => True) [] := by
  simp only [Api.approve, ask, Program.issue_eq, Program.call_bind, Program.done_bind,
    Program.wp_call, logProtocol_permits, logProtocol_observe]
  refine ⟨trivial, fun existing _ => ?_⟩
  cases existing with
  | none => exact trivial
  | some existing =>
    dsimp only
    split
    · exact trivial
    · simp only [Program.wp_call, logProtocol_permits, logProtocol_observe]
      refine ⟨trivial, fun now _ => ?_⟩
      split
      · simp [permits]
      · simp only [Program.wp_call, logProtocol_permits, logProtocol_observe]
        refine ⟨trivial, fun approval _ => ?_⟩
        cases approval with
        | none => exact trivial
        | some approval =>
          simp only [Api.resumeApproved, ask, Program.issue_eq, Program.call_bind,
            Program.done_bind, Program.wp_call, logProtocol_permits, logProtocol_observe]
          refine ⟨trivial, fun run found => ?_⟩
          cases run with
          | none => exact trivial
          | some run =>
            obtain ⟨running, blocked⟩ := found run rfl
            obtain ⟨-, underway, waited⟩ := mem_runFacts running blocked
            simp only [Program.wp_call, logProtocol_permits, logProtocol_observe]
            refine ⟨trivial, fun cleared _ => ?_⟩
            cases cleared with
            | false => exact trivial
            | true =>
              refine ⟨?_, fun _ _ => ⟨trivial, fun _ _ => trivial⟩⟩
              refine appendDecision_founded approval (by simp) _ _ ?_ ?_
              · exact List.mem_append_left _ (List.mem_append_right _ underway)
              · exact List.mem_append_left _ (List.mem_append_right _ waited)

theorem reject_logs (id : Uuid) (note : Option String) :
    (Api.reject id note).wp logProtocol (fun _ _ => True) [] := by
  simp only [Api.reject, ask, Program.issue_eq, Program.call_bind, Program.done_bind,
    Program.wp_call, logProtocol_permits, logProtocol_observe]
  refine ⟨trivial, fun existing _ => ?_⟩
  cases existing with
  | none => exact trivial
  | some existing =>
    dsimp only
    split
    · exact trivial
    · simp only [Program.wp_call, logProtocol_permits, logProtocol_observe]
      refine ⟨trivial, fun approval _ => ?_⟩
      cases approval with
      | none => exact trivial
      | some approval =>
        simp only [Api.failRejected, ask, Program.issue_eq, Program.call_bind, Program.done_bind,
          Program.wp_call, logProtocol_permits, logProtocol_observe]
        refine ⟨trivial, fun run found => ?_⟩
        cases run with
        | none => exact trivial
        | some run =>
          obtain ⟨running, blocked⟩ := found run rfl
          obtain ⟨-, underway, waited⟩ := mem_runFacts running blocked
          refine ⟨trivial, fun cleared _ => ⟨trivial, fun _ _ => ⟨?_, fun _ _ => trivial⟩⟩⟩
          refine appendDecision_founded approval (by simp) _ _ ?_ ?_
          · exact List.mem_append_left _ (List.mem_append_left _
              (List.mem_append_right _ underway))
          · exact List.mem_append_left _ (List.mem_append_left _
              (List.mem_append_right _ waited))

end others

/-! ### Every run -/

theorem performRunOp_knows {op : RunOp} {st st' : RunStore} {choice : Choice} {reply : op.Reply}
    (performed : performRunOp op st choice = some (reply, st')) : expects op reply := by
  cases op with
  | getWorkflowRunByBlockedRequestId requestId =>
    intro found is
    rw [performRunOp_getRunByBlocked performed] at is
    split at is
    · next blocked =>
      obtain rfl := Option.some.inj is
      exact ⟨blocked.2, isSome_blocked blocked.1⟩
    · cases is
  | _ => exact trivial

/-- Handlers that neither loop nor end in a way that matters. -/
theorem other_logs {q : RunProgram Outcome} {known : List Fact}
    (logs : q.wp logProtocol (fun _ _ => True) known) :
    (Sum.inr <$> q : RunProgram (NodeLoop ⊕ Outcome)).wp logProtocol AtLoop known :=
  Program.wp_seq logs fun _ _ _ => trivial

/-- Every handler of a run follows the protocol of the log. -/
def logCertified (env : RunEnv) : Certified (runSystem env) logProtocol where
  start _ := []
  looping _ loop known := AtLoop (.inl loop) known
  ended _ _ _ := True
  entry_follows l := by
    have logs : (handlerEntry env l).wp logProtocol AtLoop [] := by
      cases l with
      | job => exact processWorkflowRunJob_logs
      | redelivery => exact processWorkflowRunJob_logs
      | continuation payload => exact other_logs (processContinuationPayload_logs payload)
      | approve id note => exact other_logs (approve_logs id note)
      | reject id note => exact other_logs (reject_logs id note)
    refine Program.wp_mono ?_ logs
    rintro (loop | o) known at_loop
    · exact at_loop
    · exact trivial
  body_follows _ _ _ at_loop := by
    refine Program.wp_mono ?_ (runJobIteration_logs at_loop)
    rintro (loop | o) known at_loop
    · exact at_loop
    · exact trivial
  replies _ _ _ _ _ performed := performRunOp_knows performed

/-- A running run's attempt is started in the log, and a blocked run came to wait in it. -/
structure RowLogged (row : WorkflowRun) (log : List Entry) : Prop where
  attempt : row.status = .running → 1 ≤ row.attemptCount ∧ Tells log (.attempt row.attemptCount)
  waited : row.blocked.isSome = true → Tells log .waited

section rows
variable {row : WorkflowRun} {log : List Entry}

theorem rowLogged_append (logged : RowLogged row log) (more : List Entry) :
    RowLogged row (log ++ more) where
  attempt running := (logged.attempt running).imp_right (tells_append more)
  waited blocked := tells_append more (logged.waited blocked)

/-- A row that is read tells nothing the log does not. -/
theorem runFacts_told (logged : RowLogged row log) : ∀ fact ∈ runFacts row, Tells log fact := by
  intro fact mem
  rcases List.mem_append.mp mem with ofStatus | ofBlock
  · split at ofStatus
    · next running =>
      obtain ⟨pos, started⟩ := logged.attempt running
      have same : max 1 row.attemptCount = row.attemptCount := by omega
      simp only [same, List.mem_cons, List.not_mem_nil, or_false, or_self] at ofStatus
      rw [ofStatus]
      exact started
    · cases ofStatus
  · split at ofBlock
    · next blocked =>
      rw [List.mem_singleton.mp ofBlock]
      exact logged.waited blocked
    · cases ofBlock

/-- An operation leaves a row as the log tells it. -/
theorem rowLogged_operation {known : List Fact} {op : RunOp} (permitted : permits known op)
    (told : ∀ fact ∈ known, Tells log fact) (logged : RowLogged row log) :
    RowLogged (op.rowAfter row) log := by
  cases op with
  | markWorkflowRunRunning attemptCount =>
    obtain ⟨pos, started⟩ := permitted
    exact ⟨fun _ => ⟨pos, told _ started⟩, fun blocked => (by cases blocked)⟩
  | markWorkflowRunBlocked cursor block output =>
    obtain ⟨event, mem, waits⟩ := permitted
    exact ⟨logged.attempt, fun _ => ⟨event, told _ mem, waits⟩⟩
  | clearWorkflowRunBlock expected output =>
    cases cleared : row.clearBlock expected output with
    | none => simpa [RunOp.rowAfter, cleared] using logged
    | some row' =>
      obtain ⟨-, rfl⟩ := WorkflowRun.clearBlock_eq_some_iff.mp cleared
      simp only [RunOp.rowAfter, cleared, Option.getD_some]
      exact ⟨logged.attempt, fun blocked => (by cases blocked)⟩
  | updateWorkflowRunProgress cursor output => exact ⟨logged.attempt, logged.waited⟩
  | markWorkflowRunQueuedForRetry error nextAttemptAt =>
    exact ⟨fun running => (by cases running), fun blocked => (by cases blocked)⟩
  | markWorkflowRunSucceeded output => exact ⟨fun running => (by cases running), logged.waited⟩
  | markWorkflowRunFailed error =>
    exact ⟨fun running => (by cases running), fun blocked => (by cases blocked)⟩
  | _ => exact logged

end rows

/-- What an operation tells its handler is in the log after it. -/
theorem facts_told {op : RunOp} {st st' : RunStore} {choice : Choice} {reply : op.Reply}
    {log : List Entry} (logged : RowLogged st.row log)
    (performed : performRunOp op st choice = some (reply, st')) :
    ∀ fact ∈ facts op reply, Tells (log ++ (entryOf op reply).toList) fact := by
  have read : ∀ fact ∈ runFacts st.row, Tells (log ++ (entryOf op reply).toList) fact :=
    runFacts_told (rowLogged_append logged _)
  intro fact mem
  cases op with
  | appendWorkflowRunEvent event =>
    rcases List.mem_cons.mp mem with rfl | started
    · exact List.mem_append_right _ List.mem_cons_self
    · split at started
      · next is =>
        obtain rfl := List.mem_singleton.mp started
        exact ⟨event, List.mem_append_right _ List.mem_cons_self, is, rfl⟩
      · cases started
  | execute context =>
    obtain rfl := List.mem_singleton.mp mem
    exact List.mem_append_right _ List.mem_cons_self
  | dispatchViaGatewayAsync request =>
    cases reply with
    | error message => cases mem
    | ok _ =>
      obtain rfl := List.mem_singleton.mp mem
      exact List.mem_append_right _ List.mem_cons_self
  | getWorkflowRunById =>
    obtain ⟨rfl, -⟩ := performRunOp_getRun performed
    exact read fact mem
  | getWorkflowRunByBlockedRequestId requestId =>
    rw [performRunOp_getRunByBlocked performed] at mem
    split at mem
    · exact read fact mem
    · cases mem
  | _ => cases mem

/-- What a handler does is founded on what it knows. -/
theorem entry_founded {known : List Fact} {op : RunOp} {reply : op.Reply}
    (permitted : permits known op) : ∀ entry ∈ entryOf op reply, Founded (· ∈ known) entry := by
  intro entry is
  cases op with
  | appendWorkflowRunEvent event =>
    obtain rfl := Option.some.inj is
    exact permitted
  | execute context =>
    obtain rfl := Option.some.inj is
    exact permitted
  | dispatchViaGatewayAsync request =>
    cases reply with
    | error message => cases is
    | ok _ =>
      obtain rfl := Option.some.inj is
      exact permitted
  | _ => cases is

/-- The reasons of an entry are in the log. -/
def Admitted (log : List Entry) (entry : Entry) : Prop := Founded (Tells log) entry

theorem log_explains (env : RunEnv) : Explains (logCertified env) entryOf Admitted
    (fun st log => RowLogged st.row log) (fun known log => ∀ fact ∈ known, Tells log fact) where
  starts _ _ fact mem := by cases mem
  grows _ _ more knows fact mem := tells_append more (knows fact mem)
  admits _ _ _ _ _ _ _ permitted knows _ _ entry is :=
    founded_mono knows (entry_founded permitted entry is)
  learns _ _ _ _ _ _ _ _ knows logged performed fact mem := by
    rcases List.mem_append.mp mem with old | new
    · exact tells_append _ (knows fact old)
    · exact facts_told logged performed fact new
  keeps _ _ _ _ _ _ _ permitted knows logged performed := by
    rw [(performRunOp_store performed).1]
    exact rowLogged_append (rowLogged_operation permitted knows logged) _
  launches _ _ _ _ logged launched := by
    rw [(RunStore.launch_frame launched).1]
    exact logged
  finishes l o st _ logged := by
    show RowLogged (RunStore.finish l o st).row _
    rw [(RunStore.finish_frame l o st).1]
    exact logged
  ticks _ _ _ _ logged ticked := by
    rw [(RunStore.tick_frame ticked).1]
    exact logged

/-- The system of a run with its log has the same runs. -/
theorem run_logged {env : RunEnv} {now : Int} {s : (runSystem env).State} :
    System.Steps (fun _ _ => True) (initialState env now) s ↔
      ∃ u, System.Steps (fun _ _ => True) (loggedStart env now) u ∧ erase u = s := by
  constructor
  · exact fun run => recorded_run (s := loggedStart env now) run
  · rintro ⟨u, run, rfl⟩
    exact erased_run run

/-! ### A node that succeeds -/

/-- A delivery starts an attempt and executes a node that succeeds. -/
def succeededNode : List (loggedSystem Sample.sampleEnv).Action :=
  (Sample.start 0 [Sample.remoteNode "n"] ++
    Sample.calls 0 [.none, Sample.succeeds, .none]).map recordAction

end Vespid.Run.EventLog
