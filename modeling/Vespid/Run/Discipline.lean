import Vespid.Run.Stages

/-!
# The handlers follow the protocol

One lemma for each part of a handler's program: started in its stage, it issues only what the
stages allow and ends in a stage that owes nothing.
-/

namespace Vespid

open Interleaving Worker Workflow

-- their equations are found once, before the lemmas that all use them
attribute [local simp] Stage.permits Stage.observe

variable {env : RunEnv} {d : Delivery} {known : Nat}

/-! ### Deliveries of the run job -/

/-- A delivery that throws has put the run back to queued. -/
def AttemptEnded (o : Outcome) (s : Stage) : Prop :=
  o = .returned ∧ s = .done ∨ (∃ message, o = .threw message) ∧ s = .retrying

/-- What is left after `executeNode`. -/
def NodeEnded (known : Nat) (o : NodeOutcome) (s : Stage) : Prop :=
  match o with
  | .blocked => s = .done
  | .finished _ | .threw _ => s = .working known

/-- A delivery between iterations works on its own attempt. -/
def IterationEnded (v : NodeLoop ⊕ Outcome) (s : Stage) : Prop :=
  match v with
  | .inl (.v2 d _ _ _) | .inl (.v3 d _ _ _) =>
    ∃ known, s = .working known ∧ d.attemptCount = max 1 known
  | .inr o => AttemptEnded o s

theorem failAttempt_follows (counts : d.attemptCount = max 1 known) (message : String) :
    (failAttempt env d.attemptCount message).wp (runProtocol env) AttemptEnded
      (.working known) := by
  unfold failAttempt
  split
  · rename_i retry
    have more : 1 < env.run.maxAttempts ∧ known < env.run.maxAttempts := by omega
    simp [appendEvent, Stage.permits, Stage.observe, AttemptEnded, more]
  · simp [appendEvent, Stage.permits, Stage.observe, AttemptEnded]

theorem requestApproval_follows (p : Progress) (node : WorkflowNode) (reason : String)
    (cursor : Nat) :
    (requestApproval env d p node reason cursor).wp (runProtocol env)
      (NodeEnded known) (.working known) := by
  simp only [requestApproval, ask, Program.issue_eq, Program.call_bind, Program.done_bind,
    Program.wp_call, runProtocol_permits, runProtocol_observe, observe_now]
  refine ⟨trivial, fun now _ => ⟨⟨_, rfl⟩, fun approval _ => ?_⟩⟩
  cases approval with
  | none => simp [NodeEnded, Stage.observe]
  | some approval =>
    simp [appendNodeEvent, appendEvent, Stage.permits, Stage.observe, NodeEnded]

theorem dispatchBlocked_follows (counts : d.attemptCount = max 1 known)
    (p : Progress) (node : WorkflowNode) (block : NodeBlock)
    (cursor : Nat) :
    (dispatchBlocked env d p node block cursor).wp (runProtocol env)
      (NodeEnded known) (.working known) := by
  simp only [dispatchBlocked, ask, Program.issue_eq, Program.call_bind, Program.done_bind,
    Program.wp_call, runProtocol_permits, runProtocol_observe, observe_dispatch]
  refine ⟨trivial, fun dispatched _ => ?_⟩
  cases dispatched with
  | error message => simp [NodeEnded]
  | ok _ =>
    have remote : block.kind.blockedKind ≠ .approval := by
      cases block.kind <;> simp [GatewayExecutionKind.blockedKind]
    simp only [appendNodeEvent, appendEvent, ask, Program.issue_eq, Program.call_bind,
      Program.done_bind, Program.wp_call, runProtocol_permits, runProtocol_observe, observe_event,
      observe_now]
    refine ⟨trivial, fun _ _ => ⟨trivial, fun now _ => ⟨.inl ?_, fun _ _ => ?_⟩⟩⟩
    · exact ⟨known, rfl, remote, _, by rw [← counts]; rfl⟩
    · simp [Stage.permits, Stage.observe, NodeEnded]

theorem recordResult_follows (counts : d.attemptCount = max 1 known)
    (p : Progress) (node : WorkflowNode) (result : NodeResult)
    (cursor : Nat) :
    (recordResult env d p node result cursor).wp (runProtocol env)
      (NodeEnded known) (.working known) := by
  unfold recordResult
  cases result.status with
  | blocked =>
    dsimp only
    split
    · simp [NodeEnded]
    · split
      · simp [NodeEnded]
      · exact dispatchBlocked_follows counts _ node _ cursor
  | failed => simp [appendNodeEvent, appendEvent, Stage.permits, NodeEnded]
  | succeeded => simp [appendNodeEvent, appendEvent, Stage.permits, NodeEnded]

theorem runExecutor_follows (counts : d.attemptCount = max 1 known)
    (p : Progress) (node : WorkflowNode) (cursor : Nat) :
    (runExecutor env d p node cursor).wp (runProtocol env)
      (NodeEnded known) (.working known) := by
  unfold runExecutor
  split
  · simp [appendNodeEvent, appendEvent, Stage.permits, NodeEnded]
  · simp only [ask, Program.issue_eq, Program.call_bind, Program.done_bind, Program.wp_call,
      runProtocol_permits, runProtocol_observe, observe_execute]
    exact ⟨trivial, fun answer _ => recordResult_follows counts p node _ cursor⟩

theorem executeNode_follows (counts : d.attemptCount = max 1 known)
    (p : Progress) (node : WorkflowNode) (cursor : Nat) :
    (executeNode env d p node cursor).wp (runProtocol env)
      (NodeEnded known) (.working known) := by
  simp only [executeNode, appendNodeEvent, appendEvent, ask, Program.issue_eq, Program.call_bind,
    Program.done_bind, Program.wp_call, runProtocol_permits, runProtocol_observe, observe_event]
  refine ⟨trivial, fun _ _ => ?_⟩
  cases (evaluateNodePolicy (buildNodePolicyContext node) d.policyRules).decision with
  | allow => exact runExecutor_follows counts p node cursor
  | deny => simp [Stage.permits, NodeEnded]
  | requireApproval =>
    simp only [Program.wp_call, runProtocol_permits, runProtocol_observe, observe_hasApproved]
    refine ⟨trivial, fun hasApproval _ => ?_⟩
    split
    · exact runExecutor_follows counts p node cursor
    · exact requestApproval_follows p node _ cursor

theorem succeedAttempt_follows (p : Progress) :
    (succeedAttempt d p).wp (runProtocol env) AttemptEnded (.working known) := by
  simp [succeedAttempt, appendEvent, Stage.permits, Stage.observe, AttemptEnded]

theorem appendSkipped_follows (dsl : WorkflowDslV3) (nodeIds : List String) (s : Stage) :
    (appendSkipped d dsl nodeIds).wp (runProtocol env) (fun _ s' => s' = s) s := by
  induction nodeIds with
  | nil => simp [appendSkipped]
  | cons nodeId rest ih =>
    unfold appendSkipped
    cases dsl.node? nodeId with
    | none => exact ih
    | some node =>
      simp only [appendEvent, ask, Program.issue_eq, Program.call_bind, Program.done_bind,
        Program.wp_call, runProtocol_permits, runProtocol_observe, observe_event]
      exact ⟨trivial, fun _ _ => ih⟩

theorem finishGraph_follows (dsl : WorkflowDslV3) (m : StepMap) (p : Progress) :
    (finishGraph env d dsl m p).wp (runProtocol env) AttemptEnded
      (.working known) := by
  unfold finishGraph
  refine Program.wp_seq (appendSkipped_follows dsl _ _) ?_
  rintro _ _ rfl
  exact succeedAttempt_follows _

theorem checkpointGraph_follows (dsl : WorkflowDslV3) (m : StepMap) (p : Progress) :
    (checkpointGraph env dsl m p).wp (runProtocol env) (fun _ s => s = .working known)
      (.working known) := by
  simp [checkpointGraph, Stage.permits]

theorem recordStep_follows (counts : d.attemptCount = max 1 known)
    (dsl : WorkflowDslV3) (m : StepMap) (p : Progress) (node : WorkflowNode)
    (output : Json) :
    (recordStep env d dsl m p node output).wp (runProtocol env) IterationEnded
      (.working known) := by
  simp only [recordStep, appendNodeEvent, appendEvent, ask, Program.issue_eq, Program.call_bind,
    Program.done_bind, Program.wp_call, runProtocol_permits, runProtocol_observe, observe_event]
  refine ⟨trivial, fun _ _ => ⟨trivial, fun _ _ => ?_⟩⟩
  refine Program.wp_seq (checkpointGraph_follows dsl _ _) ?_
  rintro p' _ rfl
  exact ⟨known, rfl, counts⟩

/-- An attempt that ends, at the end of an iteration. -/
theorem ended_follows {q : RunProgram Outcome} {s : Stage}
    (ends : q.wp (runProtocol env) AttemptEnded s) :
    (q >>= fun o => Program.done (Sum.inr o)).wp (runProtocol env) IterationEnded s :=
  Program.wp_seq ends fun _ _ ended => ended

theorem graphIteration_follows (counts : d.attemptCount = max 1 known)
    (dsl : WorkflowDslV3) (m : StepMap) (p : Progress) :
    (graphIteration env d dsl m p).wp (runProtocol env) IterationEnded
      (.working known) := by
  have executed (node : WorkflowNode) : (executeNode env d p node 0 >>= afterNode env d dsl m).wp
      (runProtocol env) IterationEnded (.working known) := by
    refine Program.wp_seq (executeNode_follows counts p node 0) ?_
    rintro outcome s ended
    cases outcome with
    | blocked => exact .inl ⟨rfl, ended⟩
    | threw message =>
      subst ended
      exact ended_follows (failAttempt_follows counts message)
    | finished p =>
      subst ended
      refine Program.wp_seq (checkpointGraph_follows dsl _ _) ?_
      rintro _ _ rfl
      exact ⟨known, rfl, counts⟩
  unfold graphIteration
  split
  · exact ended_follows (finishGraph_follows dsl m p)
  · split
    · simp only [appendNodeEvent, appendEvent, ask, Program.issue_eq, Program.call_bind,
        Program.done_bind, Program.wp_call, runProtocol_permits, runProtocol_observe,
        observe_event]
      exact ⟨trivial, fun _ _ => ⟨trivial, fun _ _ => ended_follows (failAttempt_follows counts _)⟩⟩
    · exact recordStep_follows counts dsl m p _ _
    · exact recordStep_follows counts dsl m p _ _
    · exact executed _

theorem listIteration_follows (counts : d.attemptCount = max 1 known)
    (nodes : List WorkflowNode) (index : Nat) (p : Progress) :
    (listIteration env d nodes index p).wp (runProtocol env) IterationEnded
      (.working known) := by
  unfold listIteration
  split
  · exact ended_follows (succeedAttempt_follows p)
  · refine Program.wp_seq (executeNode_follows counts p _ index) ?_
    rintro outcome s ended
    cases outcome with
    | blocked => exact .inl ⟨rfl, ended⟩
    | threw message =>
      subst ended
      exact ended_follows (failAttempt_follows counts message)
    | finished p =>
      subst ended
      exact ⟨⟨known, rfl⟩, fun _ _ => ⟨known, by simp, counts⟩⟩

theorem startLoop_follows (counts : d.attemptCount = max 1 known)
    (cursor : Nat) (p : Progress) (dsl : Option WorkflowDslAny) :
    (startLoop env d cursor p dsl).wp (runProtocol env) IterationEnded
      (.working known) := by
  unfold startLoop
  split
  · exact ended_follows (failAttempt_follows counts _)
  · exact ⟨known, rfl, counts⟩
  · split
    · exact ended_follows (failAttempt_follows counts _)
    · exact ⟨known, rfl, counts⟩

theorem runAttempt_follows (run : WorkflowRun) (live : run.status = .queued ∨ run.status = .running)
    (unblocked : run.status = .running → run.blocked.isSome = false) :
    (runAttempt env run).wp (runProtocol env) IterationEnded (.ofRun (some run)) := by
  simp only [runAttempt, ask, Program.issue_eq, Program.call_bind, Program.done_bind,
    Program.wp_call, runProtocol_permits, runProtocol_observe, runProtocol_expects,
    observe_settings, observe_rules, observe_workflow]
  refine ⟨trivial, fun settings _ => ⟨trivial, fun rules _ => ⟨trivial, fun workflow present => ?_⟩⟩⟩
  cases workflow with
  | none => simp [Stage.expects] at present
  | some workflow =>
    rcases live with queued | running
    · have here : Stage.ofRun (some run) = .starting run.attemptCount := by
        simp [Stage.ofRun, queued]
      rw [here]
      dsimp only
      split
      · simp [appendEvent, Stage.permits, Stage.observe, IterationEnded, AttemptEnded]
      · simp only [queued, ↓reduceIte, appendEvent, ask, Program.issue_eq, Program.call_bind,
          Program.done_bind, Program.wp_call, runProtocol_permits, runProtocol_observe,
          runProtocol_expects, observe_event]
        refine ⟨trivial, fun _ _ => ⟨⟨_, rfl, by omega⟩, fun started present => ?_⟩⟩
        cases started with
        | none => simp [Stage.expects] at present
        | some _ => exact startLoop_follows (by simp) _ _ _
    · have here : Stage.ofRun (some run) = .working run.attemptCount := by
        simp [Stage.ofRun, running, unblocked running]
      rw [here]
      dsimp only
      split
      · simp [appendEvent, Stage.permits, Stage.observe, IterationEnded, AttemptEnded]
      · simp only [running, reduceCtorEq, ↓reduceIte]
        exact startLoop_follows rfl _ _ _

theorem processWorkflowRunJob_follows :
    (processWorkflowRunJob env).wp (runProtocol env) IterationEnded .delivered := by
  simp only [processWorkflowRunJob, ask, Program.issue_eq, Program.call_bind, Program.done_bind,
    Program.wp_call, runProtocol_permits, runProtocol_observe]
  refine ⟨trivial, fun run _ => ?_⟩
  cases run with
  | none => exact .inl ⟨rfl, rfl⟩
  | some run =>
    simp only [Stage.observe]
    cases status : run.status with
    | succeeded => exact .inl ⟨rfl, by simp [Stage.ofRun, status]⟩
    | failed => exact .inl ⟨rfl, by simp [Stage.ofRun, status]⟩
    | queued => exact runAttempt_follows run (.inl status) (by simp [status])
    | running =>
      dsimp only
      split
      · rename_i blocked
        exact .inl ⟨rfl, by simp [Stage.ofRun, status, blocked]⟩
      · rename_i unblocked
        exact runAttempt_follows run (.inr status) fun _ => by simpa using unblocked

theorem runJobIteration_follows {loop : NodeLoop} {s : Stage} (at_loop : IterationEnded (.inl loop) s) :
    (runJobIteration env loop).wp (runProtocol env) IterationEnded s := by
  cases loop with
  | v2 d nodes index p =>
    obtain ⟨known, rfl, counts⟩ := at_loop
    exact listIteration_follows counts nodes index p
  | v3 d dsl m p =>
    obtain ⟨known, rfl, counts⟩ := at_loop
    exact graphIteration_follows counts dsl m p

/-! ### Continuations and decisions -/

/-- The stages in which a handler other than a delivery of the run job may end. -/
def Stage.Settled : Stage → Prop
  | .received _ | .checked _ | .deciding _ | .done => True
  | _ => False

theorem enqueue_follows (delayMs : Nat) :
    (enqueue delayMs).wp (runProtocol env) (fun _ s => s = .done) .owing := by
  simp [enqueue, Stage.permits, Stage.observe]

variable (payload : ContinuationPayload)

theorem applyRemoteFailure_follows (node : WorkflowNode) (message : String) :
    (applyRemoteFailure env payload node message).wp (runProtocol env) (fun _ s => s.Settled)
      (.checked payload) := by
  simp only [applyRemoteFailure, appendContinuationEvent, ask, Program.issue_eq, Program.call_bind,
    Program.done_bind, Program.wp_call, runProtocol_permits, runProtocol_observe, observe_event]
  refine ⟨trivial, fun _ _ => ⟨trivial, fun _ _ => ?_⟩⟩
  split
  · simp [Stage.permits, Stage.observe, Stage.Settled]
  · rename_i retry
    simp only [Program.wp_call, runProtocol_permits, runProtocol_observe, observe_now,
      observe_event]
    refine ⟨trivial, fun now _ => ⟨.inr ⟨payload, rfl, by omega⟩, fun _ _ => ⟨trivial, ?_⟩⟩⟩
    intro _ _
    exact Program.wp_mono (by rintro _ _ rfl; exact trivial) (enqueue_follows _)

theorem applyRemoteResult_follows (run : WorkflowRun) (node : WorkflowNode)
    (result : GatewayDispatchResponse) :
    (applyRemoteResult env payload run node result).wp (runProtocol env) (fun _ s => s.Settled)
      (.checked payload) := by
  unfold applyRemoteResult
  cases result.status with
  | failed => exact applyRemoteFailure_follows payload node _
  | succeeded =>
    simp only [applyRemoteSuccess, appendContinuationEvent, ask, Program.issue_eq,
      Program.call_bind, Program.done_bind, Program.wp_call, runProtocol_permits,
      runProtocol_observe, observe_event]
    refine ⟨trivial, fun _ _ => ⟨.inl ⟨payload, rfl, rfl⟩, fun cleared _ => ?_⟩⟩
    cases cleared with
    | false => exact trivial
    | true => exact Program.wp_mono (by rintro _ _ rfl; exact trivial) (enqueue_follows 0)

theorem processBlocked_follows (run : WorkflowRun) (node : WorkflowNode) :
    (processBlocked env payload run node).wp (runProtocol env) (fun _ s => s.Settled)
      (.checked payload) := by
  unfold processBlocked
  cases payload.kind with
  | event level kind => simp [appendContinuationEvent, Stage.permits, Stage.Settled]
  | apply result =>
    exact Program.wp_seq (applyRemoteResult_follows payload run node result)
      fun _ _ settled => settled
  | poll =>
    simp only [ask, Program.issue_eq, Program.call_bind, Program.done_bind, Program.wp_call,
      runProtocol_permits, runProtocol_observe, observe_now]
    refine ⟨trivial, fun now _ => ?_⟩
    split
    · exact Program.wp_seq (applyRemoteFailure_follows payload node _) fun _ _ settled => settled
    · simp only [Program.wp_call, runProtocol_permits, runProtocol_observe, observe_fetch]
      refine ⟨trivial, fun fetched _ => ?_⟩
      split
      · exact Program.wp_seq (applyRemoteFailure_follows payload node _) fun _ _ settled => settled
      · exact trivial
      · exact Program.wp_seq (applyRemoteResult_follows payload run node _)
          fun _ _ settled => settled

theorem processContinuationPayload_follows :
    (processContinuationPayload env payload).wp (runProtocol env) (fun _ s => s.Settled)
      (.received payload) := by
  simp only [processContinuationPayload, ask, Program.issue_eq, Program.call_bind,
    Program.done_bind, Program.wp_call, runProtocol_permits, runProtocol_observe, Stage.observe]
  refine ⟨trivial, fun run _ => ?_⟩
  have stale {o : Outcome} (run : Option WorkflowRun) :
      (Program.done o).wp (runProtocol env) (fun _ s => s.Settled)
        (Stage.ofBlockedRun env payload run) := by
    unfold Stage.ofBlockedRun
    split
    · exact trivial
    · simp only [Program.wp_done]
      split <;> exact trivial
  cases run with
  | none => exact stale _
  | some run =>
    dsimp only
    split
    · exact stale _
    · split
      · exact stale _
      · split
        · exact stale _
        · rename_i live blocked same
          have here : Stage.ofBlockedRun env payload (some run) = .checked payload := by
            simp only [not_not] at live blocked same
            simp [Stage.ofBlockedRun, live, blocked, same]
          rw [here]
          simp only [Program.wp_call, runProtocol_permits, runProtocol_observe, observe_workflow]
          refine ⟨trivial, fun workflow _ => ?_⟩
          cases workflow with
          | none => exact trivial
          | some workflow =>
            dsimp only
            split
            · exact trivial
            · split
              · simp [Stage.permits, Stage.observe, Stage.Settled]
              · exact processBlocked_follows payload run _

theorem approve_follows (id : Uuid) (note : Option String) :
    (Api.approve env id note).wp (runProtocol env) (fun _ s => s.Settled) (.deciding .approved) := by
  simp only [Api.approve, ask, Program.issue_eq, Program.call_bind, Program.done_bind,
    Program.wp_call, runProtocol_permits, runProtocol_observe, observe_getApproval]
  refine ⟨trivial, fun existing _ => ?_⟩
  cases existing with
  | none => exact trivial
  | some existing =>
    dsimp only
    split
    · exact trivial
    · simp only [Program.wp_call, runProtocol_permits, runProtocol_observe, observe_now]
      refine ⟨trivial, fun now _ => ?_⟩
      split
      · simp [Stage.permits, Stage.observe, Stage.Settled]
      · simp only [Program.wp_call, runProtocol_permits, runProtocol_observe]
        refine ⟨.inl rfl, fun approval _ => ?_⟩
        cases approval with
        | none => exact trivial
        | some approval =>
          simp only [Api.resumeApproved, ask, Program.issue_eq, Program.call_bind,
            Program.done_bind, Program.wp_call, runProtocol_permits, runProtocol_observe]
          refine ⟨⟨_, .inl rfl, rfl⟩, fun run _ => ?_⟩
          cases run with
          | none => exact trivial
          | some run =>
            simp only [Program.wp_call, runProtocol_permits, runProtocol_observe]
            refine ⟨.inr (.inl ⟨_, rfl, rfl⟩), fun cleared _ => ?_⟩
            cases cleared with
            | false => exact trivial
            | true =>
              simp [Api.appendDecision, Api.enqueueWorkflowRun, Stage.permits, Stage.observe,
                Stage.Settled]

theorem reject_follows (id : Uuid) (note : Option String) :
    (Api.reject id note).wp (runProtocol env) (fun _ s => s.Settled) (.deciding .rejected) := by
  simp only [Api.reject, ask, Program.issue_eq, Program.call_bind, Program.done_bind,
    Program.wp_call, runProtocol_permits, runProtocol_observe, observe_getApproval]
  refine ⟨trivial, fun existing _ => ?_⟩
  cases existing with
  | none => exact trivial
  | some existing =>
    dsimp only
    split
    · exact trivial
    · simp only [Program.wp_call, runProtocol_permits, runProtocol_observe]
      refine ⟨.inl rfl, fun approval _ => ?_⟩
      cases approval with
      | none => exact trivial
      | some approval =>
        simp only [Api.failRejected, ask, Program.issue_eq, Program.call_bind, Program.done_bind,
          Program.wp_call, runProtocol_permits, runProtocol_observe]
        refine ⟨⟨_, .inr rfl, rfl⟩, fun run _ => ?_⟩
        cases run with
        | none => exact trivial
        | some run =>
          simp only [Program.wp_call, runProtocol_permits, runProtocol_observe]
          refine ⟨.inr (.inr ⟨_, _, rfl, rfl⟩), fun cleared _ => ?_⟩
          simp [Api.appendDecision, Stage.permits, Stage.observe, Stage.Settled]

/-! ### The certificate -/

/-- Where a handler starts. -/
def Launch.stage : Launch → Stage
  | .job | .redelivery => .delivered
  | .continuation payload => .received payload
  | .approve .. => .deciding .approved
  | .reject .. => .deciding .rejected

def Launch.Ended (l : Launch) (o : Outcome) (s : Stage) : Prop :=
  match l with
  | .job | .redelivery => AttemptEnded o s
  | _ => s.Settled

theorem performRunOp_expects {op : RunOp} {st st' : RunStore} {choice : Choice} {reply : op.Reply}
    (performed : performRunOp op st choice = some (reply, st')) : Stage.expects op reply := by
  cases op <;> try exact trivial
  case getWorkflowById =>
    cases choice <;> simp [performRunOp] at performed
    simp [Stage.expects, ← performed.1]
  case markWorkflowRunRunning attempt =>
    cases choice <;> simp [performRunOp] at performed
    simp [Stage.expects, ← performed.1]
  case decideWorkflowApprovalRequest id status note =>
    cases choice <;> simp [performRunOp] at performed
    rintro a rfl
    obtain ⟨request, found, rfl⟩ := Option.map_eq_some_iff.mp performed.1
    have matched := List.find?_some found
    simp only [decide_eq_true_eq] at matched
    exact matched.1

theorem delivery_ended {l : Launch} (job : l = .job ∨ l = .redelivery) {q : RunProgram (NodeLoop ⊕ Outcome)}
    {s : Stage} (ends : q.wp (runProtocol env) IterationEnded s) :
    q.wp (runProtocol env) (fun v s => v.elim
      (fun loop => (l = .job ∨ l = .redelivery) ∧ IterationEnded (.inl loop) s) (l.Ended · s)) s := by
  refine Program.wp_mono ?_ ends
  rintro (loop | o) s ended
  · exact ⟨job, ended⟩
  · rcases job with rfl | rfl <;> exact ended

theorem other_ended (l : Launch) (other : ∀ o s, Stage.Settled s → l.Ended o s)
    {looping : NodeLoop → Stage → Prop} {q : RunProgram Outcome} {s : Stage}
    (ends : q.wp (runProtocol env) (fun _ s => s.Settled) s) :
    (Sum.inr <$> q : RunProgram (NodeLoop ⊕ Outcome)).wp (runProtocol env)
      (fun v s => v.elim (looping · s) (l.Ended · s)) s :=
  Program.wp_seq ends fun o s settled => other o s settled

/-- Every handler of a run follows the protocol. -/
def runCertified (env : RunEnv) : Certified (runSystem env) (runProtocol env) where
  start := Launch.stage
  looping l loop s := (l = .job ∨ l = .redelivery) ∧ IterationEnded (.inl loop) s
  ended := Launch.Ended
  entry_follows l := by
    cases l with
    | job => exact delivery_ended (.inl rfl) processWorkflowRunJob_follows
    | redelivery => exact delivery_ended (.inr rfl) processWorkflowRunJob_follows
    | continuation payload =>
      exact other_ended (.continuation payload) (fun _ _ settled => settled)
        (processContinuationPayload_follows payload)
    | approve id note => exact other_ended (.approve id note) (fun _ _ settled => settled) (approve_follows id note)
    | reject id note => exact other_ended (.reject id note) (fun _ _ settled => settled) (reject_follows id note)
  body_follows _ _ _ at_loop := delivery_ended at_loop.1 (runJobIteration_follows at_loop.2)
  replies _ _ _ _ _ performed := performRunOp_expects performed

/-! ### Steps and the row -/

variable {s t : (runSystem env).State} {a : (runSystem env).Action}

/-- A step changes the row only through an operation its stage allows. -/
theorem stepped_row (all : (runCertified env).AllFollow s) (stepped : System.Stepped s a t) :
    t.store.row = s.store.row ∨
      ∃ stage op, (runCertified env).issued s a = some (stage, op) ∧ stage.permits env op ∧
        t.store.row = op.rowAfter s.store.row := by
  have happened := Certified.happened all stepped
  generalize (runCertified env).crew t = crew at happened
  generalize t.store = store at happened ⊢
  cases happened with
  | launch free launched => exact .inl (RunStore.launch_frame launched).1
  | call here issues permitted performed =>
    exact .inr ⟨_, _, issues, permitted, (performRunOp_store performed).1⟩
  | loop => exact .inl rfl
  | finish here ended => exact .inl (RunStore.finish_frame _ _ _).1
  | tick ticked => exact .inl (RunStore.tick_frame ticked).1

/-! ### The stages of a launch -/

/-- The stages the handler of a launch passes through. -/
def Launch.Has : Launch → Stage → Prop
  | .job, s | .redelivery, s =>
    match s with
    | .delivered | .starting _ | .working _ | .requested .. | .retrying | .done => True
    | _ => False
  | .continuation payload, s =>
    match s with
    | .received p | .checked p => p = payload
    | .owing | .done => True
    | _ => False
  | .approve .., s =>
    match s with
    | .deciding status => status = .approved
    | .approved _ | .resuming _ | .owing | .done => True
    | _ => False
  | .reject .., s =>
    match s with
    | .deciding status => status = .rejected
    | .rejected _ | .failing .. | .done => True
    | _ => False

theorem observe_has {l : Launch} {stage : Stage} (op : RunOp) (reply : op.Reply)
    (has : l.Has stage) : l.Has (stage.observe env op reply) := by
  have read (run : Option WorkflowRun) : Launch.job.Has (Stage.ofRun run) := by
    unfold Stage.ofRun
    split
    · trivial
    · split <;> try trivial
      split <;> trivial
  cases l with
  | job | redelivery =>
    cases stage <;> simp only [Launch.Has] at has <;> cases op <;> try trivial
    case delivered.getWorkflowRunById => exact read reply
    all_goals cases reply <;> trivial
  | continuation payload =>
    cases stage <;> simp only [Launch.Has] at has <;> cases op <;> try first | trivial | exact has
    case received.getWorkflowRunById p =>
      simp only [Stage.observe]
      unfold Stage.ofBlockedRun
      split
      · trivial
      · split
        · exact has
        · trivial
    all_goals simp only [Stage.observe]; split <;> trivial
  | approve id note | reject id note =>
    cases stage <;> simp only [Launch.Has] at has <;> try subst has
    all_goals cases op <;> try trivial
    all_goals simp only [Stage.observe]; first | split | unfold Stage.ofDecision; split
    all_goals trivial

theorem view_has (p : (runSystem env).Process) : p.launch.Has ((runCertified env).view p) :=
  (runCertified env).view_invariant Launch.Has
    (by rintro (_ | _ | _ | _ | _) <;> trivial)
    (fun _ _ op reply has => observe_has op reply has) p

theorem crew_has {id : Nat} {l : Launch} {stage : Stage}
    (here : (runCertified env).crew s id = some (l, stage)) : l.Has stage := by
  obtain ⟨p, -, same⟩ := Option.map_eq_some_iff.mp here
  obtain ⟨rfl, rfl⟩ := Prod.mk.inj same
  exact view_has p

end Vespid
