import Vespid.Lib.Protocol
import Vespid.Queue.RunQueue
import Vespid.Worker.RunJob
import Vespid.Worker.Continuation
import Vespid.Api.Approvals

/-!
# One run and its handlers

The store of one run (its row, its job in the run queue, its approval requests and the
clock) and the system of everything that acts on it: deliveries of the run job, deliveries of
continuations, and the routes that decide an approval.
-/

namespace Vespid

open Interleaving Worker

structure RunStore where
  row : WorkflowRun
  job : RunJob
  approvals : Approvals
  now : Int

/-- What the environment answers where the store does not decide. -/
inductive Choice where
  | none
  | settings (settings : Option Json)
  | rules (rules : List OrgPolicyRule)
  | workflow (workflow : WorkflowRow)
  | answer (answer : Except String NodeResult)
  | dispatched (reply : Except String Unit)
  | fetched (reply : Except FetchError GatewayDispatchResponse)
  | approvalId (id : Workflow.Uuid)

namespace RunStore

def write (st : RunStore) (row : WorkflowRun) : RunStore := { st with row }

variable (st : RunStore) (row : WorkflowRun)

@[simp] theorem write_row : (st.write row).row = row := rfl

@[simp] theorem write_job : (st.write row).job = st.job := rfl

@[simp] theorem write_approvals : (st.write row).approvals = st.approvals := rfl

@[simp] theorem write_now : (st.write row).now = st.now := rfl

/-- A run as its creation leaves it, with its job enqueued. -/
def created (maxAttempts : Nat) (now : Int) : RunStore :=
  { row := .created, job := .waiting 0 (max 1 maxAttempts), approvals := [], now }


end RunStore

/-- One operation on the store. The workflow of a run exists as long as the run does. -/
def performRunOp (op : RunOp) (st : RunStore) (choice : Choice) : Option (op.Reply × RunStore) :=
  match op, choice with
  | .getWorkflowRunById, .none => some (some st.row, st)
  | .getOrganizationSettings, .settings settings => some (settings, st)
  | .listOrganizationPolicyRules, .rules rules => some (rules, st)
  | .getWorkflowById, .workflow workflow => some (some workflow, st)
  | .appendWorkflowRunEvent _, .none => some ((), st)
  | .markWorkflowRunRunning attemptCount, .none =>
    let row := st.row.markRunning attemptCount
    some (some row, st.write row)
  | .markWorkflowRunBlocked cursor block output, .none =>
    some ((), st.write (st.row.markBlocked cursor block output))
  | .clearWorkflowRunBlock expected output, .none =>
    match st.row.clearBlock expected output with
    | some row => some (true, st.write row)
    | none => some (false, st)
  | .updateWorkflowRunProgress cursor output, .none =>
    some ((), st.write (st.row.updateProgress cursor output))
  | .markWorkflowRunQueuedForRetry error nextAttemptAt, .none =>
    some ((), st.write (st.row.markQueuedForRetry error nextAttemptAt))
  | .markWorkflowRunSucceeded output, .none => some ((), st.write (st.row.markSucceeded output))
  | .markWorkflowRunFailed error, .none => some ((), st.write (st.row.markFailed error))
  | .hasApprovedWorkflowApprovalForRunNode nodeId, .none =>
    some (st.approvals.hasApproved nodeId st.now, st)
  | .createWorkflowApprovalRequest nodeId nodeType reason expiresAt, .approvalId id =>
    -- a primary key is new
    if id ∉ st.approvals.map (·.id) then
      some (some { id, nodeId, nodeType, reason, status := .pending, expiresAt },
        { st with approvals := st.approvals.create id nodeId nodeType reason expiresAt })
    else none
  | .getWorkflowApprovalRequestById id, .none => some (st.approvals.getById id, st)
  | .decideWorkflowApprovalRequest id status note, .none =>
    some (st.approvals.decided id status note,
      { st with approvals := st.approvals.decide id status note })
  | .getWorkflowRunByBlockedRequestId requestId, .none =>
    some (if st.row.blockedRequestId = some requestId ∧ st.row.status = .running then some st.row
      else none, st)
  | .execute _, .answer answer => some (answer, st)
  | .dispatchViaGatewayAsync _, .dispatched reply => some (reply, st)
  | .enqueueContinuationPoll .., .none => some ((), st)
  | .fetchGatewayResult _, .fetched reply => some (reply, st)
  | .dateNow, .none => some (st.now, st)
  | .queueRemove, .none => some ((), { st with job := st.job.remove })
  | .queueAdd delayMs attempts, .none => some ((), { st with job := st.job.add delayMs attempts })
  | _, _ => none

/-! ### What an operation does to each part of the store -/

/-- The row after an operation. -/
def RunOp.rowAfter (op : RunOp) (row : WorkflowRun) : WorkflowRun :=
  match op with
  | .markWorkflowRunRunning attemptCount => row.markRunning attemptCount
  | .markWorkflowRunBlocked cursor block output => row.markBlocked cursor block output
  | .clearWorkflowRunBlock expected output => (row.clearBlock expected output).getD row
  | .updateWorkflowRunProgress cursor output => row.updateProgress cursor output
  | .markWorkflowRunQueuedForRetry error nextAttemptAt => row.markQueuedForRetry error nextAttemptAt
  | .markWorkflowRunSucceeded output => row.markSucceeded output
  | .markWorkflowRunFailed error => row.markFailed error
  | _ => row

/-- The job after an operation. -/
def RunOp.jobAfter (op : RunOp) (job : RunJob) : RunJob :=
  match op with
  | .queueRemove => job.remove
  | .queueAdd delayMs attempts => job.add delayMs attempts
  | _ => job

attribute [local simp] performRunOp

theorem performRunOp_store {op : RunOp} {st st' : RunStore} {choice : Choice} {reply : op.Reply}
    (performed : performRunOp op st choice = some (reply, st')) :
    st'.row = op.rowAfter st.row ∧ st'.job = op.jobAfter st.job ∧ st'.now = st.now := by
  cases op <;> cases choice <;> simp only [performRunOp, reduceCtorEq, Option.some.injEq,
    Prod.mk.injEq] at performed <;> try (obtain ⟨-, rfl⟩ := performed; exact ⟨rfl, rfl, rfl⟩)
  case clearWorkflowRunBlock =>
    split at performed <;> rename_i cleared <;> cases performed <;>
      simp [RunOp.rowAfter, RunOp.jobAfter, cleared]
  case createWorkflowApprovalRequest =>
    split at performed
    · cases performed
      exact ⟨rfl, rfl, rfl⟩
    · cases performed

section replies
variable {st st' : RunStore} {choice : Choice}

theorem performRunOp_getRun {reply : Option WorkflowRun}
    (performed : performRunOp .getWorkflowRunById st choice = some (reply, st')) :
    reply = some st.row ∧ st' = st := by
  cases choice <;> simp only [performRunOp, reduceCtorEq, Option.some.injEq, Prod.mk.injEq]
    at performed
  exact ⟨performed.1.symm, performed.2.symm⟩

theorem performRunOp_clear {expected : String} {output : Option WorkflowExecutionResult}
    {cleared : Bool}
    (performed : performRunOp (.clearWorkflowRunBlock expected output) st choice =
      some (cleared, st')) :
    (cleared = true ∧ st.row.blockedRequestId = some expected) ∨
      (cleared = false ∧ st.row.blockedRequestId ≠ some expected ∧ st' = st) := by
  cases choice <;> simp only [performRunOp, reduceCtorEq] at performed
  cases found : st.row.clearBlock expected output with
  | some row =>
    rw [found] at performed
    cases performed
    exact .inl ⟨rfl, (WorkflowRun.clearBlock_eq_some_iff.mp found).1⟩
  | none =>
    rw [found] at performed
    cases performed
    refine .inr ⟨rfl, fun here => ?_, rfl⟩
    simp [WorkflowRun.clearBlock, here] at found

theorem performRunOp_getRunByBlocked {requestId : String} {reply : Option WorkflowRun}
    (performed : performRunOp (.getWorkflowRunByBlockedRequestId requestId) st choice =
      some (reply, st')) :
    reply = if st.row.blockedRequestId = some requestId ∧ st.row.status = .running then some st.row
      else none := by
  cases choice <;> simp only [performRunOp, reduceCtorEq, Option.some.injEq, Prod.mk.injEq]
    at performed
  exact performed.1.symm

theorem performRunOp_create {nodeId reason : String} {nodeType : Workflow.NodeType}
    {expiresAt : Int} {reply : Option WorkflowApprovalRequest}
    (performed : performRunOp (.createWorkflowApprovalRequest nodeId nodeType reason expiresAt) st
      choice = some (reply, st')) :
    ∃ approval, reply = some approval ∧ approval.status = .pending ∧
      approval.expiresAt = expiresAt ∧ approval.id ∉ st.approvals.map (·.id) ∧
      st'.approvals = st.approvals ++ [approval] := by
  cases choice <;> simp only [performRunOp, reduceCtorEq] at performed
  split at performed
  · rename_i new
    obtain ⟨rfl, rfl⟩ := Prod.mk.inj (Option.some.inj performed)
    exact ⟨_, rfl, rfl, rfl, new, rfl⟩
  · cases performed

theorem performRunOp_decide {id : Workflow.Uuid} {status : ApprovalStatus} {note : Option String}
    {reply : Option WorkflowApprovalRequest}
    (performed : performRunOp (.decideWorkflowApprovalRequest id status note) st choice =
      some (reply, st')) :
    reply = st.approvals.decided id status note ∧
      st'.approvals = st.approvals.decide id status note := by
  cases choice <;> simp only [performRunOp, reduceCtorEq, Option.some.injEq, Prod.mk.injEq]
    at performed
  obtain ⟨rfl, rfl⟩ := performed
  exact ⟨rfl, rfl⟩

end replies

/-- The operations that create or decide an approval request. -/
def RunOp.decides : RunOp → Bool
  | .createWorkflowApprovalRequest .. | .decideWorkflowApprovalRequest .. => true
  | _ => false

theorem performRunOp_approvals {op : RunOp} {st st' : RunStore} {choice : Choice} {reply : op.Reply}
    (reads : op.decides = false) (performed : performRunOp op st choice = some (reply, st')) :
    st'.approvals = st.approvals := by
  cases op <;> cases choice <;> simp only [performRunOp, reduceCtorEq, Option.some.injEq,
    Prod.mk.injEq] at performed <;> try (obtain ⟨-, rfl⟩ := performed; rfl)
  case clearWorkflowRunBlock =>
    split at performed <;> cases performed <;> rfl
  all_goals cases reads

/-- Why a handler starts. -/
inductive Launch where
  /-- The queue hands the run job to a worker. -/
  | job
  /-- A worker gets the run job once more, outside the queue's bookkeeping. -/
  | redelivery
  | continuation (payload : ContinuationPayload)
  | approve (approvalId : Workflow.Uuid) (note : Option String)
  | reject (approvalId : Workflow.Uuid) (note : Option String)

inductive Tick where
  | clock (ms : Nat)
  | evict

def handlerEntry (env : RunEnv) : Launch → RunProgram (NodeLoop ⊕ Outcome)
  | .job | .redelivery => processWorkflowRunJob env
  | .continuation payload => .inr <$> processContinuationPayload env payload
  | .approve approvalId note => .inr <$> Api.approve env approvalId note
  | .reject approvalId note => .inr <$> Api.reject approvalId note

namespace RunStore

/-- Only the queue's own delivery needs a job. -/
def launch : Launch → RunStore → Option RunStore
  | .job, st => st.job.take.map fun job => { st with job }
  | _, st => some st

/-- The queue learns how its delivery ended. -/
def finish : Launch → Outcome → RunStore → RunStore
  | .job, .returned, st => { st with job := st.job.succeed }
  | .job, .threw _, st => { st with job := st.job.throw }
  | _, _, st => st

def tick : Tick → RunStore → Option RunStore
  | .clock ms, st => some { st with now := st.now + ms }
  | .evict, st => st.job.evict.map fun job => { st with job }

variable {st st' : RunStore}

theorem launch_job (launched : launch .job st = some st') :
    ∃ job, st.job.take = some job ∧ st' = { st with job } := by
  obtain ⟨job, taken, rfl⟩ := Option.map_eq_some_iff.mp launched
  exact ⟨job, taken, rfl⟩

theorem launch_other {l : Launch} (other : l ≠ .job) (launched : launch l st = some st') :
    st' = st := by
  cases l <;> first | contradiction | exact (Option.some.inj launched).symm

theorem launch_frame {l : Launch} (launched : launch l st = some st') :
    st'.row = st.row ∧ st'.approvals = st.approvals ∧ st'.now = st.now := by
  by_cases queue : l = .job
  · subst queue
    obtain ⟨job, -, rfl⟩ := launch_job launched
    exact ⟨rfl, rfl, rfl⟩
  · rw [launch_other queue launched]
    exact ⟨rfl, rfl, rfl⟩

theorem finish_other {l : Launch} (other : l ≠ .job) (o : Outcome) : finish l o st = st := by
  cases l <;> first | contradiction | rfl

theorem finish_frame (l : Launch) (o : Outcome) (st : RunStore) :
    (finish l o st).row = st.row ∧ (finish l o st).approvals = st.approvals ∧
      (finish l o st).now = st.now := by
  cases l <;> cases o <;> exact ⟨rfl, rfl, rfl⟩

theorem tick_frame {t : Tick} (ticked : tick t st = some st') :
    st'.row = st.row ∧ st'.approvals = st.approvals := by
  cases t with
  | clock ms =>
    obtain rfl := Option.some.inj ticked
    exact ⟨rfl, rfl⟩
  | evict =>
    obtain ⟨job, -, rfl⟩ := Option.map_eq_some_iff.mp ticked
    exact ⟨rfl, rfl⟩

end RunStore

/-- The system of the handlers of one run. -/
def runSystem (env : RunEnv) : System RunOps where
  Store := RunStore
  Launch := Launch
  Loop := NodeLoop
  Outcome := Outcome
  Choice := Choice
  Tick := Tick
  perform := performRunOp
  launch := RunStore.launch
  entry := handlerEntry env
  body _ loop := runJobIteration env loop
  finish := RunStore.finish
  tick := RunStore.tick

/-- A run with no handler started yet. -/
def initialState (env : RunEnv) (now : Int) : (runSystem env).State :=
  { store := .created env.run.maxAttempts now, process := fun _ => none }

/-! ### A sample run

Pieces of the schedules that refute a property at a concrete run. -/

namespace Sample

open Workflow

def sampleEnv : RunEnv where
  run := { id := "r", organizationId := "o", workflowId := "w", requestedByUserId := "u",
           maxAttempts := 2, input := none }
  js := { localeCompare := fun _ _ => .eq, number := fun _ => none, inherited := fun _ _ => .undefined }
  registered _ := true
  continuationQueue := true
  nodeExecTimeoutMs := 60000
  approvalTtlSec := 86400
  retryBackoffMs := 5000
  schemaError _ := "INVALID_DSL"

def remoteNode (id : String) : WorkflowNode :=
  .agentExecute id (some { execution := some { mode := .executor, selector := none },
                           task := none, sandbox := none })

/-- A published workflow that runs `nodes` in order. -/
def workflow (nodes : List WorkflowNode) : Choice :=
  .workflow { published := true, dsl := some (.v2 { trigger := .manual, nodes }) }

/-- The executor of a remote node dispatches it. -/
def blocks (id : String) : Choice :=
  .answer (.ok { status := .blocked,
                 block := some { kind := .agentExecute, payload := .agentExecute id none } })

def succeeds : Choice := .answer (.ok { status := .succeeded, output := some .null })

def fails : Choice := .answer (.ok (failed "NODE_EXECUTION_FAILED"))

/-- A poll or an applied result for a node of the first attempt. -/
def continuation (nodeId : String) (kind : ContinuationKind) : Launch :=
  .continuation { dispatchNodeId := nodeId, attemptCount := 1, kind }

def result : GatewayDispatchResponse := { status := .succeeded, output := none, error := none }

/-- Handler `id` performs operations with these answers. -/
def calls (id : Nat) (choices : List Choice) : List (runSystem sampleEnv).Action :=
  choices.map (.call id ·)

/-- A delivery reads a queued run and starts its attempt. -/
def start (id : Nat) (nodes : List WorkflowNode) : List (runSystem sampleEnv).Action :=
  .launch id .job ::
    calls id [.none, .settings none, .rules [], workflow nodes, .none, .none] ++ [.loop id]

/-- A delivery reads a running run and goes on with it. -/
def resume (id : Nat) (nodes : List WorkflowNode) : List (runSystem sampleEnv).Action :=
  .launch id .job :: calls id [.none, .settings none, .rules [], workflow nodes] ++ [.loop id]

/-- The delivery dispatches the remote node and returns. -/
def dispatch (id : Nat) (nodeId : String) : List (runSystem sampleEnv).Action :=
  calls id [.none, blocks nodeId, .dispatched (.ok ()), .none, .none, .none, .none] ++ [.finish id]

/-- A continuation stores the result of a node of the first attempt and resumes the run. -/
def apply (id : Nat) (nodeId : String) (nodes : List WorkflowNode) :
    List (runSystem sampleEnv).Action :=
  .launch id (continuation nodeId (.apply result)) ::
    calls id [.none, workflow nodes, .none, .none, .none, .none] ++ [.finish id]

end Sample

end Vespid
