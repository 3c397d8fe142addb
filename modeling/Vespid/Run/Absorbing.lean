import Vespid.Run.Discipline

/-!
# Terminal run states

The updates of a run's status name the row by its id alone, so a handler may write on the
strength of a check that no longer holds. While none does, a succeeded or failed run keeps
its status in every interleaving of its handlers.
-/

namespace Vespid

open Interleaving Worker Workflow

/-- The updates that write the status of a run. -/
def RunOp.writesStatus : RunOp → Bool
  | .markWorkflowRunRunning _ | .markWorkflowRunQueuedForRetry .. | .markWorkflowRunSucceeded _
  | .markWorkflowRunFailed _ => true
  | _ => false

/-- The status and attempt count of the run in a handler's last check or update of it. -/
def Stage.known : Stage → Option (RunStatus × Nat)
  | .starting known => some (.queued, known)
  | .working known | .requested known _ => some (.running, known)
  | .checked payload => some (.running, payload.attemptCount)
  | .failing _ known => some (.running, known)
  | _ => none

variable {env : RunEnv} {s t : (runSystem env).State} {a : (runSystem env).Action}

/-- A handler that updates the status finds the one it last checked or wrote. -/
def StatusFresh (s : (runSystem env).State) : (runSystem env).Action → Prop :=
  (runCertified env).Performing (fun stage op => op.writesStatus → ∀ known ∈ stage.known,
    s.store.row.status = known.1) s

instance : Decidable (StatusFresh s a) := inferInstanceAs (Decidable ((runCertified env).Performing _ s a))

theorem RunOp.rowAfter_status {op : RunOp} (reads : op.writesStatus = false) (row : WorkflowRun) :
    (op.rowAfter row).status = row.status := by
  cases op <;> simp only [writesStatus, reduceCtorEq] at reads <;> try rfl
  case clearWorkflowRunBlock expected output =>
    cases cleared : row.clearBlock expected output with
    | none => simp [rowAfter, cleared]
    | some row' =>
      obtain ⟨-, rfl⟩ := WorkflowRun.clearBlock_eq_some_iff.mp cleared
      simp [rowAfter, cleared]

theorem Stage.known_live {s : Stage} {known : RunStatus × Nat} (knows : s.known = some known) :
    known.1.terminal = false := by
  cases s <;> simp only [Stage.known, Option.some.injEq, reduceCtorEq] at knows <;> subst knows <;>
    rfl

/-- A status is only updated by a handler that found the run live. -/
theorem Stage.knows_of_permits {stage : Stage} {op : RunOp} (permitted : stage.permits env op)
    (writes : op.writesStatus) : ∃ known, stage.known = some known := by
  cases op <;> simp only [RunOp.writesStatus, Bool.false_eq_true] at writes
  case markWorkflowRunRunning =>
    obtain ⟨_, rfl, -⟩ := permitted
    exact ⟨_, rfl⟩
  case markWorkflowRunQueuedForRetry =>
    rcases permitted with ⟨_, rfl, -⟩ | ⟨_, rfl, -⟩ <;> exact ⟨_, rfl⟩
  case markWorkflowRunSucceeded =>
    obtain ⟨_, rfl⟩ := permitted
    exact ⟨_, rfl⟩
  case markWorkflowRunFailed =>
    rcases permitted with ⟨_, rfl⟩ | ⟨_, rfl⟩ | ⟨_, rfl⟩ | ⟨_, _, rfl⟩ <;> exact ⟨_, rfl⟩

theorem stepped_status (all : (runCertified env).AllFollow s) (fresh : StatusFresh s a)
    (terminal : s.store.row.status.terminal) (stepped : System.Stepped s a t) :
    t.store.row.status = s.store.row.status := by
  rcases stepped_row all stepped with same | ⟨stage, op, issues, permitted, row⟩
  · rw [same]
  · rw [row]
    cases writes : op.writesStatus with
    | false => exact RunOp.rowAfter_status writes _
    | true =>
      obtain ⟨known, knows⟩ := Stage.knows_of_permits permitted writes
      have same := fresh (stage, op) issues writes known knows
      rw [same, Stage.known_live knows] at terminal
      cases terminal

/-- The remote node of a run is dispatched and its result applied; then the run succeeds. -/
def Sample.answeredNode : List (runSystem Sample.sampleEnv).Action :=
  start 0 [remoteNode "n"] ++ dispatch 0 "n" ++ apply 1 "n" [remoteNode "n"] ++
    resume 2 [remoteNode "n"] ++ calls 2 [.none, succeeds, .none, .none] ++ .loop 2 ::
      calls 2 [.none]

namespace Sample

def overtakenPoll : List (runSystem sampleEnv).Action :=
  start 0 [remoteNode "n"] ++ dispatch 0 "n" ++
    -- the poll checks the block, finds it timed out and pauses before its update
    .tick (.clock 60000) :: .launch 1 (continuation "n" .poll) ::
      calls 1 [.none, workflow [remoteNode "n"], .none, .none, .none, .none] ++
    .launch 2 (continuation "n" (.apply result)) ::
      calls 2 [.none, workflow [remoteNode "n"], .none, .none, .none, .none] ++ .finish 2 ::
    resume 3 [remoteNode "n"] ++ calls 3 [.none, succeeds, .none, .none] ++ .loop 3 ::
      calls 3 [.none]

theorem overtakenPoll_succeeded :
    (System.exec (fun _ _ => True) (initialState sampleEnv 0) overtakenPoll).map (·.store.row.status) =
      some .succeeded := by
  decide +kernel

theorem overtakenPoll_requeued :
    ((System.exec (fun _ _ => True) (initialState sampleEnv 0) overtakenPoll).bind
      (System.exec (fun _ _ => True) · (calls 1 [.none]))).map (·.store.row.status) = some .queued := by
  decide +kernel

end Sample

end Vespid
