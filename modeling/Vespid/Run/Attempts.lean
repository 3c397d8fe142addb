import Vespid.Run.Absorbing

/-!
# Attempts

A run's attempt count is computed from an earlier read, and the retry decision of a
continuation from the attempt in its payload. While every update of the status or the block
finds the status and count its handler knows, attempts stay within their bound, grow one at a
time, and a continuation of another attempt changes nothing.
-/

namespace Vespid

open Interleaving Worker Workflow

/-- The updates that name the row by its id alone and write its status or its block. -/
def RunOp.unguarded : RunOp → Bool
  | .markWorkflowRunBlocked .. => true
  | op => op.writesStatus

variable {env : RunEnv} {s t : (runSystem env).State} {a : (runSystem env).Action}

/-- A handler that updates the status or the block finds the status and the attempt count it
last checked or wrote. -/
def AttemptFresh (s : (runSystem env).State) : (runSystem env).Action → Prop :=
  (runCertified env).Performing (fun stage op => op.unguarded → ∀ known ∈ stage.known,
    s.store.row.status = known.1 ∧ s.store.row.attemptCount = known.2) s

instance : Decidable (AttemptFresh s a) := inferInstanceAs (Decidable ((runCertified env).Performing _ s a))

/-- What the attempt count of a row satisfies. -/
structure AttemptInv (env : RunEnv) (row : WorkflowRun) : Prop where
  bounded : row.attemptCount ≤ env.run.maxAttempts
  retryable : row.status = .queued → row.attemptCount < env.run.maxAttempts
  counted : row.status = .running → 1 ≤ row.attemptCount
  /-- A block is an approval's or belongs to the current attempt. -/
  ofAttempt : ∀ block, row.blocked = some block → (∃ id : Uuid, block.requestId = id.value) ∨
    ∃ nodeId, block.requestId = requestIdOf env.run.id nodeId row.attemptCount

theorem attemptInv_created (one : 1 ≤ env.run.maxAttempts) : AttemptInv env .created where
  bounded := Nat.zero_le _
  retryable _ := one
  counted running := by cases running
  ofAttempt _ blocked := by cases blocked

/-! ### One operation -/

section operation
variable {stage : Stage} {op : RunOp} {row : WorkflowRun}

/-- An operation that is not an unguarded update keeps everything the invariant reads, or
clears the block. -/
theorem RunOp.rowAfter_guarded (guarded : op.unguarded = false) (row : WorkflowRun) :
    (op.rowAfter row).status = row.status ∧ (op.rowAfter row).attemptCount = row.attemptCount ∧
      ((op.rowAfter row).blocked = row.blocked ∨ (op.rowAfter row).blocked = none) := by
  cases op <;> simp only [unguarded, writesStatus, reduceCtorEq] at guarded <;>
    try exact ⟨rfl, rfl, .inl rfl⟩
  case clearWorkflowRunBlock expected output =>
    cases cleared : row.clearBlock expected output with
    | none => simp [rowAfter, cleared]
    | some row' =>
      obtain ⟨-, rfl⟩ := WorkflowRun.clearBlock_eq_some_iff.mp cleared
      simp [rowAfter, cleared]

theorem attemptInv_guarded (inv : AttemptInv env row) (guarded : op.unguarded = false) :
    AttemptInv env (op.rowAfter row) := by
  obtain ⟨status, count, blocked⟩ := RunOp.rowAfter_guarded guarded row
  refine ⟨by rw [count]; exact inv.bounded, ?_, ?_, ?_⟩
  · rw [status, count]
    exact inv.retryable
  · rw [status, count]
    exact inv.counted
  · intro block here
    rcases blocked with same | cleared
    · rw [count]
      exact inv.ofAttempt block (same ▸ here)
    · rw [cleared] at here
      cases here

theorem attemptInv_operation (inv : AttemptInv env row) (permitted : stage.permits env op)
    (fresh : op.unguarded → ∀ known ∈ stage.known,
      row.status = known.1 ∧ row.attemptCount = known.2) : AttemptInv env (op.rowAfter row) := by
  cases guarded : op.unguarded with
  | false => exact attemptInv_guarded inv guarded
  | true =>
    replace fresh := fresh guarded
    cases op <;> simp only [RunOp.unguarded, RunOp.writesStatus, Bool.false_eq_true] at guarded
    case markWorkflowRunRunning attempt =>
      obtain ⟨known, rfl, rfl⟩ := permitted
      obtain ⟨queued, rfl⟩ := fresh _ rfl
      exact ⟨inv.retryable queued, (by rintro ⟨⟩), fun _ => Nat.le_add_left 1 _, (by rintro _ ⟨⟩)⟩
    case markWorkflowRunBlocked cursor block output =>
      refine ⟨inv.bounded, inv.retryable, inv.counted, ?_⟩
      rintro _ ⟨⟩
      rcases permitted with ⟨known, rfl, -, nodeId, request⟩ | ⟨known, id, rfl, -, request⟩
      · obtain ⟨running, rfl⟩ := fresh _ rfl
        have counted := inv.counted running
        rw [Nat.max_eq_right counted] at request
        exact .inr ⟨nodeId, request⟩
      · exact .inl ⟨id, request⟩
    case markWorkflowRunQueuedForRetry error nextAttemptAt =>
      have below : row.attemptCount < env.run.maxAttempts := by
        rcases permitted with ⟨known, rfl, below⟩ | ⟨payload, rfl, below⟩
        · obtain ⟨-, rfl⟩ := fresh _ rfl
          omega
        · obtain ⟨-, same⟩ := fresh _ rfl
          simp only at same
          omega
      exact ⟨inv.bounded, fun _ => below, (by rintro ⟨⟩), (by rintro _ ⟨⟩)⟩
    case markWorkflowRunSucceeded output =>
      exact ⟨inv.bounded, (by rintro ⟨⟩), (by rintro ⟨⟩), inv.ofAttempt⟩
    case markWorkflowRunFailed error =>
      exact ⟨inv.bounded, (by rintro ⟨⟩), (by rintro ⟨⟩), (by rintro _ ⟨⟩)⟩

/-- The count changes only where a queued run starts, and then by one. -/
theorem attempt_grows (permitted : stage.permits env op)
    (fresh : op.unguarded → ∀ known ∈ stage.known,
      row.status = known.1 ∧ row.attemptCount = known.2) :
    (row.status = .queued ∧ (op.rowAfter row).status = .running ∧
        (op.rowAfter row).attemptCount = row.attemptCount + 1) ∨
      (¬(row.status = .queued ∧ (op.rowAfter row).status = .running) ∧
        (op.rowAfter row).attemptCount = row.attemptCount) := by
  cases guarded : op.unguarded with
  | false =>
    obtain ⟨status, count, -⟩ := RunOp.rowAfter_guarded guarded row
    rw [status, count]
    refine .inr ⟨fun both => ?_, rfl⟩
    rw [both.1] at both
    cases both.2
  | true =>
    replace fresh := fresh guarded
    cases op <;> simp only [RunOp.unguarded, RunOp.writesStatus, Bool.false_eq_true] at guarded
    case markWorkflowRunRunning attempt =>
      obtain ⟨known, rfl, rfl⟩ := permitted
      obtain ⟨queued, rfl⟩ := fresh _ rfl
      exact .inl ⟨queued, rfl, rfl⟩
    case markWorkflowRunBlocked cursor block output =>
      exact .inr ⟨fun both => by simp [RunOp.rowAfter, WorkflowRun.markBlocked, both.1] at both, rfl⟩
    all_goals exact .inr ⟨fun both => absurd both.2 (by rintro ⟨⟩), rfl⟩

end operation

/-! ### The continuations of another attempt -/

/-- A continuation of another attempt writes nothing. -/
theorem otherAttempt_writes_nothing {payload : ContinuationPayload} {stage : Stage} {op : RunOp}
    {row : WorkflowRun} (inv : AttemptInv env row) (of : (Launch.continuation payload).Has stage)
    (other : payload.attemptCount ≠ row.attemptCount) (permitted : stage.permits env op)
    (fresh : op.unguarded → ∀ known ∈ stage.known,
      row.status = known.1 ∧ row.attemptCount = known.2) : op.rowAfter row = row := by
  have stale : ∀ p, stage = .checked p → op.unguarded = true → False := by
    rintro p rfl unguarded
    cases of
    exact other (fresh unguarded _ rfl).2.symm
  cases op <;> try rfl
  case markWorkflowRunRunning =>
    obtain ⟨_, rfl, -⟩ := permitted
    cases of
  case markWorkflowRunBlocked =>
    rcases permitted with ⟨_, rfl, -⟩ | ⟨_, _, rfl, -⟩ <;> cases of
  case updateWorkflowRunProgress =>
    obtain ⟨_, rfl⟩ := permitted
    cases of
  case markWorkflowRunQueuedForRetry =>
    rcases permitted with ⟨_, rfl, -⟩ | ⟨p, rfl, -⟩
    · cases of
    · exact (stale p rfl rfl).elim
  case markWorkflowRunSucceeded =>
    obtain ⟨_, rfl⟩ := permitted
    cases of
  case markWorkflowRunFailed =>
    rcases permitted with ⟨_, rfl⟩ | ⟨_, rfl⟩ | ⟨p, rfl⟩ | ⟨_, _, rfl⟩
    · cases of
    · cases of
    · exact (stale p rfl rfl).elim
    · cases of
  case clearWorkflowRunBlock expected output =>
    rcases permitted with ⟨p, rfl, rfl⟩ | ⟨_, rfl, -⟩ | ⟨_, _, rfl, -⟩
    · cases of
      cases cleared : row.clearBlock (payload.requestId env) output with
      | none => simp [RunOp.rowAfter, cleared]
      | some row' =>
        -- the row is blocked on a request of this attempt, which the payload's is not
        obtain ⟨here, -⟩ := WorkflowRun.clearBlock_eq_some_iff.mp cleared
        obtain ⟨block, blocked, request⟩ := Option.map_eq_some_iff.mp here
        rcases inv.ofAttempt block blocked with ⟨id, same⟩ | ⟨nodeId, same⟩
        · exact (uuid_ne_requestIdOf id _ _ _ (same.symm.trans request)).elim
        · exact (other (requestIdOf_inj (request.symm.trans same)).2).elim
    · cases of
    · cases of

/-! ### Every run -/

theorem attemptInv_reachable {now : Int} (one : 1 ≤ env.run.maxAttempts)
    (run : System.Steps AttemptFresh (initialState env now) s) :
    (runCertified env).AllFollow s ∧ AttemptInv env s.store.row := by
  refine (runCertified env).invariant (fun s => AttemptInv env s.store.row) (fun _ => rfl)
    (attemptInv_created one) ?_ run
  intro t a u all inv fresh stepped
  rcases stepped_row all stepped with same | ⟨stage, op, issues, permitted, row⟩
  · rw [same]
    exact inv
  · rw [row]
    exact attemptInv_operation inv permitted (fresh _ issues)

/-- The count is bounded, grows by one where a queued run starts and nowhere else, and a
continuation of another attempt leaves the run as it is. -/
theorem attempts_bounded {now : Int} (one : 1 ≤ env.run.maxAttempts)
    (run : System.Steps AttemptFresh (initialState env now) s) :
    s.store.row.attemptCount ≤ env.run.maxAttempts ∧
      ∀ a t, AttemptFresh s a → System.step s a = some t →
        ((s.store.row.status = .queued ∧ t.store.row.status = .running →
            t.store.row.attemptCount = s.store.row.attemptCount + 1) ∧
          (¬(s.store.row.status = .queued ∧ t.store.row.status = .running) →
            t.store.row.attemptCount = s.store.row.attemptCount)) ∧
        ∀ id choice p payload, a = .call id choice → s.process id = some p →
          p.launch = .continuation payload → payload.attemptCount ≠ s.store.row.attemptCount →
          t.store.row = s.store.row := by
  obtain ⟨all, inv⟩ := attemptInv_reachable one run
  refine ⟨inv.bounded, fun a t fresh step => ?_⟩
  rcases stepped_row all (System.step_cases step) with same | ⟨stage, op, issues, permitted, row⟩
  · refine ⟨⟨fun both => ?_, fun _ => by rw [same]⟩, fun _ _ _ _ _ _ _ _ => same⟩
    rw [same, both.1] at both
    cases both.2
  · constructor
    · rw [row]
      rcases attempt_grows permitted (fresh _ issues) with ⟨queued, running, grown⟩ | ⟨no, kept⟩
      · exact ⟨fun _ => grown, fun no => (no ⟨queued, running⟩).elim⟩
      · exact ⟨fun both => (no both).elim, fun _ => kept⟩
    · rintro id choice p payload rfl here launched other
      rw [row]
      refine otherAttempt_writes_nothing inv ?_ other permitted (fresh _ issues)
      obtain ⟨_, _, q, same, there, rfl⟩ := Certified.issued_cases _ issues
      obtain ⟨rfl, rfl⟩ := System.Action.call.inj same
      obtain rfl := Option.some.inj (here.symm.trans there)
      exact launched ▸ view_has p

theorem attempts_bounded_answered : ∃ s : (runSystem Sample.sampleEnv).State,
    s.store.row.status = .succeeded ∧ s.store.row.attemptCount = 1 ∧
      s.store.row.attemptCount ≤ Sample.sampleEnv.run.maxAttempts := by
  have answered : (System.exec AttemptFresh (initialState Sample.sampleEnv 0)
      Sample.answeredNode).map (fun s => (s.store.row.status, s.store.row.attemptCount)) =
        some (.succeeded, 1) := by decide +kernel
  obtain ⟨s, run, same⟩ := Option.map_eq_some_iff.mp answered
  obtain ⟨succeeded, count⟩ := Prod.mk.inj same
  exact ⟨s, succeeded, count, (attempts_bounded (by decide) (System.steps_of_exec run)).1⟩

/-! ### A stale poll

A poll of the first attempt pauses before it requeues the run. The node's failure requeues it
first, the last attempt starts, and the poll requeues that attempt too. -/

def Sample.requeuedTwice : List (runSystem Sample.sampleEnv).Action :=
  start 0 [remoteNode "n"] ++ dispatch 0 "n" ++
    .tick (.clock 60000) :: .launch 1 (continuation "n" .poll) ::
      calls 1 [.none, workflow [remoteNode "n"], .none, .none, .none, .none] ++
    .launch 2 (continuation "n" (.apply { result with status := .failed })) ::
      calls 2 [.none, workflow [remoteNode "n"], .none, .none, .none, .none, .none, .none, .none] ++
      .finish 2 ::
    start 3 [remoteNode "n"] ++ dispatch 3 "n" ++ calls 1 [.none, .none, .none, .none] ++
    start 4 [remoteNode "n"]

/-- Without that condition a run exceeds its attempts. -/
theorem attempts_not_bounded :
    ¬∀ (env : RunEnv) (now : Int) (s : (runSystem env).State), 1 ≤ env.run.maxAttempts →
      System.Steps (fun _ _ => True) (initialState env now) s →
      s.store.row.attemptCount ≤ env.run.maxAttempts := by
  intro bounded
  have third : (System.exec (fun _ _ => True) (initialState Sample.sampleEnv 0)
      Sample.requeuedTwice).map (·.store.row.attemptCount) = some 3 := by decide +kernel
  obtain ⟨s, run, count⟩ := Option.map_eq_some_iff.mp third
  have two := bounded Sample.sampleEnv 0 s (by decide) (System.steps_of_exec run)
  rw [count] at two
  revert two
  decide

end Vespid
