import Vespid.Run.Attempts

/-!
# Runs and their jobs

A run that is queued, or running and not blocked, needs a job that will be delivered. The
row and the job live in two stores and are written by two processes, one step after the
other. While deliveries that requeue their run have attempts left and every enqueue finds
the job gone or still pending, no run is left without a job.
-/

namespace Vespid

open Interleaving Worker Workflow

/-- Queued, or running and not blocked. -/
def WorkflowRun.Needs (row : WorkflowRun) : Prop :=
  row.status = .queued ∨ row.status = .running ∧ row.blocked = none

/-- A handler in this stage will write the row or enqueue the run before it ends. -/
def Stage.covers : Stage → Bool
  | .delivered | .starting _ | .working _ | .requested .. | .retrying | .owing | .failing .. => true
  | _ => false

/-- A delivery in this stage is past the start of its attempt. -/
def Stage.started : Stage → Bool
  | .working _ | .requested .. | .done => true
  | _ => false

def Stage.isWorking : Stage → Bool
  | .working _ => true
  | _ => false

/-- What ties the job to the row, given the running handlers. -/
structure QueueInv (row : WorkflowRun) (job : RunJob) (crew : Nat → Option (Launch × Stage)) :
    Prop where
  queueOnly : ∀ id stage, crew id ≠ some (.redelivery, stage)
  active : ∀ id stage, crew id = some (.job, stage) → job.isActive
  single : ∀ id id' stage stage', crew id = some (.job, stage) → crew id' = some (.job, stage') →
    id = id'
  retry : ∀ id, crew id = some (.job, .retrying) → job.attemptsLeft
  /-- A run that is queued while its delivery works was put there by a handler that still owes
  the enqueue. -/
  owed : row.status = .queued → ∀ id stage, crew id = some (.job, stage) → stage.started →
    ∃ id' l, crew id' = some (l, .owing)
  covered : row.Needs → job.pending ∨ ∃ id l stage, crew id = some (l, stage) ∧ stage.covers

variable {env : RunEnv} {row row' : WorkflowRun} {job job' : RunJob}
  {crew : Nat → Option (Launch × Stage)}

/-! ### Launches and endings -/

theorem queueInv_created (attempts : Nat) :
    QueueInv .created (.waiting 0 attempts) fun _ => none where
  queueOnly _ _ here := by cases here
  active _ _ here := by cases here
  single _ _ _ _ here := by cases here
  retry _ here := by cases here
  owed _ _ _ here := by cases here
  covered _ := .inl rfl

section launch
variable {id : Nat} {l : Launch}

theorem queueInv_deliver (inv : QueueInv row job crew) (free : crew id = none)
    (taken : job.take = some job') :
    QueueInv row job' (Function.update crew id (some (.job, .delivered))) := by
  obtain ⟨pending, active⟩ := RunJob.take_pending taken
  have alone (i : Nat) (stage : Stage) : crew i ≠ some (.job, stage) := by
    intro here
    have := RunJob.not_pending_of_active (inv.active i stage here)
    simp [this] at pending
  have only (i : Nat) (stage : Stage)
      (here : Function.update crew id (some (Launch.job, Stage.delivered)) i = some (.job, stage)) :
      i = id ∧ stage = .delivered := by
    by_cases same : i = id
    · subst same
      simpa [eq_comm] using here
    · rw [Function.update_of_ne same] at here
      exact (alone i stage here).elim
  refine ⟨fun i stage here => ?_, fun i stage here => active, fun i i' stage stage' here here' => ?_,
    fun i here => ?_, fun _ i stage here started => ?_, fun _ => .inr ⟨id, .job, .delivered, by simp, rfl⟩⟩
  · by_cases same : i = id
    · subst same
      simp at here
    · rw [Function.update_of_ne same] at here
      exact inv.queueOnly i stage here
  · rw [(only i stage here).1, (only i' stage' here').1]
  · cases (only i _ here).2
  · rw [(only i stage here).2] at started
    cases started

/-- The other launches change neither the row nor the job. -/
theorem queueInv_launch (inv : QueueInv row job crew) (free : crew id = none) (other : l ≠ .job)
    (queue : l ≠ .redelivery) :
    QueueInv row job (Function.update crew id (some (l, l.stage))) := by
  have old (i : Nat) (stage : Stage)
      (here : Function.update crew id (some (l, l.stage)) i = some (.job, stage)) :
      crew i = some (.job, stage) := by
    by_cases same : i = id
    · subst same
      simp [other] at here
    · rwa [Function.update_of_ne same] at here
  have kept (i : Nat) (q : Launch × Stage) (here : crew i = some q) :
      Function.update crew id (some (l, l.stage)) i = some q := by
    rwa [Function.update_of_ne]
    rintro rfl
    rw [free] at here
    cases here
  refine ⟨fun i stage here => ?_, fun i stage here => inv.active i stage (old i stage here),
    fun i i' stage stage' here here' =>
      inv.single i i' stage stage' (old i stage here) (old i' stage' here'),
    fun i here => inv.retry i (old i _ here), fun queued i stage here started => ?_,
    fun needs => (inv.covered needs).imp_right ?_⟩
  · by_cases same : i = id
    · subst same
      simp [queue] at here
    · rw [Function.update_of_ne same] at here
      exact inv.queueOnly i stage here
  · obtain ⟨i', l', owing⟩ := inv.owed queued i stage (old i stage here) started
    exact ⟨i', l', kept i' _ owing⟩
  · rintro ⟨i, l', stage, here, covers⟩
    exact ⟨i, l', stage, kept i _ here, covers⟩

/-- A handler ends that owes nothing, or whose job is due again. -/
theorem queueInv_leave (inv : QueueInv row job crew) {stage : Stage}
    (here : crew id = some (l, stage)) (gone : stage.covers → job'.pending)
    (settled : stage ≠ .owing) (pending : job.pending → job'.pending)
    (kept : l ≠ .job → job' = job) :
    QueueInv row job' (Function.update crew id none) := by
  have old (i : Nat) (q : Launch × Stage) (there : Function.update crew id none i = some q) :
      i ≠ id ∧ crew i = some q := by
    by_cases same : i = id
    · subst same
      simp at there
    · exact ⟨same, by rwa [Function.update_of_ne same] at there⟩
  have stays (i : Nat) (q : Launch × Stage) (there : crew i = some q) (different : q.2 ≠ stage) :
      Function.update crew id none i = some q := by
    rwa [Function.update_of_ne]
    rintro rfl
    rw [here] at there
    cases there
    exact different rfl
  -- the job of a remaining delivery has not changed
  have same (i : Nat) (s : Stage) (there : Function.update crew id none i = some (.job, s)) :
      job' = job := by
    obtain ⟨different, there⟩ := old i _ there
    apply kept
    rintro rfl
    exact different (inv.single i id s stage there here)
  refine ⟨fun i s there => inv.queueOnly i s (old i _ there).2, fun i s there => ?_,
    fun i i' s s' there there' => inv.single i i' s s' (old i _ there).2 (old i' _ there').2,
    fun i there => ?_, fun queued i s there started => ?_, fun needs => ?_⟩
  · rw [same i s there]
    exact inv.active i s (old i _ there).2
  · rw [same i _ there]
    exact inv.retry i (old i _ there).2
  · obtain ⟨i', l', owing⟩ := inv.owed queued i s (old i _ there).2 started
    exact ⟨i', l', stays i' _ owing settled.symm⟩
  · rcases inv.covered needs with due | ⟨i, l', s, there, covers⟩
    · exact .inl (pending due)
    · by_cases same : s = stage
      · subst same
        exact .inl (gone covers)
      · exact .inr ⟨i, l', s, stays i _ there same, covers⟩

theorem queueInv_finish {st : RunStore} {stage : Stage} {o : Outcome}
    (inv : QueueInv st.row st.job crew) (here : crew id = some (l, stage))
    (ended : l.Ended o stage) :
    QueueInv (RunStore.finish l o st).row (RunStore.finish l o st).job
      (Function.update crew id none) := by
  have settled (other : l ≠ .job) (settled : stage.Settled) :
      QueueInv (RunStore.finish l o st).row (RunStore.finish l o st).job
        (Function.update crew id none) := by
    rw [RunStore.finish_other other]
    refine queueInv_leave inv here ?_ ?_ (fun due => due) fun _ => rfl
    · cases stage <;> simp_all [Stage.Settled, Stage.covers]
    · rintro rfl
      cases settled
  cases l with
  | job =>
    have active := inv.active id stage here
    have due : st.job.pending = false := RunJob.not_pending_of_active active
    rcases ended with ⟨rfl, rfl⟩ | ⟨⟨message, rfl⟩, rfl⟩
    · exact queueInv_leave inv here (by rintro ⟨⟩) (by rintro ⟨⟩) (fun d => by simp [due] at d)
        fun other => (other rfl).elim
    · exact queueInv_leave inv here (fun _ => RunJob.throw_pending (inv.retry id here)) (by rintro ⟨⟩)
        (fun d => by simp [due] at d) fun other => (other rfl).elim
  | redelivery => exact (inv.queueOnly id stage here).elim
  | continuation payload => exact settled (by rintro ⟨⟩) ended
  | approve approvalId note => exact settled (by rintro ⟨⟩) ended
  | reject approvalId note => exact settled (by rintro ⟨⟩) ended

theorem queueInv_tick {st st' : RunStore} {tick : Tick} (inv : QueueInv st.row st.job crew)
    (ticked : RunStore.tick tick st = some st') : QueueInv st'.row st'.job crew := by
  cases tick with
  | clock ms =>
    obtain rfl := Option.some.inj ticked
    exact inv
  | evict =>
    obtain ⟨job, evicted, rfl⟩ := Option.map_eq_some_iff.mp ticked
    obtain ⟨due, idle, rfl⟩ := RunJob.evict_cases evicted
    have alone (i : Nat) (stage : Stage) : crew i ≠ some (.job, stage) := by
      intro here
      simp [inv.active i stage here] at idle
    exact ⟨inv.queueOnly, fun i s here => (alone i s here).elim, inv.single,
      fun i here => (alone i _ here).elim, inv.owed,
      fun needs => .inr ((inv.covered needs).resolve_left (by simp [due]))⟩

end launch

/-! ### Operations -/

section call
variable {id : Nat} {l : Launch} {stage stage' : Stage}

/-- What is left to show of an operation: who owes an enqueue, and who covers the run. -/
theorem queueInv_call (inv : QueueInv row job crew) (here : crew id = some (l, stage))
    (active : job.isActive → job' = job) (retry : l = .job → stage' = .retrying → job.attemptsLeft)
    (owed : row'.status = .queued → ∀ i s,
      Function.update crew id (some (l, stage')) i = some (.job, s) → s.started →
      ∃ i' l', Function.update crew id (some (l, stage')) i' = some (l', .owing))
    (covered : row'.Needs → job'.pending ∨
      ∃ i l' s, Function.update crew id (some (l, stage')) i = some (l', s) ∧ s.covers) :
    QueueInv row' job' (Function.update crew id (some (l, stage'))) := by
  -- a delivery after the operation was one before it
  have old (i : Nat) (l' : Launch) (s : Stage)
      (there : Function.update crew id (some (l, stage')) i = some (l', s)) :
      ∃ s', crew i = some (l', s') := by
    by_cases same : i = id
    · subst same
      rw [Function.update_self] at there
      cases there
      exact ⟨stage, here⟩
    · rw [Function.update_of_ne same] at there
      exact ⟨s, there⟩
  refine ⟨fun i s there => ?_, fun i s there => ?_, fun i i' s s' there there' => ?_,
    fun i there => ?_, owed, covered⟩
  · obtain ⟨s', there⟩ := old i _ s there
    exact inv.queueOnly i s' there
  · obtain ⟨s', there⟩ := old i _ s there
    have works := inv.active i s' there
    rw [active works]
    exact works
  · obtain ⟨t, there⟩ := old i _ s there
    obtain ⟨t', there'⟩ := old i' _ s' there'
    exact inv.single i i' t t' there there'
  · obtain ⟨s', before⟩ := old i _ _ there
    rw [active (inv.active i s' before)]
    by_cases same : i = id
    · subst same
      rw [Function.update_self] at there
      cases there
      exact retry rfl rfl
    · rw [Function.update_of_ne same] at there
      exact inv.retry i there

/-- Another handler in stage `s` stays in it. -/
theorem stays (here : crew id = some (l, stage)) {i : Nat} {l' : Launch} {s : Stage}
    (there : crew i = some (l', s)) (different : s ≠ stage) :
    Function.update crew id (some (l, stage')) i = some (l', s) := by
  rwa [Function.update_of_ne]
  rintro rfl
  rw [here] at there
  cases there
  exact different rfl

/-- An operation that leaves the run's need and its job as they were. -/
theorem queueInv_quiet (inv : QueueInv row job crew) (here : crew id = some (l, stage))
    (status : row'.status = row.status) (needs : row'.Needs → row.Needs ∨ stage'.covers)
    (retry : stage' ≠ .retrying ∨ stage' = stage) (owing : stage = .owing → stage' = .owing)
    (started : row.status = .queued → l = .job → stage'.started → stage.started)
    (covers : stage.covers → row'.Needs → stage'.covers) :
    QueueInv row' job (Function.update crew id (some (l, stage'))) := by
  have keeps {i : Nat} {l' : Launch} (there : crew i = some (l', .owing)) :
      Function.update crew id (some (l, stage')) i = some (l', .owing) := by
    by_cases same : i = id
    · subst same
      rw [here] at there
      obtain ⟨rfl, rfl⟩ := Prod.mk.inj (Option.some.inj there)
      simp [owing rfl]
    · rwa [Function.update_of_ne same]
  refine queueInv_call inv here (fun _ => rfl) ?_ ?_ ?_
  · rintro rfl rfl
    rcases retry with not | rfl
    · exact (not rfl).elim
    · exact inv.retry id here
  · intro queued i s there working
    rw [status] at queued
    by_cases same : i = id
    · subst same
      rw [Function.update_self] at there
      cases there
      obtain ⟨i', l', owes⟩ := inv.owed queued i stage here (started queued rfl working)
      exact ⟨i', l', keeps owes⟩
    · rw [Function.update_of_ne same] at there
      obtain ⟨i', l', owes⟩ := inv.owed queued i s there working
      exact ⟨i', l', keeps owes⟩
  · intro need
    rcases needs need with before | covering
    swap
    · exact .inr ⟨id, l, stage', by simp, covering⟩
    rcases inv.covered before with due | ⟨i, l', s, there, covering⟩
    · exact .inl due
    · by_cases same : i = id
      · subst same
        rw [here] at there
        cases there
        exact .inr ⟨i, l, stage', by simp, covers covering need⟩
      · exact .inr ⟨i, l', s, by rwa [Function.update_of_ne same], covering⟩

/-- An operation after which the run needs no job. -/
theorem queueInv_settled (inv : QueueInv row job crew) (here : crew id = some (l, stage))
    (queued : row'.status ≠ .queued) (needs : ¬row'.Needs) (retry : stage' ≠ .retrying) :
    QueueInv row' job (Function.update crew id (some (l, stage'))) :=
  queueInv_call inv here (fun _ => rfl) (fun _ same => (retry same).elim)
    (fun here => (queued here).elim) fun need => (needs need).elim

/-- An operation after which its handler owes the enqueue. -/
theorem queueInv_owing (inv : QueueInv row job crew) (here : crew id = some (l, stage))
    (active : job.isActive → job' = job) :
    QueueInv row' job' (Function.update crew id (some (l, .owing))) :=
  queueInv_call inv here active (fun _ same => nomatch same) (fun _ _ _ _ _ => ⟨id, l, by simp⟩)
    fun _ => .inr ⟨id, l, .owing, by simp, rfl⟩

/-- The row and the job are as they were and the handler learned nothing. -/
theorem queueInv_neutral (inv : QueueInv row job crew) (here : crew id = some (l, stage)) :
    QueueInv row job (Function.update crew id (some (l, stage))) :=
  queueInv_quiet inv here rfl .inl (.inr rfl) (fun owes => owes) (fun _ _ working => working)
    fun covering _ => covering

theorem delivery_of_has (inv : QueueInv row job crew) (here : crew id = some (l, stage))
    (has : l.Has stage) (working : stage.covers) (noOwing : stage ≠ .owing)
    (noFailing : ∀ approvalId known, stage ≠ .failing approvalId known) : l = .job := by
  cases l with
  | job => rfl
  | redelivery => exact (inv.queueOnly id stage here).elim
  | _ =>
    cases stage <;> simp only [Launch.Has] at has <;> simp_all [Stage.covers]

variable {op : RunOp} {reply : op.Reply} {st st' : RunStore} {choice : Choice}

/-- A delivery that reads a run in need goes on with it. -/
theorem ofRun_quiet (row : WorkflowRun) :
    (Stage.ofRun (some row) ≠ .retrying ∨ Stage.ofRun (some row) = .delivered) ∧
      (row.status = .queued → (Stage.ofRun (some row)).started → Stage.delivered.started) ∧
      (row.Needs → (Stage.ofRun (some row)).covers) := by
  simp only [Stage.ofRun, WorkflowRun.Needs]
  cases row.status <;> cases row.blocked <;> simp [Stage.started, Stage.covers]

theorem queueInv_operation (inv : QueueInv st.row st.job crew) (here : crew id = some (l, stage))
    (has : l.Has stage) (permitted : stage.permits env op)
    (performed : performRunOp op st choice = some (reply, st'))
    (left : ∀ error next, op = .markWorkflowRunQueuedForRetry error next →
      (∃ known, stage = .working known) → st.job.attemptsLeft)
    (free : ∀ delayMs attempts, op = .queueAdd delayMs attempts → st.job.kept = false) :
    QueueInv st'.row st'.job
      (Function.update crew id (some (l, stage.observe env op reply))) := by
  obtain ⟨row, job, -⟩ := performRunOp_store performed
  rw [row, job]
  cases op
  case getWorkflowRunById =>
    obtain ⟨rfl, -⟩ := performRunOp_getRun performed
    cases stage <;> try exact queueInv_neutral inv here
    case delivered =>
      exact queueInv_quiet inv here rfl .inl (ofRun_quiet st.row).1 (by rintro ⟨⟩)
        (fun queued _ => (ofRun_quiet st.row).2.1 queued) fun _ => (ofRun_quiet st.row).2.2
    case received payload =>
      have other : l ≠ .job := by
        rintro rfl
        cases has
      refine queueInv_quiet inv here rfl .inl (.inl ?_) (by rintro ⟨⟩)
        (fun _ job => (other job).elim) (by rintro ⟨⟩)
      simp only [Stage.observe, Stage.ofBlockedRun]
      split <;> simp
  case markWorkflowRunRunning attempt =>
    obtain ⟨known, rfl, rfl⟩ := permitted
    have started := performRunOp_expects performed
    cases reply with
    | none => cases started
    | some _ =>
      exact queueInv_call inv here (fun _ => rfl) (fun _ same => (by cases same))
        (fun queued => (by cases queued))
        fun _ => .inr ⟨id, l, .working (known + 1), by simp [Stage.observe], rfl⟩
  case markWorkflowRunBlocked cursor block output =>
    have works : stage.covers ∧ stage.started ∧ stage ≠ .owing ∧ l = .job ∧
        stage.observe env (.markWorkflowRunBlocked cursor block output) reply = .done := by
      rcases permitted with ⟨known, rfl, -⟩ | ⟨known, approvalId, rfl, -⟩
      · exact ⟨rfl, rfl, (by rintro ⟨⟩),
          delivery_of_has inv here has rfl (by rintro ⟨⟩) (by rintro _ _ ⟨⟩), rfl⟩
      · exact ⟨rfl, rfl, (by rintro ⟨⟩),
          delivery_of_has inv here has rfl (by rintro ⟨⟩) (by rintro _ _ ⟨⟩), rfl⟩
    obtain ⟨-, started, notOwing, rfl, done⟩ := works
    rw [done]
    have owing (queued : st.row.status = .queued) : ∃ i l',
        Function.update crew id (some (Launch.job, Stage.done)) i = some (l', .owing) := by
      obtain ⟨i, l', owes⟩ := inv.owed queued id stage here started
      exact ⟨i, l', stays here owes notOwing.symm⟩
    refine queueInv_call inv here (fun _ => rfl) (fun _ same => (by cases same))
      (fun queued _ _ _ _ => owing queued) ?_
    rintro (queued | ⟨-, unblocked⟩)
    · obtain ⟨i, l', owes⟩ := owing queued
      exact .inr ⟨i, l', .owing, owes, rfl⟩
    · cases unblocked
  case clearWorkflowRunBlock expected output =>
    rcases performRunOp_clear performed with ⟨rfl, -⟩ | ⟨rfl, -, rfl⟩
    · rcases permitted with ⟨payload, rfl, -⟩ | ⟨approvalId, rfl, -⟩ | ⟨approvalId, known, rfl, -⟩
      · exact queueInv_owing inv here fun _ => rfl
      · exact queueInv_owing inv here fun _ => rfl
      · exact queueInv_quiet inv here (RunOp.rowAfter_status rfl _) (fun _ => .inr rfl) (.inr rfl)
          (fun owes => owes) (fun _ _ working => working) fun covering _ => covering
    · rw [← row]
      rcases permitted with ⟨payload, rfl, -⟩ | ⟨approvalId, rfl, -⟩ | ⟨approvalId, known, rfl, -⟩
      · exact queueInv_quiet inv here rfl .inl (.inl (by rintro ⟨⟩)) (by rintro ⟨⟩)
          (fun _ job => by subst job; cases has) (by rintro ⟨⟩)
      · exact queueInv_quiet inv here rfl .inl (.inl (by rintro ⟨⟩)) (by rintro ⟨⟩)
          (fun _ job => by subst job; cases has) (by rintro ⟨⟩)
      · exact queueInv_neutral inv here
  case updateWorkflowRunProgress cursor output =>
    rw [observe_progress]
    exact queueInv_quiet inv here rfl .inl (.inr rfl) (fun owes => owes)
      (fun _ _ working => working) fun covering _ => covering
  case markWorkflowRunQueuedForRetry error nextAttemptAt =>
    rcases permitted with ⟨known, rfl, -⟩ | ⟨payload, rfl, -⟩
    · obtain rfl := delivery_of_has inv here has rfl (by rintro ⟨⟩) (by rintro _ _ ⟨⟩)
      refine queueInv_call inv here (fun _ => rfl) (fun _ _ => left error _ rfl ⟨known, rfl⟩) ?_
        fun _ => .inr ⟨id, .job, .retrying, by simp [Stage.observe], rfl⟩
      intro _ i s there working
      by_cases same : i = id
      · subst same
        rw [Function.update_self] at there
        cases there
        cases working
      · rw [Function.update_of_ne same] at there
        exact (same (inv.single i id s _ there here)).elim
    · exact queueInv_owing inv here fun _ => rfl
  case markWorkflowRunSucceeded output =>
    obtain ⟨known, rfl⟩ := permitted
    exact queueInv_settled inv here (by rintro ⟨⟩)
      (by rintro (same | ⟨same, -⟩) <;> cases same) (by rintro ⟨⟩)
  case markWorkflowRunFailed error =>
    have done : stage.observe env (.markWorkflowRunFailed error) reply = .done := by
      rcases permitted with ⟨_, rfl⟩ | ⟨_, rfl⟩ | ⟨_, rfl⟩ | ⟨_, _, rfl⟩ <;> rfl
    rw [done]
    exact queueInv_settled inv here (by rintro ⟨⟩)
      (by rintro (same | ⟨same, -⟩) <;> cases same) (by rintro ⟨⟩)
  case createWorkflowApprovalRequest nodeId nodeType reason expiresAt =>
    obtain ⟨known, rfl⟩ := permitted
    cases reply with
    | none => exact queueInv_neutral inv here
    | some approval =>
      exact queueInv_quiet inv here rfl .inl (.inl (by rintro ⟨⟩)) (by rintro ⟨⟩)
        (fun _ _ _ => rfl) fun _ _ => rfl
  case decideWorkflowApprovalRequest approvalId status note =>
    have decided : stage.covers = false ∧ stage ≠ .owing ∧ l ≠ .job ∧ stage.observe env
        (.decideWorkflowApprovalRequest approvalId status note) reply ≠ .retrying := by
      rcases permitted with rfl | ⟨rfl, rfl⟩
      · refine ⟨rfl, (by rintro ⟨⟩), (by rintro rfl; cases has), ?_⟩
        simp only [Stage.observe]
        unfold Stage.ofDecision
        split <;> simp
      · exact ⟨rfl, (by rintro ⟨⟩), (by rintro rfl; cases has), by simp [Stage.observe]⟩
    exact queueInv_quiet inv here rfl .inl (.inl decided.2.2.2) (fun owes => (decided.2.1 owes).elim)
      (fun _ job => (decided.2.2.1 job).elim) fun covering => by simp [decided.1] at covering
  case getWorkflowRunByBlockedRequestId requestId =>
    obtain ⟨approvalId, decided, -⟩ := permitted
    have found : stage.covers = false ∧ stage ≠ .owing ∧ l ≠ .job ∧ stage.observe env
        (.getWorkflowRunByBlockedRequestId requestId) reply ≠ .retrying := by
      rcases decided with rfl | rfl <;>
        exact ⟨rfl, (by rintro ⟨⟩), (by rintro rfl; cases has), by cases reply <;> simp [Stage.observe]⟩
    exact queueInv_quiet inv here rfl .inl (.inl found.2.2.2) (fun owes => (found.2.1 owes).elim)
      (fun _ job => (found.2.2.1 job).elim) fun covering => by simp [found.1] at covering
  case queueRemove =>
    cases permitted
    exact queueInv_owing inv here RunJob.remove_of_active
  case queueAdd delayMs attempts =>
    cases permitted
    have idle := RunJob.not_active_of_not_kept (free delayMs attempts rfl)
    refine queueInv_call inv here (fun works => by simp [idle] at works)
      (fun _ same => (by cases same)) ?_
      fun _ => .inl (RunJob.add_of_not_kept (free delayMs attempts rfl) delayMs attempts)
    -- no delivery is running, since the job is not active
    intro _ i s there _
    by_cases same : i = id
    · subst same
      rw [Function.update_self] at there
      cases there
      cases has
    · rw [Function.update_of_ne same] at there
      have works := inv.active i s there
      simp [idle] at works
  all_goals
    simp only [observe_event, observe_settings, observe_rules, observe_workflow,
      observe_hasApproved, observe_getApproval, observe_execute, observe_dispatch, observe_poll,
      observe_fetch, observe_now]
    exact queueInv_neutral inv here

end call

/-! ### Every run -/

variable {s t : (runSystem env).State} {a : (runSystem env).Action}

def isRedelivery : (runSystem env).Action → Bool
  | .launch _ .redelivery => true
  | _ => false

/-- A delivery that requeues its run has attempts left, and an enqueue finds the job gone or
still pending. -/
def RunJob.takes (job : RunJob) (stage : Stage) : RunOp → Bool
  | .markWorkflowRunQueuedForRetry .. => !stage.isWorking || job.attemptsLeft
  | .queueAdd .. => !job.kept
  | _ => true

/-- Deliveries come from the queue, and the queue takes what they put back. -/
def Requeues (s : (runSystem env).State) (a : (runSystem env).Action) : Prop :=
  isRedelivery a = false ∧ (runCertified env).Performing (s.store.job.takes · ·) s a

instance : Decidable (Requeues s a) := inferInstanceAs (Decidable (_ ∧ _))

theorem queueInv_step (all : (runCertified env).AllFollow s)
    (inv : QueueInv s.store.row s.store.job ((runCertified env).crew s)) (requeues : Requeues s a)
    (stepped : System.Stepped s a t) :
    QueueInv t.store.row t.store.job ((runCertified env).crew t) := by
  obtain ⟨queue, requeues⟩ := requeues
  have happened := Certified.happened all stepped
  generalize (runCertified env).crew t = crew at happened ⊢
  generalize t.store = store at happened ⊢
  cases happened with
  | launch free launched =>
    rename_i id l
    by_cases job : l = .job
    · subst job
      obtain ⟨job, taken, rfl⟩ := RunStore.launch_job launched
      exact queueInv_deliver inv free taken
    · rw [RunStore.launch_other job launched]
      exact queueInv_launch inv free job (by rintro rfl; cases queue)
  | call here issues permitted performed =>
    have allowed := requeues _ issues
    refine queueInv_operation inv here (crew_has here) permitted performed ?_ ?_
    · rintro error next rfl ⟨known, rfl⟩
      simpa [RunJob.takes, Stage.isWorking] using allowed
    · rintro delayMs attempts rfl
      simpa [RunJob.takes] using allowed
  | loop => exact inv
  | finish here ended => exact queueInv_finish inv here ended
  | tick ticked => exact queueInv_tick inv ticked

theorem queueInv_reachable {now : Int} (run : System.Steps Requeues (initialState env now) s) :
    QueueInv s.store.row s.store.job ((runCertified env).crew s) :=
  ((runCertified env).invariant
    (fun s => QueueInv s.store.row s.store.job ((runCertified env).crew s))
    (fun _ => rfl) (queueInv_created _)
    (fun _ _ _ all inv requeues stepped => queueInv_step all inv requeues stepped) run).2

/-- A remote node's result takes the run out of its block. -/
def Sample.appliedNode : List (runSystem Sample.sampleEnv).Action :=
  start 0 [remoteNode "n"] ++ dispatch 0 "n" ++ apply 1 "n" [remoteNode "n"]

def Sample.failsAfterResume : List (runSystem Sample.sampleEnv).Action :=
  let nodes := [remoteNode "n", .httpRequest "m" none]
  start 0 nodes ++ dispatch 0 "n" ++ apply 1 "n" nodes ++ resume 2 nodes ++
    calls 2 [.none, succeeds, .none, .none] ++ .loop 2 ::
    calls 2 [.none, fails, .none, .none, .none] ++ [.finish 2]

end Vespid
