import Vespid.Lib.Exclusive
import Vespid.Run.Gate

/-!
# The approval protocol

A delivery creates a request, logs it and blocks the run on it; the routes decide a request,
look the run up, clear the block and enqueue or fail the run. Between handlers, at most one of
them has the run in hand: the delivery that works on it, or the route that decided the
request it is blocked on. Decisions are made once and executors are reached with an approval in every
run. That the block, the decision and the job fit together needs decisions that find the run
blocked on their request, before it expires, and enqueues that find the job gone.
-/

namespace Vespid

open Interleaving Worker Workflow

variable {env : RunEnv}

/-! ### The store seen by a handler -/

def WorkflowRun.WaitsOn (row : WorkflowRun) (id : Uuid) : Prop :=
  ∃ block, row.blocked = some block ∧ block.kind = .approval ∧ block.requestId = id.value

theorem WorkflowRun.WaitsOn.blockedRequestId {row : WorkflowRun} {id : Uuid} (waits : row.WaitsOn id) :
    row.blockedRequestId = some id.value := by
  obtain ⟨block, blocked, -, request⟩ := waits
  simp [WorkflowRun.blockedRequestId, blocked, request]

theorem WorkflowRun.WaitsOn.id_eq {row : WorkflowRun} {id id' : Uuid} (waits : row.WaitsOn id)
    (blocked : row.blockedRequestId = some id'.value) : id = id' := by
  have same := Option.some.inj (waits.blockedRequestId.symm.trans blocked)
  obtain ⟨value, _⟩ := id
  obtain ⟨value', _⟩ := id'
  cases same
  rfl

namespace Approvals

/-- The latest request, on which the run was last blocked or is about to be, is `id`. -/
def LastIs (approvals : Approvals) (id : Uuid) (status : ApprovalStatus) : Prop :=
  ∃ r, approvals.getLast? = some r ∧ r.id = id ∧ r.status = status

/-- No request asks for anything: there is none, or the latest is approved. -/
def Quiet (approvals : Approvals) : Prop := ∀ r, approvals.getLast? = some r → r.status = .approved

theorem LastIs.quiet {approvals : Approvals} {id : Uuid} (last : approvals.LastIs id .approved) :
    approvals.Quiet := by
  obtain ⟨r, here, -, approved⟩ := last
  intro r' there
  rw [here] at there
  rwa [← Option.some.inj there]

/-- A request of that id has the status of the latest. -/
theorem LastIs.status_eq {approvals : Approvals} {r : WorkflowApprovalRequest} {id : Uuid}
    {status : ApprovalStatus} (unique : approvals.Unique) (last : approvals.LastIs id status)
    (mem : r ∈ approvals) (same : r.id = id) : r.status = status := by
  obtain ⟨r', here, rfl, rfl⟩ := last
  rw [unique.eq_of_id mem (List.mem_of_getLast? here) same]

theorem LastIs.decide {approvals : Approvals} {id : Uuid} {status : ApprovalStatus}
    {note : Option String} (last : approvals.LastIs id .pending) :
    (approvals.decide id status note).LastIs id status := by
  obtain ⟨r, here, same, pending⟩ := last
  exact ⟨{ r with status, decisionNote := note },
    by rw [getLast?_decide, here, Option.map_some, if_pos ⟨same, pending⟩], same, rfl⟩

end Approvals

/-- A handler in this stage has the run in hand. -/
def Stage.holds : Stage → Bool
  | .starting _ | .working _ | .requested .. | .retrying | .approved _ | .resuming _ | .owing
  | .rejected _ | .failing .. => true
  | _ => false

/-- What a handler that has the run in hand knows of the store. -/
def Stage.Hand (st : RunStore) : Stage → Prop
  | .starting _ | .retrying =>
    st.row.status = .queued ∧ st.row.blocked = none ∧ st.approvals.Quiet
  | .working _ | .owing => st.row.status = .running ∧ st.row.blocked = none ∧ st.approvals.Quiet
  | .requested _ id =>
    st.row.status = .running ∧ st.row.blocked = none ∧ st.approvals.LastIs id .pending
  | .approved id | .resuming id =>
    st.row.status = .running ∧ st.row.WaitsOn id ∧ st.approvals.LastIs id .approved
  | .rejected id =>
    st.row.status = .running ∧ st.row.WaitsOn id ∧ st.approvals.LastIs id .rejected
  | .failing id _ => st.row.status = .running ∧ (st.row.WaitsOn id ∨ st.row.blocked = none) ∧
      st.approvals.LastIs id .rejected
  | _ => True

/-- What is true of the store while no handler has the run in hand. `due` says that a delivery
is due, or has come and not read the run yet. -/
inductive Unattended (st : RunStore) (due : Prop) : Prop where
  | live (open_ : st.row.status.terminal = false) (unblocked : st.row.blocked = none)
      (quiet : st.approvals.Quiet) (served : st.row.status = .running → due)
  | waiting (id : Uuid) (running : st.row.status = .running) (waits : st.row.WaitsOn id)
      (last : st.approvals.LastIs id .pending) (still : ¬due)
  | remote (block : RunBlock) (running : st.row.status = .running)
      (blocked : st.row.blocked = some block) (kind : block.kind ≠ .approval)
      (request : ∀ id : Uuid, block.requestId ≠ id.value) (quiet : st.approvals.Quiet)
      (still : ¬due)
  | closed (terminal : st.row.status.terminal) (unblocked : st.row.blocked = none)
      (last : ∀ r, st.approvals.getLast? = some r →
        r.status = .approved ∨ r.status = .rejected ∧ st.row.status = .failed)

/-- A delivery of the run is due, or has come and not read the run yet. -/
def Due (job : RunJob) (crew : Nat → Option (Launch × Stage)) : Prop :=
  job.pending ∨ ∃ id, crew id = some (.job, .delivered)

/-- The handlers the protocol is about. -/
def Launch.ofApproval : Launch → Bool
  | .job | .approve .. | .reject .. => true
  | _ => false

structure ApprovalInv (st : RunStore) (crew : Nat → Option (Launch × Stage)) : Prop where
  parties : ∀ id q, crew id = some q → q.1.ofApproval
  active : ∀ id stage, crew id = some (.job, stage) → st.job.isActive
  single : ∀ id id' stage stage', crew id = some (.job, stage) → crew id' = some (.job, stage') →
    id = id'
  unique : st.approvals.Unique
  alive : ∀ r ∈ st.approvals, r.status = .pending → st.now < r.expiresAt
  turn : Exclusive (fun q => q.2.holds) (fun q => q.2.Hand st ∧ ¬Due st.job crew)
    (Unattended st (Due st.job crew)) crew

variable {st st' : RunStore} {crew : Nat → Option (Launch × Stage)} {id : Nat} {l : Launch}
  {stage stage' : Stage}

/-! ### Launches and endings -/

theorem approvalInv_created (maxAttempts : Nat) (now : Int) :
    ApprovalInv (.created maxAttempts now) fun _ => none where
  parties _ _ here := nomatch here
  active _ _ here := nomatch here
  single _ _ _ _ here := nomatch here
  unique := List.nodup_nil
  alive _ mem := nomatch mem
  turn := {
    held _ _ here := nomatch here
    single _ _ _ _ here := nomatch here
    unheld _ := .live rfl rfl (fun _ last => nomatch last) fun _ => .inl rfl }

/-- A delivery that is the only one, or no delivery. -/
theorem due_update {job job' : RunJob} {new : Option (Launch × Stage)}
    (pending : job'.pending → job.pending) (other : new ≠ some (.job, .delivered))
    (due : Due job' (Function.update crew id new)) : Due job crew := by
  rcases due with due | ⟨i, there⟩
  · exact .inl (pending due)
  · rcases update_cases there with ⟨-, same⟩ | ⟨-, there⟩
    · exact (other same).elim
    · exact .inr ⟨i, there⟩

theorem due_update_iff {job : RunJob} {old new : Option (Launch × Stage)} (here : crew id = old)
    (before : old ≠ some (.job, .delivered)) (after : new ≠ some (.job, .delivered)) :
    Due job (Function.update crew id new) ↔ Due job crew := by
  refine ⟨due_update (fun due => due) after, ?_⟩
  rintro (due | ⟨i, there⟩)
  · exact .inl due
  · refine .inr ⟨i, ?_⟩
    rwa [Function.update_of_ne]
    rintro rfl
    exact before (here.symm.trans there)

theorem Unattended.mono {due due' : Prop} (free : Unattended st due) (same : st'.row = st.row)
    (approvals : st'.approvals = st.approvals) (iff : due' ↔ due) :
    Unattended st' due' := by
  have dues : due' = due := propext iff
  subst dues
  cases free with
  | live open_ unblocked quiet served =>
    exact .live (by rwa [same]) (by rwa [same]) (by rwa [approvals]) (by rwa [same])
  | waiting id running waits last still =>
    exact .waiting id (by rwa [same]) (by rwa [same]) (by rwa [approvals]) still
  | remote block running blocked kind request quiet still =>
    exact .remote block (by rwa [same]) (by rwa [same]) kind request (by rwa [approvals]) still
  | closed terminal unblocked last =>
    exact .closed (by rwa [same]) (by rwa [same]) (by rwa [same, approvals])

theorem Stage.Hand.mono (hand : stage.Hand st) (same : st'.row = st.row)
    (approvals : st'.approvals = st.approvals) : stage.Hand st' := by
  cases stage <;> simp only [Stage.Hand, same, approvals] at hand ⊢ <;> exact hand

/-- Where no delivery can come from the queue, the run is not in its handlers' reach. -/
theorem ApprovalInv.unheld (inv : ApprovalInv st crew) (due : Due st.job crew) :
    NoneHolds (fun q : Launch × Stage => q.2.holds) crew := by
  intro i q there holds
  exact (inv.turn.held i q there holds).2 due

theorem approvalInv_deliver {job : RunJob} (inv : ApprovalInv st crew) (free : crew id = none)
    (taken : st.job.take = some job) :
    ApprovalInv { st with job } (Function.update crew id (some (.job, .delivered))) := by
  obtain ⟨pending, active⟩ := RunJob.take_pending taken
  have alone (i : Nat) (stage : Stage) : crew i ≠ some (.job, stage) := by
    intro here
    have := RunJob.not_pending_of_active (inv.active i stage here)
    simp [this] at pending
  have due : Due st.job crew := .inl pending
  refine ⟨fun i q there => ?_, fun _ _ _ => active, fun i j stage stage' here there => ?_,
    inv.unique, inv.alive, ?_⟩
  · rcases update_cases there with ⟨-, same⟩ | ⟨-, there⟩
    · obtain rfl := Option.some.inj same
      rfl
    · exact inv.parties i q there
  · rcases update_cases here with ⟨rfl, -⟩ | ⟨-, here⟩
    · rcases update_cases there with ⟨rfl, -⟩ | ⟨-, there⟩
      · rfl
      · exact (alone j _ there).elim
    · exact (alone i _ here).elim
  · refine inv.turn.stand (fun r here => by rw [free] at here; cases here) ?_
      (fun q hand => (hand.2 due).elim) fun _ unattended => ?_
    · rintro r ⟨⟩
      exact Bool.false_ne_true
    · exact unattended.mono rfl rfl ⟨fun _ => due, fun _ => .inr ⟨id, Function.update_self ..⟩⟩

/-- A route starts. -/
theorem approvalInv_route (inv : ApprovalInv st crew) (free : crew id = none)
    (party : l.ofApproval) (route : l ≠ .job) :
    ApprovalInv st (Function.update crew id (some (l, l.stage))) := by
  have idle : l.stage.holds = false := by cases l <;> rfl
  refine ⟨fun i q there => ?_, fun i stage there => ?_, fun i j stage stage' here there => ?_,
    inv.unique, inv.alive, ?_⟩
  · rcases update_cases there with ⟨-, same⟩ | ⟨-, there⟩
    · obtain rfl := Option.some.inj same
      exact party
    · exact inv.parties i q there
  · rcases update_cases there with ⟨-, same⟩ | ⟨-, there⟩
    · exact (route (congrArg Prod.fst (Option.some.inj same))).elim
    · exact inv.active i stage there
  · rcases update_cases here with ⟨-, same⟩ | ⟨-, here⟩
    · exact (route (congrArg Prod.fst (Option.some.inj same))).elim
    · rcases update_cases there with ⟨-, same⟩ | ⟨-, there⟩
      · exact (route (congrArg Prod.fst (Option.some.inj same))).elim
      · exact inv.single i j stage stage' here there
  · have due : Due st.job (Function.update crew id (some (l, l.stage))) ↔ Due st.job crew :=
      due_update_iff free (by simp) (by simp [route])
    refine inv.turn.stand (fun r here => by rw [free] at here; cases here) ?_
      (fun q hand => ⟨hand.1, by rw [due]; exact hand.2⟩)
      fun _ unattended => unattended.mono rfl rfl due
    rintro r ⟨⟩
    simp [idle]

/-- A handler ends that has nothing in hand, or a delivery whose job is retried. -/
theorem approvalInv_finish {o : Outcome} (inv : ApprovalInv st crew)
    (here : crew id = some (l, stage)) (ended : l.Ended o stage) :
    ApprovalInv (RunStore.finish l o st) (Function.update crew id none) := by
  obtain ⟨row, approvals, now⟩ := RunStore.finish_frame l o st
  have old {i : Nat} {q : Launch × Stage} (there : Function.update crew id none i = some q) :
      i ≠ id ∧ crew i = some q := by
    rcases update_cases there with ⟨-, same⟩ | there
    · cases same
    · exact there
  have job (i : Nat) (s : Stage) (there : Function.update crew id none i = some (.job, s)) :
      l ≠ .job := by
    rintro rfl
    exact (old there).1 (inv.single i id s stage (old there).2 here)
  have settled (idle : stage.holds = false) (due : Due (RunStore.finish l o st).job
      (Function.update crew id none) ↔ Due st.job crew) :
      Exclusive (fun q : Launch × Stage => q.2.holds)
        (fun q => q.2.Hand (RunStore.finish l o st) ∧
          ¬Due (RunStore.finish l o st).job (Function.update crew id none))
        (Unattended (RunStore.finish l o st) (Due (RunStore.finish l o st).job
          (Function.update crew id none))) (Function.update crew id none) := by
    refine inv.turn.stand ?_ (fun _ same => nomatch same)
      (fun q hand => ⟨hand.1.mono row approvals, by rw [due]; exact hand.2⟩)
      fun _ unattended => unattended.mono row approvals due
    intro r there
    rw [here] at there
    cases there
    simp [idle]
  refine ⟨fun i q there => inv.parties i q (old there).2, fun i s there => ?_,
    fun i j s s' here there => inv.single i j s s' (old here).2 (old there).2,
    by rw [approvals]; exact inv.unique, by rw [approvals, now]; exact inv.alive, ?_⟩
  · rw [RunStore.finish_other (job i s there)]
    exact inv.active i s (old there).2
  · by_cases delivery : l = .job
    · subst delivery
      have active := inv.active id stage here
      have idle := RunJob.not_pending_of_active active
      -- the delivery that ends was the only one
      have alone (i : Nat) (s : Stage) : Function.update crew id none i ≠ some (.job, s) :=
        fun there => job i s there rfl
      rcases ended with ⟨rfl, rfl⟩ | ⟨⟨message, rfl⟩, rfl⟩
      · refine settled rfl (iff_of_false ?_ ?_)
        · rintro (due | ⟨i, there⟩)
          · rw [show (RunStore.finish .job .returned st).job = st.job.succeed from rfl,
              RunJob.succeed_not_pending active] at due
            cases due
          · exact alone i _ there
        · rintro (due | ⟨i, there⟩)
          · rw [idle] at due
            cases due
          · obtain rfl := inv.single i id _ _ there here
            rw [here] at there
            cases there
      · refine inv.turn.release here rfl (fun _ same => nomatch same) ?_
        obtain ⟨⟨queued, unblocked, quiet⟩, -⟩ := inv.turn.held id _ here rfl
        exact .live (by rw [row, queued]; rfl) (by rwa [row]) (by rwa [approvals])
          fun running => by rw [row, queued] at running; cases running
    · have party := inv.parties id _ here
      have idle : stage.holds = false ∧ stage ≠ .delivered := by
        cases l <;> first | contradiction | cases party
        all_goals cases stage <;> first | (cases ended; done) | exact ⟨rfl, nofun⟩
      refine settled idle.1 ?_
      rw [RunStore.finish_other delivery]
      exact due_update_iff here (by simp [delivery]) nofun

theorem approvalInv_tick {tick : Tick} (inv : ApprovalInv st crew)
    (ticked : RunStore.tick tick st = some st')
    (alive : ∀ ms, tick = .clock ms → ∀ r ∈ st.approvals, r.status = .pending →
      st.now + ms < r.expiresAt) : ApprovalInv st' crew := by
  cases tick with
  | clock ms =>
    obtain rfl := Option.some.inj ticked
    exact ⟨inv.parties, inv.active, inv.single, inv.unique, alive ms rfl,
      { inv.turn with
        held := fun i q there has =>
          ⟨(inv.turn.held i q there has).1.mono rfl rfl, (inv.turn.held i q there has).2⟩
        unheld := fun nobody => (inv.turn.unheld nobody).mono rfl rfl .rfl }⟩
  | evict =>
    obtain ⟨job, evicted, rfl⟩ := Option.map_eq_some_iff.mp ticked
    obtain ⟨due, idle, rfl⟩ := RunJob.evict_cases evicted
    have same : Due .absent crew ↔ Due st.job crew := by
      rw [Due, Due, due]
      rfl
    refine ⟨inv.parties, fun i s here => ?_, inv.single, inv.unique, inv.alive,
      { inv.turn with
        held := fun i q there has => ⟨(inv.turn.held i q there has).1.mono rfl rfl, ?_⟩
        unheld := fun nobody => (inv.turn.unheld nobody).mono rfl rfl same }⟩
    · simp [inv.active i s here] at idle
    · rw [same]
      exact (inv.turn.held i q there has).2

/-! ### Operations -/

/-- What an operation of handler `id` leaves to show: whose turn it is. -/
theorem approvalInv_call (inv : ApprovalInv st crew) (here : crew id = some (l, stage))
    (job : st.job.isActive → st'.job = st.job) (unique : st'.approvals.Unique)
    (alive : ∀ r ∈ st'.approvals, r.status = .pending → st'.now < r.expiresAt)
    (turn : Exclusive (fun q => q.2.holds)
      (fun q => q.2.Hand st' ∧ ¬Due st'.job (Function.update crew id (some (l, stage'))))
      (Unattended st' (Due st'.job (Function.update crew id (some (l, stage')))))
      (Function.update crew id (some (l, stage')))) :
    ApprovalInv st' (Function.update crew id (some (l, stage'))) := by
  have old {i : Nat} {l' : Launch} {s : Stage}
      (there : Function.update crew id (some (l, stage')) i = some (l', s)) :
      ∃ s', crew i = some (l', s') := by
    rcases update_cases there with ⟨rfl, same⟩ | ⟨-, there⟩
    · cases same
      exact ⟨stage, here⟩
    · exact ⟨s, there⟩
  refine ⟨fun i q there => ?_, fun i s there => ?_, fun i j s s' there there' => ?_, unique, alive,
    turn⟩
  · obtain ⟨l', s⟩ := q
    obtain ⟨s', there⟩ := old there
    exact inv.parties i (l', s') there
  · obtain ⟨s', there⟩ := old there
    have works := inv.active i s' there
    rwa [job works]
  · obtain ⟨t, there⟩ := old there
    obtain ⟨t', there'⟩ := old there'
    exact inv.single i j t t' there there'

/-- The handler that has the run in hand goes on. -/
theorem approvalInv_pass (inv : ApprovalInv st crew) (here : crew id = some (l, stage))
    (had : stage.holds) (has : stage'.holds) (job : st.job.isActive → st'.job = st.job)
    (idle : st'.job.pending → st.job.pending) (unique : st'.approvals.Unique)
    (alive : ∀ r ∈ st'.approvals, r.status = .pending → st'.now < r.expiresAt)
    (hand : stage'.Hand st') : ApprovalInv st' (Function.update crew id (some (l, stage'))) := by
  refine approvalInv_call inv here job unique alive (inv.turn.pass here had has ⟨hand, fun due => ?_⟩)
  refine (inv.turn.held id _ here had).2 (due_update idle ?_ due)
  rintro ⟨⟩
  cases has

/-- It writes the row and lets go of the run. -/
theorem approvalInv_release (inv : ApprovalInv st crew) (here : crew id = some (l, stage))
    (had : stage.holds) (job : st'.job = st.job) (approvals : st'.approvals = st.approvals)
    (now : st'.now = st.now) (free : ∀ due, ¬due → Unattended st' due) :
    ApprovalInv st' (Function.update crew id (some (l, .done))) := by
  refine approvalInv_call inv here (fun _ => job) (by rw [approvals]; exact inv.unique)
    (by rw [approvals, now]; exact inv.alive) (inv.turn.release here had ?_ (free _ fun due => ?_))
  · rintro r ⟨⟩
    exact Bool.false_ne_true
  · exact (inv.turn.held id _ here had).2 (due_update (fun d => by rwa [job] at d) (by simp) due)

/-- Where approvals keep time: a request is created unexpired, decided only while the run is
blocked on it and not by its expiry, and an approved run is enqueued when its last job is gone. -/
def RunOp.timely (st : RunStore) : RunOp → Bool
  | .createWorkflowApprovalRequest _ _ _ expiresAt => st.now < expiresAt
  | .decideWorkflowApprovalRequest id status _ =>
    (st.approvals.all fun r => !(r.id = id && r.status = .pending)) ||
      (status ≠ .expired && st.row.blockedRequestId = some id.value)
  | .queueAdd .. => !st.job.kept
  | _ => true

/-- A delivery that comes to an unattended run finds out what is left to do. -/
theorem approvalInv_read (inv : ApprovalInv st crew) (here : crew id = some (.job, .delivered)) :
    ApprovalInv st (Function.update crew id (some (.job, Stage.ofRun (some st.row)))) := by
  have due : Due st.job crew := .inr ⟨id, here⟩
  have nobody := inv.unheld due
  have gone {new : Stage} (other : new ≠ .delivered) :
      ¬Due st.job (Function.update crew id (some (.job, new))) := by
    rintro (pending | ⟨i, there⟩)
    · rw [RunJob.not_pending_of_active (inv.active id _ here)] at pending
      cases pending
    · rcases update_cases there with ⟨-, same⟩ | ⟨different, there⟩
      · exact other (congrArg Prod.snd (Option.some.inj same))
      · exact different (inv.single i id _ _ there here)
  refine approvalInv_call inv here (fun _ => rfl) inv.unique inv.alive ?_
  cases inv.turn.unheld nobody with
  | live open_ unblocked quiet served =>
    cases status : st.row.status with
    | queued =>
      have read : Stage.ofRun (some st.row) = .starting st.row.attemptCount := by
        simp [Stage.ofRun, status]
      rw [read]
      exact Exclusive.take nobody rfl ⟨⟨status, unblocked, quiet⟩, gone (by rintro ⟨⟩)⟩
    | running =>
      have read : Stage.ofRun (some st.row) = .working st.row.attemptCount := by
        simp [Stage.ofRun, status, unblocked]
      rw [read]
      exact Exclusive.take nobody rfl ⟨⟨status, unblocked, quiet⟩, gone (by rintro ⟨⟩)⟩
    | succeeded | failed =>
      rw [status] at open_
      cases open_
  | waiting id running waits last still => exact (still due).elim
  | remote block running blocked kind request quiet still => exact (still due).elim
  | closed terminal unblocked last =>
    have read : Stage.ofRun (some st.row) = .done := by
      cases status : st.row.status <;> simp [status, RunStatus.terminal] at terminal <;>
        simp [Stage.ofRun, status]
    rw [read]
    refine inv.turn.stand (fun r there => nobody id r there) ?_ (fun q hand => (hand.2 due).elim)
      fun _ _ => .closed terminal unblocked last
    rintro r ⟨⟩
    exact Bool.false_ne_true

/-- The run is blocked on a pending request: no handler has it in hand. -/
theorem waiting_of_blocked {approvalId : Uuid} {r : WorkflowApprovalRequest}
    (inv : ApprovalInv st crew) (mem : r ∈ st.approvals) (same : r.id = approvalId)
    (pending : r.status = .pending) (blocked : st.row.blockedRequestId = some approvalId.value) :
    NoneHolds (fun q : Launch × Stage => q.2.holds) crew ∧ st.row.status = .running ∧
      st.row.WaitsOn approvalId ∧ st.approvals.LastIs approvalId .pending ∧ ¬Due st.job crew := by
  have unblocked (none : st.row.blocked = none) : False := by
    simp [WorkflowRun.blockedRequestId, none] at blocked
  have decided {id : Uuid} {status : ApprovalStatus} (waits : st.row.WaitsOn id)
      (last : st.approvals.LastIs id status) (settled : status ≠ .pending) : False := by
    obtain rfl := waits.id_eq blocked
    exact settled ((last.status_eq inv.unique mem same).symm.trans pending)
  have nobody : NoneHolds (fun q : Launch × Stage => q.2.holds) crew := by
    rintro i ⟨l, stage⟩ there holds
    obtain ⟨hand, -⟩ := inv.turn.held i _ there holds
    cases stage with
    | starting | working | requested | retrying | owing => exact unblocked hand.2.1
    | approved | resuming | rejected => exact decided hand.2.1 hand.2.2 nofun
    | failing =>
      obtain ⟨-, waits | none, last⟩ := hand
      · exact decided waits last nofun
      · exact unblocked none
    | _ => cases holds
  refine ⟨nobody, ?_⟩
  cases inv.turn.unheld nobody with
  | live _ none => exact (unblocked none).elim
  | waiting id running waits last still =>
    obtain rfl := waits.id_eq blocked
    exact ⟨running, waits, last, still⟩
  | remote block _ here _ request =>
    rw [WorkflowRun.blockedRequestId, here] at blocked
    exact (request approvalId (Option.some.inj blocked)).elim
  | closed _ none => exact (unblocked none).elim

/-- A route decides the request the run is blocked on, or finds it decided. -/
theorem approvalInv_decide {approvalId : Uuid} {status : ApprovalStatus} {note : Option String}
    {reply : Option WorkflowApprovalRequest} {choice : Choice} (inv : ApprovalInv st crew)
    (here : crew id = some (l, stage)) (has : l.Has stage)
    (permitted : stage.permits env (.decideWorkflowApprovalRequest approvalId status note))
    (performed : performRunOp (.decideWorkflowApprovalRequest approvalId status note) st choice =
      some (reply, st'))
    (timely : (RunOp.decideWorkflowApprovalRequest approvalId status note).timely st) :
    ApprovalInv st' (Function.update crew id (some (l,
      stage.observe env (.decideWorkflowApprovalRequest approvalId status note) reply))) := by
  obtain ⟨rfl, approvals⟩ := performRunOp_decide performed
  obtain ⟨row, job, now⟩ := performRunOp_store performed
  simp only [RunOp.rowAfter, RunOp.jobAfter] at row job
  obtain ⟨decision, rfl, of⟩ : ∃ decision, stage = .deciding decision ∧
      (status ≠ .expired → decision = status) := by
    rcases permitted with rfl | ⟨rfl, rfl⟩
    · exact ⟨_, rfl, fun _ => rfl⟩
    · exact ⟨_, rfl, fun not => (not rfl).elim⟩
  have due (new : Stage) (other : new ≠ .delivered) :
      Due st'.job (Function.update crew id (some (l, new))) ↔ Due st.job crew := by
    rw [job]
    exact due_update_iff here (by simp) (by simp [other])
  cases decided : st.approvals.decided approvalId status note with
  | none =>
    rw [Approvals.decided_none decided] at approvals
    have done : (Stage.deciding decision).observe env
        (.decideWorkflowApprovalRequest approvalId status note) none = .done := by
      cases decision <;> cases status <;> rfl
    rw [done]
    have due := due .done (by rintro ⟨⟩)
    refine approvalInv_call inv here (fun _ => job) (by rw [approvals]; exact inv.unique)
      (by rw [approvals, now]; exact inv.alive) (inv.turn.stand ?_ ?_
        (fun q hand => ⟨hand.1.mono row approvals, by rw [due]; exact hand.2⟩)
        fun _ unattended => unattended.mono row approvals due)
    · rintro r there
      rw [here] at there
      cases there
      exact Bool.false_ne_true
    · rintro r ⟨⟩
      exact Bool.false_ne_true
  | some approval =>
    obtain ⟨r, mem, same, pending, rfl⟩ := Approvals.decided_some decided
    have landed : status ≠ .expired ∧ st.row.blockedRequestId = some approval.id.value := by
      simp only [RunOp.timely, Bool.or_eq_true, List.all_eq_true, Bool.and_eq_true,
        decide_eq_true_eq] at timely
      refine timely.resolve_left fun idle => ?_
      have := idle r mem
      simp [same, pending] at this
    obtain rfl := of landed.1
    obtain ⟨nobody, running, waits, last, still⟩ :=
      waiting_of_blocked inv mem same pending landed.2
    have last' : (st.approvals.decide approval.id decision note).LastIs approval.id decision :=
      last.decide
    rw [← approvals] at last'
    have alive : ∀ r ∈ st'.approvals, decision ≠ .pending → r.status = .pending →
        st'.now < r.expiresAt := by
      intro r there decides left
      rw [approvals] at there
      rw [now]
      exact inv.alive r (Approvals.pending_of_decide there decides left) left
    have unique : st'.approvals.Unique := by
      rw [approvals]
      exact inv.unique.decide
    cases l with
    | approve _ _ =>
      obtain rfl : decision = .approved := has
      exact approvalInv_call inv here (fun _ => job) unique (fun r there => alive r there (by rintro ⟨⟩))
        (Exclusive.take nobody rfl ⟨⟨by rw [row, running], by rwa [row], last'⟩,
          (not_congr (due (.approved _) (by rintro ⟨⟩))).mpr still⟩)
    | reject _ _ =>
      obtain rfl : decision = .rejected := has
      exact approvalInv_call inv here (fun _ => job) unique (fun r there => alive r there (by rintro ⟨⟩))
        (Exclusive.take nobody rfl ⟨⟨by rw [row, running], by rwa [row], last'⟩,
          (not_congr (due (.rejected _) (by rintro ⟨⟩))).mpr still⟩)
    | job | redelivery | continuation => cases has

/-- An operation that leaves the store and its handler's stage as they were. -/
theorem approvalInv_neutral (inv : ApprovalInv st crew) (here : crew id = some (l, stage))
    (row : st'.row = st.row) (job : st'.job = st.job) (approvals : st'.approvals = st.approvals)
    (now : st'.now = st.now) : ApprovalInv st' (Function.update crew id (some (l, stage))) := by
  have same : Function.update crew id (some (l, stage)) = crew :=
    Function.update_eq_self_iff.mpr here.symm
  rw [same]
  refine ⟨inv.parties, by rw [job]; exact inv.active, inv.single, by rw [approvals]; exact inv.unique,
    by rw [approvals, now]; exact inv.alive, ?_⟩
  rw [job]
  exact ⟨fun i q there has => ⟨(inv.turn.held i q there has).1.mono row approvals,
    (inv.turn.held i q there has).2⟩, inv.turn.single,
    fun nobody => (inv.turn.unheld nobody).mono row approvals .rfl⟩

theorem not_checked {payload : ContinuationPayload} (party : l.ofApproval)
    (has : l.Has (.checked payload)) : False := by
  cases l <;> first | (cases has; done) | cases party

/-- The worker creates the request it is to block the run on. -/
theorem approvalInv_create {known : Nat} {nodeId reason : String} {nodeType : NodeType}
    {expiresAt : Int} {reply : Option WorkflowApprovalRequest} {choice : Choice}
    (inv : ApprovalInv st crew) (here : crew id = some (l, .working known))
    (performed : performRunOp (.createWorkflowApprovalRequest nodeId nodeType reason expiresAt) st
      choice = some (reply, st')) (timely : st.now < expiresAt) :
    ApprovalInv st' (Function.update crew id (some (l, (Stage.working known).observe env
      (.createWorkflowApprovalRequest nodeId nodeType reason expiresAt) reply))) := by
  obtain ⟨row, job, now⟩ := performRunOp_store performed
  obtain ⟨approval, rfl, pending, expires, new, approvals⟩ := performRunOp_create performed
  simp only [RunOp.rowAfter, RunOp.jobAfter] at row job
  obtain ⟨⟨running, unblocked, -⟩, -⟩ := inv.turn.held id _ here rfl
  refine approvalInv_pass inv here rfl rfl (fun _ => job) (fun due => by rwa [job] at due) ?_ ?_
    ⟨by rw [row, running], by rw [row, unblocked], approval, by simp [approvals], rfl, pending⟩
  · rw [approvals]
    simp only [Approvals.Unique, List.map_append, List.map_cons, List.map_nil]
    exact List.Nodup.append inv.unique (List.nodup_singleton _) (by simpa using new)
  · intro r mem left
    rw [approvals] at mem
    rw [now]
    rcases List.mem_append.mp mem with old | fresh
    · exact inv.alive r old left
    · rw [List.mem_singleton.mp fresh, expires]
      exact timely

theorem approvalInv_operation {op : RunOp} {reply : op.Reply} {choice : Choice}
    (inv : ApprovalInv st crew) (here : crew id = some (l, stage)) (has : l.Has stage)
    (permitted : stage.permits env op) (performed : performRunOp op st choice = some (reply, st'))
    (timely : op.timely st) :
    ApprovalInv st' (Function.update crew id (some (l, stage.observe env op reply))) := by
  have party := inv.parties id _ here
  obtain ⟨row, job, now⟩ := performRunOp_store performed
  have expected := performRunOp_expects performed
  -- what is common to the operations that leave the requests and the job
  have goesOn (reads : op.decides = false) (jobs : op.jobAfter st.job = st.job) (had : stage.holds)
      (has : (stage.observe env op reply).holds) (hand : (stage.observe env op reply).Hand st') :
      ApprovalInv st' (Function.update crew id (some (l, stage.observe env op reply))) := by
    have approvals := performRunOp_approvals reads performed
    exact approvalInv_pass inv here had has (fun _ => job.trans jobs)
      (fun due => by rwa [job, jobs] at due) (by rw [approvals]; exact inv.unique)
      (by rw [approvals, now]; exact inv.alive) hand
  have letsGo (reads : op.decides = false) (jobs : op.jobAfter st.job = st.job) (had : stage.holds)
      (done : stage.observe env op reply = .done) (free : ∀ due, ¬due → Unattended st' due) :
      ApprovalInv st' (Function.update crew id (some (l, stage.observe env op reply))) := by
    rw [done]
    exact approvalInv_release inv here had (job.trans jobs) (performRunOp_approvals reads performed)
      now free
  have learnsNothing (reads : op.decides = false) (rows : op.rowAfter st.row = st.row)
      (jobs : op.jobAfter st.job = st.job) (same : stage.observe env op reply = stage) :
      ApprovalInv st' (Function.update crew id (some (l, stage.observe env op reply))) := by
    rw [same]
    exact approvalInv_neutral inv here (row.trans rows) (job.trans jobs)
      (performRunOp_approvals reads performed) now
  cases op
  case getWorkflowRunById =>
    obtain ⟨rfl, rfl⟩ := performRunOp_getRun performed
    cases stage <;> try exact learnsNothing rfl rfl rfl rfl
    case delivered =>
      obtain rfl : l = .job := by
        cases l <;> first | rfl | (cases has; done) | cases party
      exact approvalInv_read inv here
    case received payload =>
      cases l <;> first | (cases has; done) | cases party
  case markWorkflowRunRunning attempt =>
    obtain ⟨known, rfl, rfl⟩ := permitted
    cases reply with
    | none => cases expected
    | some _ =>
      obtain ⟨⟨queued, unblocked, quiet⟩, -⟩ := inv.turn.held id _ here rfl
      exact goesOn rfl rfl rfl rfl ⟨by rw [row]; rfl, by rw [row]; rfl,
        by rwa [performRunOp_approvals rfl performed]⟩
  case markWorkflowRunBlocked cursor block output =>
    have approvals := performRunOp_approvals rfl performed
    rcases permitted with ⟨known, rfl, kind, nodeId, request⟩ | ⟨known, approvalId, rfl, kind, request⟩
    · obtain ⟨⟨running, unblocked, quiet⟩, -⟩ := inv.turn.held id _ here rfl
      exact letsGo rfl rfl rfl rfl fun due still => .remote block (by rw [row]; exact running)
        (by rw [row]; rfl) kind
        (fun id same => uuid_ne_requestIdOf id _ _ _ (same.symm.trans request))
        (by rwa [approvals]) still
    · obtain ⟨⟨running, unblocked, last⟩, -⟩ := inv.turn.held id _ here rfl
      exact letsGo rfl rfl rfl rfl fun due still => .waiting approvalId
        (by rw [row]; exact running) ⟨block, by rw [row]; rfl, kind, request⟩ (by rwa [approvals])
        still
  case clearWorkflowRunBlock expectedId output =>
    have approvals := performRunOp_approvals rfl performed
    have cleared (blocked : st.row.blockedRequestId = some expectedId) :
        st'.row.status = st.row.status ∧ st'.row.blocked = none := by
      rw [row, RunOp.rowAfter, WorkflowRun.clearBlock_of_blocked output blocked]
      exact ⟨rfl, rfl⟩
    rcases permitted with ⟨payload, rfl, -⟩ | ⟨approvalId, rfl, rfl⟩ | ⟨approvalId, known, rfl, rfl⟩
    · exact (not_checked party has).elim
    · obtain ⟨⟨running, waits, last⟩, -⟩ := inv.turn.held id _ here rfl
      rcases performRunOp_clear performed with ⟨rfl, blocked⟩ | ⟨-, other, -⟩
      · obtain ⟨status, unblocked⟩ := cleared blocked
        exact goesOn rfl rfl rfl rfl ⟨status.trans running, unblocked, by
          rw [approvals]
          exact last.quiet⟩
      · exact (other waits.blockedRequestId).elim
    · obtain ⟨⟨running, -, last⟩, -⟩ := inv.turn.held id _ here rfl
      rcases performRunOp_clear performed with ⟨rfl, blocked⟩ | ⟨rfl, -, rfl⟩
      · obtain ⟨status, unblocked⟩ := cleared blocked
        exact goesOn rfl rfl rfl rfl ⟨status.trans running, .inr unblocked, by rwa [approvals]⟩
      · exact approvalInv_neutral inv here rfl rfl rfl rfl
  case updateWorkflowRunProgress cursor output =>
    obtain ⟨known, rfl⟩ := permitted
    obtain ⟨⟨running, unblocked, quiet⟩, -⟩ := inv.turn.held id _ here rfl
    exact goesOn rfl rfl rfl rfl ⟨by rw [row]; exact running, by rw [row]; exact unblocked,
      by rwa [performRunOp_approvals rfl performed]⟩
  case markWorkflowRunQueuedForRetry error nextAttemptAt =>
    rcases permitted with ⟨known, rfl, -⟩ | ⟨payload, rfl, -⟩
    · obtain ⟨⟨running, unblocked, quiet⟩, -⟩ := inv.turn.held id _ here rfl
      exact goesOn rfl rfl rfl rfl ⟨by rw [row]; rfl, by rw [row]; rfl,
        by rwa [performRunOp_approvals rfl performed]⟩
    · exact (not_checked party has).elim
  case markWorkflowRunSucceeded output =>
    obtain ⟨known, rfl⟩ := permitted
    obtain ⟨⟨-, unblocked, quiet⟩, -⟩ := inv.turn.held id _ here rfl
    have approvals := performRunOp_approvals rfl performed
    exact letsGo rfl rfl rfl rfl fun _ _ => .closed (by rw [row]; rfl) (by rw [row]; exact unblocked)
      fun r last => .inl (quiet r (by rwa [← approvals]))
  case markWorkflowRunFailed error =>
    have approvals := performRunOp_approvals rfl performed
    have fails (had : stage.holds)
        (last : ∀ r, st.approvals.getLast? = some r → r.status = .approved ∨ r.status = .rejected)
        (done : stage.observe env (.markWorkflowRunFailed error) reply = .done) :=
      letsGo rfl rfl had done fun _ _ => .closed (by rw [row]; rfl) (by rw [row]; rfl)
        fun r here => (last r (by rwa [← approvals])).imp_right fun same => ⟨same, by rw [row]; rfl⟩
    rcases permitted with ⟨known, rfl⟩ | ⟨known, rfl⟩ | ⟨payload, rfl⟩ | ⟨approvalId, known, rfl⟩
    · obtain ⟨⟨-, -, quiet⟩, -⟩ := inv.turn.held id _ here rfl
      exact fails rfl (fun r last => .inl (quiet r last)) rfl
    · obtain ⟨⟨-, -, quiet⟩, -⟩ := inv.turn.held id _ here rfl
      exact fails rfl (fun r last => .inl (quiet r last)) rfl
    · exact (not_checked party has).elim
    · obtain ⟨⟨-, -, r, there, -, rejected⟩, -⟩ := inv.turn.held id _ here rfl
      refine fails rfl (fun r' last => .inr ?_) rfl
      rw [there] at last
      rwa [← Option.some.inj last]
  case createWorkflowApprovalRequest nodeId nodeType reason expiresAt =>
    obtain ⟨known, rfl⟩ := permitted
    exact approvalInv_create inv here performed (by simpa [RunOp.timely] using timely)
  case decideWorkflowApprovalRequest approvalId status note =>
    exact approvalInv_decide inv here has permitted performed timely
  case getWorkflowRunByBlockedRequestId requestId =>
    have approvals := performRunOp_approvals rfl performed
    have found := performRunOp_getRunByBlocked performed
    obtain ⟨approvalId, rfl | rfl, rfl⟩ := permitted
    all_goals
      obtain ⟨⟨running, waits, last⟩, -⟩ := inv.turn.held id _ here rfl
      rw [if_pos ⟨waits.blockedRequestId, running⟩] at found
      subst found
    · exact goesOn rfl rfl rfl rfl ⟨by rw [row]; exact running, by rw [row]; exact waits,
        by rwa [approvals]⟩
    · exact goesOn rfl rfl rfl rfl ⟨by rw [row]; exact running, .inl (by rw [row]; exact waits),
        by rwa [approvals]⟩
  case queueRemove =>
    cases permitted
    obtain ⟨⟨running, unblocked, quiet⟩, -⟩ := inv.turn.held id _ here rfl
    have approvals := performRunOp_approvals rfl performed
    exact approvalInv_pass inv here rfl rfl
      (fun works => by rw [job]; exact RunJob.remove_of_active works)
      (fun due => by rw [job, RunOp.jobAfter, RunJob.remove_not_pending] at due; cases due)
      (by rw [approvals]; exact inv.unique) (by rw [approvals, now]; exact inv.alive)
      ⟨by rw [row]; exact running, by rw [row]; exact unblocked, by rwa [approvals]⟩
  case queueAdd delayMs attempts =>
    cases permitted
    obtain ⟨⟨running, unblocked, quiet⟩, -⟩ := inv.turn.held id _ here rfl
    have approvals := performRunOp_approvals rfl performed
    have free : st.job.kept = false := by simpa [RunOp.timely] using timely
    refine approvalInv_call inv here
      (fun works => by simp [RunJob.not_active_of_not_kept free] at works)
      (by rw [approvals]; exact inv.unique) (by rw [approvals, now]; exact inv.alive)
      (inv.turn.release here rfl ?_ (.live (by rw [row]; simp [RunOp.rowAfter, running, RunStatus.terminal])
        (by rw [row]; exact unblocked) (by rwa [approvals]) fun _ => .inl ?_))
    · rintro r ⟨⟩
      exact Bool.false_ne_true
    · rw [job]
      exact RunJob.add_of_not_kept free delayMs attempts
  all_goals
    exact learnsNothing rfl rfl rfl (by simp only [observe_event, observe_settings, observe_rules,
      observe_workflow, observe_hasApproved, observe_getApproval, observe_execute,
      observe_dispatch, observe_poll, observe_fetch, observe_now])

/-! ### Every run -/

section runs
variable {s t : (runSystem env).State} {a : (runSystem env).Action}

/-- An operation leaves settled requests as they are, and ids distinct. -/
theorem performRunOp_settled {op : RunOp} {reply : op.Reply} {choice : Choice}
    (unique : st.approvals.Unique) (performed : performRunOp op st choice = some (reply, st')) :
    st'.approvals.Unique ∧ ∀ r ∈ st.approvals, r.status ≠ .pending → r ∈ st'.approvals := by
  cases reads : op.decides with
  | false =>
    rw [performRunOp_approvals reads performed]
    exact ⟨unique, fun r mem _ => mem⟩
  | true =>
    cases op <;> simp only [RunOp.decides, Bool.false_eq_true] at reads
    case createWorkflowApprovalRequest =>
      obtain ⟨approval, -, -, -, new, approvals⟩ := performRunOp_create performed
      rw [approvals]
      refine ⟨?_, fun r mem _ => List.mem_append_left _ mem⟩
      simp only [Approvals.Unique, List.map_append, List.map_cons, List.map_nil]
      exact List.Nodup.append unique (List.nodup_singleton _) (by simpa using new)
    case decideWorkflowApprovalRequest =>
      rw [(performRunOp_decide performed).2]
      exact ⟨unique.decide, fun r mem settled => Approvals.settled_decide mem settled⟩

theorem stepped_settled (unique : s.store.approvals.Unique) (stepped : System.Stepped s a t) :
    t.store.approvals.Unique ∧
      ∀ r ∈ s.store.approvals, r.status ≠ .pending → r ∈ t.store.approvals := by
  cases stepped with
  | launch free launched =>
    rw [System.State.update_store, (RunStore.launch_frame launched).2.1]
    exact ⟨unique, fun r mem _ => mem⟩
  | call here performed => exact performRunOp_settled unique performed
  | loop here => exact ⟨unique, fun r mem _ => mem⟩
  | finish here =>
    rename_i l _ outcome
    have approvals := (RunStore.finish_frame l outcome s.store).2.1
    simp only [System.State.update_store]
    exact ⟨approvals ▸ unique, fun r mem _ => approvals ▸ mem⟩
  | tick ticked =>
    rw [(RunStore.tick_frame ticked).2]
    exact ⟨unique, fun r mem _ => mem⟩

/-- What the protocol promises of a run between handlers: a block on a request that is pending
and unexpired, a due job once the latest request is approved, a failed run once it is not. -/
def RunStore.ApprovalsSettled (st : RunStore) : Prop :=
  (∀ block, st.row.blocked = some block → block.kind = .approval →
    ∃ r ∈ st.approvals, r.id.value = block.requestId ∧ r.status = .pending ∧ st.now < r.expiresAt) ∧
  ∀ r, st.approvals.getLast? = some r →
    (r.status = .approved → st.row.status = .running →
      (st.row.blocked = none ∨ st.row.blockedRequestId = some r.id.value) → st.job.pending) ∧
    (r.status = .rejected ∨ r.status = .expired → st.row.status = .failed)

theorem ApprovalInv.settled (inv : ApprovalInv st crew) (idle : ∀ id, crew id = none) :
    st.ApprovalsSettled := by
  have nobody : NoneHolds (fun q : Launch × Stage => q.2.holds) crew := by
    intro i q there
    rw [idle i] at there
    cases there
  have due (due : Due st.job crew) : st.job.pending := by
    rcases due with pending | ⟨i, there⟩
    · exact pending
    · rw [idle i] at there
      cases there
  cases inv.turn.unheld nobody with
  | live open_ unblocked quiet served =>
    refine ⟨fun block blocked => (by rw [unblocked] at blocked; cases blocked), fun r last => ?_⟩
    have approved := quiet r last
    exact ⟨fun _ running _ => due (served running),
      by rintro (no | no) <;> rw [approved] at no <;> cases no⟩
  | waiting id running waits last still =>
    obtain ⟨r, there, same, pending⟩ := last
    have mem := List.mem_of_getLast? there
    refine ⟨fun block blocked _ => ⟨r, mem, ?_, pending, inv.alive r mem pending⟩, fun r' last => ?_⟩
    · obtain ⟨block', blocked', -, request⟩ := waits
      rw [blocked] at blocked'
      rw [Option.some.inj blocked', request, same]
    · rw [there] at last
      rw [← Option.some.inj last, pending]
      exact ⟨nofun, by rintro (no | no) <;> cases no⟩
  | remote block running blocked kind request quiet still =>
    refine ⟨fun block' blocked' approval => ?_, fun r last => ?_⟩
    · rw [blocked] at blocked'
      exact (kind (by rw [Option.some.inj blocked', approval])).elim
    · have approved := quiet r last
      refine ⟨fun _ _ on => ?_, by rintro (no | no) <;> rw [approved] at no <;> cases no⟩
      rw [WorkflowRun.blockedRequestId, blocked] at on
      rcases on with none | same
      · cases none
      · exact (request _ (Option.some.inj same)).elim
  | closed terminal unblocked last =>
    refine ⟨fun block blocked => (by rw [unblocked] at blocked; cases blocked), fun r here => ?_⟩
    rcases last r here with approved | ⟨rejected, failed⟩
    · refine ⟨fun _ running => ?_, by rintro (no | no) <;> rw [approved] at no <;> cases no⟩
      rw [running] at terminal
      cases terminal
    · exact ⟨fun approved => (by rw [rejected] at approved; cases approved), fun _ => failed⟩

/-- Only deliveries of the queue and decisions are launched. -/
def ofApproval : (runSystem env).Action → Bool
  | .launch _ l => Launch.ofApproval l
  | _ => true

/-- The clock does not pass the expiry of a pending request. -/
def clockWaits (s : (runSystem env).State) : (runSystem env).Action → Bool
  | .tick (.clock ms) => s.store.approvals.all fun r =>
    !(r.status = .pending) || s.store.now + ms < r.expiresAt
  | _ => true

/-- Where the approval protocol keeps time. -/
def Timely (s : (runSystem env).State) (a : (runSystem env).Action) : Prop :=
  ofApproval a ∧ clockWaits s a ∧
    (runCertified env).Performing (fun _ op => RunOp.timely s.store op) s a

instance : Decidable (Timely s a) := inferInstanceAs (Decidable (_ ∧ _ ∧ _))

theorem approvalInv_step (all : (runCertified env).AllFollow s)
    (inv : ApprovalInv s.store ((runCertified env).crew s)) (timely : Timely s a)
    (stepped : System.Stepped s a t) : ApprovalInv t.store ((runCertified env).crew t) := by
  obtain ⟨party, clock, timely⟩ := timely
  have happened := Certified.happened all stepped
  generalize (runCertified env).crew t = crew at happened ⊢
  generalize t.store = store at happened ⊢
  cases happened with
  | launch free launched =>
    rename_i id l
    by_cases job : l = .job
    · subst job
      obtain ⟨job, taken, rfl⟩ := RunStore.launch_job launched
      exact approvalInv_deliver inv free taken
    · rw [RunStore.launch_other job launched]
      exact approvalInv_route inv free party job
  | call here issues permitted performed =>
    exact approvalInv_operation inv here (crew_has here) permitted performed (timely _ issues)
  | loop => exact inv
  | finish here ended => exact approvalInv_finish inv here ended
  | tick ticked =>
    refine approvalInv_tick inv ticked ?_
    rintro ms rfl r mem pending
    have := List.all_eq_true.mp clock r mem
    simpa [pending] using this

theorem approvalInv_reachable {now : Int} (run : System.Steps Timely (initialState env now) s) :
    ApprovalInv s.store ((runCertified env).crew s) :=
  ((runCertified env).invariant (fun s => ApprovalInv s.store ((runCertified env).crew s))
    (fun _ => rfl) (approvalInv_created _ _)
    (fun _ _ _ all inv timely stepped => approvalInv_step all inv timely stepped) run).2

end runs

/-- The approval protocol. In every run, a request leaves pending once and an executor is
reached with what the policy asks for; in timely runs, an idle run's block, decision and job
fit together. -/
theorem approval_protocol (now : Int) :
    (∀ s t : (runSystem env).State, System.Steps (fun _ _ => True) (initialState env now) s →
      System.Steps (fun _ _ => True) s t → ∀ r ∈ s.store.approvals, r.status ≠ .pending →
        t.store.approvals.getById r.id = some r) ∧
    (∀ (s t : (runSystem env).State) (a : (runSystem env).Action),
      System.Steps (fun _ _ => True) (initialState env now) s → System.step s a = some t →
      ∀ id p context next, t.process id = some p → s.process id ≠ some p →
        p.program = .call (.execute context) next →
        ∃ rules, rulesRead p.history = some rules ∧ Admitted rules context.node t.store) ∧
    ∀ s : (runSystem env).State, System.Steps Timely (initialState env now) s →
      (∀ id, s.process id = none) → s.store.ApprovalsSettled := by
  have start : (initialState env now).store.approvals.Unique := List.nodup_nil
  have unique {s : (runSystem env).State}
      (run : System.Steps (fun _ _ => True) (initialState env now) s) : s.store.approvals.Unique :=
    run.invariant (fun s : (runSystem env).State => s.store.approvals.Unique)
      (fun _ _ _ unique _ stepped => (stepped_settled unique stepped).1) start
  refine ⟨fun s t first later r mem settled => ?_, fun s t a run step id p context next here new
    reached => ?_, fun s run idle => ?_⟩
  · refine (unique (first.trans later)).getById ?_
    have kept := later.invariant
      (fun t : (runSystem env).State => t.store.approvals.Unique ∧ r ∈ t.store.approvals)
      (fun _ _ _ inv _ stepped => ⟨(stepped_settled inv.1 stepped).1,
        (stepped_settled inv.1 stepped).2 r inv.2 settled⟩) ⟨unique first, mem⟩
    exact kept.2
  · have all := (gateCertified env).allFollow_reachable (fun _ => rfl) run
    exact executor_admitted all (System.step_cases step) here new reached
  · exact (approvalInv_reachable run).settled fun id => by
      rw [Certified.crew, idle id]
      rfl

/-! ### A run that waits for an approval -/

namespace Sample

/-- A node whose shell task needs an approval. -/
def shellNode (id : String) : WorkflowNode :=
  .agentExecute id (some { execution := none
                           task := some { script := "make", shell := none, env := none }
                           sandbox := none })

def approvalId : Uuid := ⟨"00000000-0000-4000-8000-000000000000", by decide⟩

/-- A delivery finds the node unapproved and blocks the run on a request. -/
def requestApproval (id : Nat) (nodes : List WorkflowNode) : List (runSystem sampleEnv).Action :=
  start id nodes ++ calls id [.none, .none, .none, .approvalId approvalId, .none, .none] ++
    [.finish id]

/-- The request is approved and the run enqueued. -/
def approve (id : Nat) : List (runSystem sampleEnv).Action :=
  .launch id (.approve approvalId none) ::
    calls id [.none, .none, .none, .none, .none, .none, .none] ++ [.finish id]

end Sample

/-- The job of the delivery that blocked the run is dropped before the request is approved. -/
theorem approval_protocol_evicted : ∃ s : (runSystem Sample.sampleEnv).State,
    s.store.row.status = .running ∧ s.store.row.blocked = none ∧
      (s.store.approvals.getLast?.map (·.status)) = some .approved ∧ s.store.job.pending := by
  have approved : (System.exec Timely (initialState Sample.sampleEnv 0)
      (Sample.requestApproval 0 [Sample.shellNode "n"] ++ .tick .evict :: Sample.approve 1)).any
        (fun s => s.store.row.status = .running && s.store.row.blocked.isNone &&
          (s.store.approvals.getLast?.map (·.status)) = some .approved &&
          (List.range 2).all fun id => (s.process id).isNone) := by
    decide +kernel
  obtain ⟨s, run, facts⟩ := (Option.any_eq_true _ _).mp approved
  simp only [Bool.and_eq_true, decide_eq_true_eq, List.all_eq_true, List.mem_range,
    Option.isNone_iff_eq_none] at facts
  obtain ⟨⟨⟨running, unblocked⟩, latest⟩, ended⟩ := facts
  have idle := System.idle_of_exec 2 (fun _ => rfl) (by decide) run (by simpa using ended)
  obtain ⟨r, last, status⟩ := Option.map_eq_some_iff.mp latest
  exact ⟨s, running, unblocked, latest, (((approval_protocol 0).2.2 s (System.steps_of_exec run)
    idle).2 r last).1 status running (.inl unblocked)⟩

/-- Otherwise the finished job is still kept, and the approved run is not enqueued. -/
theorem approvals_not_settled :
    ¬∀ (env : RunEnv) (now : Int) (s : (runSystem env).State),
      System.Steps (fun _ a => ofApproval a) (initialState env now) s →
      (∀ id, s.process id = none) → s.store.ApprovalsSettled := by
  intro settled
  have kept : (System.exec (fun _ a => ofApproval a) (initialState Sample.sampleEnv 0)
      (Sample.requestApproval 0 [Sample.shellNode "n"] ++ Sample.approve 1)).any
        (fun s => s.store.row.status = .running && s.store.row.blocked.isNone &&
          (s.store.approvals.getLast?.map (·.status)) = some .approved && !s.store.job.pending &&
          (List.range 2).all fun id => (s.process id).isNone) := by
    decide +kernel
  obtain ⟨s, run, facts⟩ := (Option.any_eq_true _ _).mp kept
  simp only [Bool.and_eq_true, decide_eq_true_eq, List.all_eq_true, List.mem_range,
    Option.isNone_iff_eq_none, Bool.not_eq_eq_eq_not, Bool.not_true] at facts
  obtain ⟨⟨⟨⟨running, unblocked⟩, latest⟩, notDue⟩, ended⟩ := facts
  have idle := System.idle_of_exec 2 (fun _ => rfl) (by decide) run (by simpa using ended)
  obtain ⟨r, last, status⟩ := Option.map_eq_some_iff.mp latest
  have due := ((settled _ 0 s (System.steps_of_exec run) idle).2 r last).1 status running
    (.inl unblocked)
  rw [notDue] at due
  cases due

end Vespid
