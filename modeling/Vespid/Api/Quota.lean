import Vespid.Api.RunRequests
import Vespid.Lib.Exclusive
import Vespid.Lib.Holders

/-!
# Run quotas

The bounds a quota puts on an organization's runs hold while every row is inserted on counts that
are not out of date, the scheduler inserts none, and every usage is recorded in the run's month.
-/

namespace Vespid.Api.Runs

open Interleaving

/-! ### The claim and its condition -/

/-- No insert leaves more than the limit in flight, no month has more rows than its limit, and
once no request is running the usage of every month is the number of its enqueued runs. -/
structure WithinLimits (subscription : OrganizationSubscription) (s : runSystem.State) : Prop where
  inFlight : ∀ limit, subscription.effective.inflightRunLimit = some limit →
    ∀ count ∈ s.store.peaks, count ≤ limit
  monthly : ∀ limit, subscription.effective.monthlyRunLimit = some limit →
    ∀ month, s.store.createdIn month ≤ limit
  usage : (∀ id, s.process id = none) → ∀ month, s.store.usage month = s.store.enqueuedIn month

/-- The counts a request has read are at least those of now. -/
def UpToDate (st : OrgStore) (v : RequestView) : Prop :=
  (∃ used ∈ v.monthlyUsed, st.createdIn st.month ≤ used) ∧
    ∃ count ∈ v.inFlightRuns, st.inFlightRuns ≤ count

instance (st : OrgStore) (v : RequestView) : Decidable (UpToDate st v) := by
  unfold UpToDate
  infer_instance

/-- A row is inserted by a request, on counts that are up to date; usage is recorded, in the month
of the run. -/
def Orderly (s : runSystem.State) (a : runSystem.Action) : Prop :=
  match runCertified.issued s a, a with
  | some (v, .createWorkflowRun source), _ =>
    s.store.holder source = none → source.isScheduled = false ∧ UpToDate s.store v
  | some (_, .incrementOrganizationRunUsageMonthly usageMonth run), .call _ ok =>
    ok = true ∧ usageMonth = run.month
  | _, _ => True

instance (s : runSystem.State) (a : runSystem.Action) : Decidable (Orderly s a) := by
  unfold Orderly
  generalize runCertified.issued s a = issued
  obtain _ | ⟨v, op⟩ := issued
  · exact isTrue trivial
  · rcases op with _ | _ <;> rcases a with _ | _ <;> dsimp only <;> infer_instance

/-! ### The invariant -/

/-- An enqueued run of `month` whose usage is to be recorded. -/
def Owes (month : Nat) (q : Request × RequestView) : Prop :=
  ∃ run, q.2.stage = .enqueued run ∧ run.month = month

/-- What orderly steps let a handler know. -/
structure OrderlyView (subscription : OrganizationSubscription) (q : Request × RequestView) :
    Prop where
  request : q.2.request = q.1
  read : ∀ known ∈ q.2.subscription, known = subscription
  scheduled : q.1.source.isScheduled = true → q.2.stage = .before ∨ q.2.stage = .conflicted
  recorded : ∀ run, q.2.stage ≠ .unrecorded run

structure QuotaInv (subscription : OrganizationSubscription) (st : OrgStore)
    (crew : Nat → Option (Request × RequestView)) : Prop where
  limits : st.subscription = subscription
  ids : ∀ run ∈ st.runs, run.id < st.nextId
  views : ∀ id q, crew id = some q → OrderlyView subscription q
  inFlight : ∀ limit, subscription.effective.inflightRunLimit = some limit →
    ∀ count ∈ st.peaks, count ≤ limit
  monthly : ∀ limit, subscription.effective.monthlyRunLimit = some limit →
    ∀ month, st.createdIn month ≤ limit
  ledger : ∀ month, (st.usage month : ℕ∞) + (Holders (Owes month) crew).encard =
    (st.enqueuedIn month : Nat)

/-- A handler that got as far as a run of its own is no tick of the scheduler. -/
theorem OrderlyView.not_scheduled {subscription : OrganizationSubscription}
    {q : Request × RequestView} {reached : RunStage} (fits : OrderlyView subscription q)
    (stage : q.2.stage = reached) (later : reached ≠ .before ∧ reached ≠ .conflicted) :
    ¬ q.1.source.isScheduled = true := by
  intro scheduled
  rcases fits.scheduled scheduled with same | same
  · exact later.1 (stage.symm.trans same)
  · exact later.2 (stage.symm.trans same)

section step
variable {subscription : OrganizationSubscription} {st : OrgStore}
  {crew : Nat → Option (Request × RequestView)} {id : Nat} {request : Request} {v v' : RequestView}

/-- The rest of the store, which the bounds do not look at. -/
structure SameCounts (st st' : OrgStore) : Prop where
  limits : st'.subscription = st.subscription
  nextId : st'.nextId = st.nextId
  runs : ∀ run ∈ st'.runs, run ∈ st.runs
  peaks : st'.peaks = st.peaks
  created : st'.created = st.created
  usage : st'.usage = st.usage
  jobs : st'.jobs = st.jobs

theorem SameCounts.refl (st : OrgStore) : SameCounts st st :=
  ⟨rfl, rfl, fun _ mem => mem, rfl, rfl, rfl, rfl⟩

/-- A handler that owes as much as before goes on, and the counts stay. -/
theorem quotaInv_stand {st' : OrgStore} (inv : QuotaInv subscription st crew)
    (same : SameCounts st st') {new : Option (Request × RequestView)}
    (fits : ∀ q, new = some q → OrderlyView subscription q)
    (owes : ∀ month, Holders (Owes month) (Function.update crew id new) =
      Holders (Owes month) crew) :
    QuotaInv subscription st' (Function.update crew id new) where
  limits := same.limits.trans inv.limits
  ids run mem := same.nextId ▸ inv.ids run (same.runs run mem)
  views i q there := by
    rcases update_cases there with ⟨-, new⟩ | ⟨-, there⟩
    · exact fits q new
    · exact inv.views i q there
  inFlight limit is count mem := inv.inFlight limit is count (same.peaks ▸ mem)
  monthly limit is month := by
    rw [OrgStore.createdIn, same.created]
    exact inv.monthly limit is month
  ledger month := by
    rw [owes, same.usage, OrgStore.enqueuedIn, same.jobs]
    exact inv.ledger month

theorem quotaInv_store {st' : OrgStore} (inv : QuotaInv subscription st crew)
    (same : SameCounts st st') : QuotaInv subscription st' crew where
  limits := same.limits.trans inv.limits
  ids run mem := same.nextId ▸ inv.ids run (same.runs run mem)
  views := inv.views
  inFlight limit is count mem := inv.inFlight limit is count (same.peaks ▸ mem)
  monthly limit is month := by
    rw [OrgStore.createdIn, same.created]
    exact inv.monthly limit is month
  ledger month := by
    rw [same.usage, OrgStore.enqueuedIn, same.jobs]
    exact inv.ledger month

/-- Owing nothing before and after. -/
theorem owes_idle (had : ∀ q, crew id = some q → ∀ run, q.2.stage ≠ .enqueued run)
    {new : Option (Request × RequestView)}
    (still : ∀ q, new = some q → ∀ run, q.2.stage ≠ .enqueued run) (month : Nat) :
    Holders (Owes month) (Function.update crew id new) = Holders (Owes month) crew :=
  holders_idle (fun q there ⟨run, stage, _⟩ => had q there run stage)
    fun q there ⟨run, stage, _⟩ => still q there run stage

theorem lt_of_not_reached {limit count : Nat} (below : reached (some limit) count = false) :
    count < limit := by
  simpa [reached] using below

/-- A check that passed leaves room for one more run. -/
theorem withinQuota_room {used count : Nat}
    (passed : withinQuota subscription used count = true) :
    (∀ limit, subscription.effective.monthlyRunLimit = some limit → used < limit) ∧
      ∀ limit, subscription.effective.inflightRunLimit = some limit → count < limit := by
  simp only [withinQuota, Bool.and_eq_true, Bool.not_eq_true'] at passed
  refine ⟨fun limit is => lt_of_not_reached ?_, fun limit is => lt_of_not_reached ?_⟩
  · rw [← is]
    exact passed.1.2
  · rw [← is]
    exact passed.2

theorem createdIn_insert (source : RunSource) (month : Nat) :
    (st.insert source).createdIn month =
      st.createdIn month + if st.month = month then 1 else 0 := by
  simp only [OrgStore.createdIn, OrgStore.insert, OrgStore.newRow, List.countP_cons,
    decide_eq_true_eq]

theorem inFlightRuns_insert (ids : ∀ run ∈ st.runs, run.id < st.nextId) (source : RunSource) :
    (st.insert source).inFlightRuns = st.inFlightRuns + 1 := by
  have others : st.runs.countP (fun run => ((st.insert source).status run.id).inFlight) =
      st.inFlightRuns := by
    refine List.countP_congr fun run mem => ?_
    have older : run.id ≠ st.nextId := (ids run mem).ne
    simp [OrgStore.insert, OrgStore.newRow, older]
  show (st.newRow source :: st.runs).countP _ = _
  rw [List.countP_cons, others]
  simp [OrgStore.insert, OrgStore.newRow, RunStatus.inFlight]

/-- A handler that has not inserted yet owes nothing. -/
theorem not_owing {q : Request × RequestView} (here : crew id = some q)
    (stage : ∀ run, q.2.stage ≠ .enqueued run) :
    ∀ r, crew id = some r → ∀ run, r.2.stage ≠ .enqueued run := by
  intro r there
  cases here.symm.trans there
  exact stage

theorem quotaInv_insert (inv : QuotaInv subscription st crew) (here : crew id = some (request, v))
    (before : v.stage = .before) {source : RunSource} (route : request.source.isScheduled = false)
    (allowed : v.allowed = true) (current : UpToDate st v) :
    QuotaInv subscription (st.insert source)
      (Function.update crew id
        (some (request, { v with stage := .inserted (st.newRow source) }))) := by
  have fits := inv.views id _ here
  obtain ⟨⟨used, hasUsed, usedBound⟩, count, hasCount, countBound⟩ := current
  have room : (∀ limit, subscription.effective.monthlyRunLimit = some limit → used < limit) ∧
      ∀ limit, subscription.effective.inflightRunLimit = some limit → count < limit := by
    unfold RequestView.allowed at allowed
    rw [Option.mem_def.mp hasUsed, Option.mem_def.mp hasCount] at allowed
    cases known : v.subscription with
    | none => simp [known] at allowed
    | some read =>
      rw [known, fits.read read known] at allowed
      exact withinQuota_room allowed
  exact
    { limits := inv.limits
      ids := by
        intro run mem
        rcases List.mem_cons.mp mem with rfl | older
        · exact Nat.lt_succ_self _
        · exact Nat.lt_succ_of_lt (inv.ids run older)
      views := by
        intro i q there
        by_cases eq : i = id
        · subst eq
          cases (by simpa using there : some _ = some q)
          exact ⟨fits.request, fits.read, fun scheduled => absurd scheduled (by simp [route]),
            fun _ => by simp⟩
        · exact inv.views i q (by rwa [Function.update_of_ne eq] at there)
      inFlight := by
        intro limit is n mem
        rcases List.mem_cons.mp mem with rfl | older
        · show (st.insert source).inFlightRuns ≤ limit
          rw [inFlightRuns_insert inv.ids]
          exact Nat.succ_le_of_lt (countBound.trans_lt (room.2 limit is))
        · exact inv.inFlight limit is n older
      monthly := by
        intro limit is month
        rw [createdIn_insert]
        split
        · next now =>
          rw [← now]
          exact Nat.succ_le_of_lt (usedBound.trans_lt (room.1 limit is))
        · exact inv.monthly limit is month
      ledger := by
        intro month
        rw [owes_idle (not_owing here (by simp [before])) (by rintro q ⟨⟩ run; simp)]
        exact inv.ledger month }

theorem quotaInv_enqueue (inv : QuotaInv subscription st crew) (here : crew id = some (request, v))
    {run : WorkflowRunRow} (stage : v.stage = .inserted run) :
    QuotaInv subscription (st.enqueue run)
      (Function.update crew id (some (request, { v with stage := .enqueued run }))) where
  limits := inv.limits
  ids := inv.ids
  views i q there := by
    have fits := inv.views id _ here
    rcases update_cases there with ⟨-, new⟩ | ⟨-, there⟩
    · cases new
      refine ⟨fits.request, fits.read, fun scheduled => ?_, fun _ => by simp⟩
      exact absurd scheduled (fits.not_scheduled stage (by simp))
    · exact inv.views i q there
  inFlight := inv.inFlight
  monthly := inv.monthly
  ledger month := by
    have jobs : (st.enqueue run).enqueuedIn month =
        st.enqueuedIn month + if run.month = month then 1 else 0 := by
      simp [OrgStore.enqueuedIn, OrgStore.enqueue, List.countP_cons]
    have idle : ∀ r, crew id = some r → ¬ Owes month r := by
      rintro r there ⟨other, enqueued, _⟩
      exact not_owing here (by simp [stage]) r there other enqueued
    show (st.usage month : ℕ∞) + _ = _
    rw [jobs]
    by_cases same : run.month = month
    · rw [holders_gain idle ⟨run, rfl, same⟩, if_pos same, ← add_assoc, inv.ledger month]
      push_cast
      rfl
    · rw [holders_idle idle, if_neg same, add_zero]
      · exact inv.ledger month
      · rintro r ⟨⟩ ⟨other, enqueued, is⟩
        cases enqueued
        exact same is

theorem quotaInv_record (inv : QuotaInv subscription st crew) (here : crew id = some (request, v))
    {run : WorkflowRunRow} (stage : v.stage = .enqueued run) :
    QuotaInv subscription (st.record run.month)
      (Function.update crew id (some (request, { v with stage := .recorded run }))) where
  limits := inv.limits
  ids := inv.ids
  views i q there := by
    have fits := inv.views id _ here
    rcases update_cases there with ⟨-, new⟩ | ⟨-, there⟩
    · cases new
      refine ⟨fits.request, fits.read, fun scheduled => ?_, fun _ => by simp⟩
      exact absurd scheduled (fits.not_scheduled stage (by simp))
    · exact inv.views i q there
  inFlight := inv.inFlight
  monthly := inv.monthly
  ledger month := by
    have lets : ∀ r, some (request, { v with stage := RunStage.recorded run }) = some r →
        ¬ Owes month r := by
      rintro r ⟨⟩ ⟨other, enqueued, _⟩
      cases enqueued
    have ledger := inv.ledger month
    show ((if month = run.month then st.usage month + 1 else st.usage month : Nat) : ℕ∞) + _ =
      (st.enqueuedIn month : Nat)
    by_cases same : run.month = month
    · rw [← holders_loss here ⟨run, stage, same⟩ lets, ← add_assoc] at ledger
      rw [if_pos same.symm, ← ledger]
      push_cast
      rw [add_right_comm]
    · rw [if_neg (Ne.symm same), holders_idle _ lets]
      · exact ledger
      · rintro r there ⟨other, enqueued, is⟩
        cases here.symm.trans there
        cases stage.symm.trans enqueued
        exact same is

/-- A handler that owes nothing before and after an operation that changes no count. -/
theorem quotaInv_quiet {st' : OrgStore} (inv : QuotaInv subscription st crew)
    (here : crew id = some (request, v)) (same : SameCounts st st')
    (fits : OrderlyView subscription (request, v')) (had : ∀ run, v.stage ≠ .enqueued run)
    (still : ∀ run, v'.stage ≠ .enqueued run) :
    QuotaInv subscription st' (Function.update crew id (some (request, v'))) := by
  refine quotaInv_stand inv same (by rintro q ⟨⟩; exact fits) (owes_idle (not_owing here had) ?_)
  rintro q ⟨⟩
  exact still

/-- A read changes what is known and neither a count nor the stage. -/
theorem quotaInv_read (inv : QuotaInv subscription st crew) (here : crew id = some (request, v))
    (request_eq : v'.request = v.request) (stage : v'.stage = v.stage)
    (read : ∀ known ∈ v'.subscription, known = subscription) :
    QuotaInv subscription st (Function.update crew id (some (request, v'))) := by
  have fits := inv.views id _ here
  refine quotaInv_stand inv (.refl st) ?_ fun month => ?_
  · rintro q ⟨⟩
    refine ⟨request_eq.trans fits.request, read, fun scheduled => ?_, fun run => ?_⟩
    · show v'.stage = .before ∨ v'.stage = .conflicted
      rw [stage]
      exact fits.scheduled scheduled
    · show v'.stage ≠ .unrecorded run
      rw [stage]
      exact fits.recorded run
  · refine holders_same here ?_
    show (∃ run, v'.stage = .enqueued run ∧ run.month = month) ↔ _
    rw [stage]
    rfl

theorem quotaInv_call {op : RunOp} {reply : op.Reply} {st' : OrgStore} {ok : Bool}
    {s : runSystem.State} (inv : QuotaInv subscription s.store crew)
    (here : crew id = some (request, v)) (permitted : runProtocol.permits v op)
    (performed : performRun s.store ok op = some (reply, st'))
    (issues : runCertified.issued s (.call id ok) = some (v, op))
    (orderly : Orderly s (.call id ok)) :
    QuotaInv subscription st'
      (Function.update crew id (some (request, runProtocol.observe v op reply))) := by
  have fits := inv.views id _ here
  have sameRequest : v.request = request := fits.request
  cases op with
  | getTarget | currentUsageMonth | usageFirst | getOrganizationRunUsageMonthly _
    | countWorkflowRunsByStatuses =>
    cases performed
    exact quotaInv_read inv here rfl rfl fits.read
  | getOrganizationSubscription =>
    cases performed
    refine quotaInv_read inv here rfl rfl ?_
    rintro known ⟨⟩
    exact inv.limits
  | createWorkflowRun source =>
    obtain ⟨rfl, before, allowed⟩ := permitted
    simp only [performRun] at performed
    split at performed
    · cases performed
      refine quotaInv_quiet inv here ⟨rfl, rfl, fun _ mem => mem, rfl, rfl, rfl, rfl⟩
        ⟨fits.request, fits.read, fun _ => .inr rfl, fun _ => by simp [runProtocol]⟩
        (by simp [before]) (by simp [runProtocol])
    · next free =>
      cases performed
      unfold Orderly at orderly
      rw [issues] at orderly
      obtain ⟨route, current⟩ := orderly free
      rw [sameRequest] at route
      have allowed := allowed (by rw [sameRequest]; exact route)
      exact quotaInv_insert inv here before route allowed current
  | enqueueWorkflowRun run =>
    have stage : v.stage = .inserted run := permitted
    simp only [performRun] at performed
    split at performed
    · cases performed
      exact quotaInv_enqueue inv here stage
    · cases performed
      refine quotaInv_quiet inv here ⟨rfl, rfl, fun _ mem => mem, rfl, rfl, rfl, rfl⟩
        ⟨fits.request, fits.read, fun scheduled => ?_, fun _ => by simp [runProtocol]⟩
        (by simp [stage]) (by simp [runProtocol])
      exact absurd scheduled (fits.not_scheduled stage (by simp))
  | deleteQueuedWorkflowRun run =>
    have stage : v.stage = .failed run := permitted
    cases performed
    refine quotaInv_quiet inv here ?_
      ⟨fits.request, fits.read, fun scheduled => ?_, fun _ => by simp [runProtocol]⟩
      (by simp [stage]) (by simp [runProtocol])
    · unfold OrgStore.delete
      split
      · exact ⟨rfl, rfl, fun _ mem => List.mem_of_mem_filter mem, rfl, rfl, rfl, rfl⟩
      · exact .refl _
    · exact absurd scheduled (fits.not_scheduled stage (by simp))
  | incrementOrganizationRunUsageMonthly usageMonth run =>
    have stage : v.stage = .enqueued run := permitted
    unfold Orderly at orderly
    rw [issues] at orderly
    obtain ⟨rfl, rfl⟩ := orderly
    cases performed
    exact quotaInv_record inv here stage

/-- A handler that answers owes nothing. -/
theorem not_owing_of_ended {answer : Answer} (fits : OrderlyView subscription (request, v))
    (ended : Ended request answer v) (run : WorkflowRunRow) : v.stage ≠ .enqueued run := by
  intro stage
  obtain ⟨-, ended⟩ := ended
  cases answer with
  | notFound => exact absurd (ended.2.symm.trans stage) (by simp)
  | quotaExceeded => exact absurd (ended.2.symm.trans stage) (by simp)
  | duplicate => exact absurd (Eq.trans (Eq.symm ended) stage) (by simp)
  | queueUnavailable => exact absurd (Eq.trans (Eq.symm ended) stage) (by simp)
  | accepted other =>
    obtain ⟨-, ended⟩ := ended
    split at ended
    · next scheduled =>
      exact fits.not_scheduled stage (by simp) scheduled
    · rcases ended with same | same
      · exact absurd (same.symm.trans stage) (by simp)
      · exact absurd (same.symm.trans stage) (by simp)

end step

theorem quotaInv_step {subscription : OrganizationSubscription} {s t : runSystem.State}
    {a : runSystem.Action} (all : runCertified.AllFollow s)
    (inv : QuotaInv subscription s.store (runCertified.crew s)) (orderly : Orderly s a)
    (stepped : System.Stepped s a t) :
    QuotaInv subscription t.store (runCertified.crew t) := by
  have happened := Certified.happened all stepped
  generalize runCertified.crew t = crew at happened ⊢
  generalize t.store = store at happened ⊢
  cases happened with
  | @launch id request store free launched =>
    have same : SameCounts s.store store := by
      simp only at launched
      split at launched
      · cases launched
        exact ⟨rfl, rfl, fun _ mem => mem, rfl, rfl, rfl, rfl⟩
      · cases launched
    refine quotaInv_stand inv same ?_ (owes_idle ?_ ?_)
    · rintro q ⟨⟩
      exact ⟨rfl, by rintro known ⟨⟩, fun _ => .inl rfl,
        fun run => by simp [runCertified, startView]⟩
    · intro q there
      rw [free] at there
      cases there
    · rintro q ⟨⟩ run
      simp [runCertified, startView]
  | call here issues permitted performed =>
    exact quotaInv_call inv here permitted performed issues orderly
  | loop => exact inv
  | @finish id request v answer here ended =>
    have same : SameCounts s.store (s.store.answer request answer) :=
      ⟨rfl, rfl, fun _ mem => mem, rfl, rfl, rfl, rfl⟩
    refine quotaInv_stand inv same ?_ (owes_idle ?_ ?_)
    · rintro q ⟨⟩
    · exact not_owing here (not_owing_of_ended (inv.views id _ here) ended)
    · rintro q ⟨⟩
  | @tick t store ticked =>
    refine quotaInv_store inv ?_
    cases t with
    | progress run status =>
      simp only [tickOrg] at ticked
      split at ticked
      · cases ticked
        exact ⟨rfl, rfl, fun _ mem => mem, rfl, rfl, rfl, rfl⟩
      · cases ticked
    | nextMonth =>
      cases ticked
      exact ⟨rfl, rfl, fun _ mem => mem, rfl, rfl, rfl, rfl⟩

theorem quotaInv_newOrg (subscription : OrganizationSubscription) (month : Nat) :
    QuotaInv subscription (newOrg subscription month).store fun _ => none where
  limits := rfl
  ids := by simp [newOrg]
  views := by simp
  inFlight := by simp [newOrg]
  monthly := by simp [newOrg, OrgStore.createdIn]
  ledger month := by
    rw [holders_none]
    simp [newOrg, OrgStore.enqueuedIn]

theorem quotaInv_run {subscription : OrganizationSubscription} {month : Nat} {s : runSystem.State}
    (run : System.Steps Orderly (newOrg subscription month) s) :
    QuotaInv subscription s.store (runCertified.crew s) :=
  (runCertified.invariant (fun s => QuotaInv subscription s.store (runCertified.crew s))
    (fun _ => rfl) (quotaInv_newOrg subscription month)
    (fun _ _ _ all inv orderly stepped => quotaInv_step all inv orderly stepped) run).2

/-! ### Runs within their quota -/

/-- Orderly steps keep an organization within its limits. -/
theorem quota_enforced (subscription : OrganizationSubscription) (month : Nat)
    (s : runSystem.State) (run : System.Steps Orderly (newOrg subscription month) s) :
    WithinLimits subscription s := by
  have inv := quotaInv_run run
  refine ⟨inv.inFlight, inv.monthly, fun idle month => ?_⟩
  have nobody : runCertified.crew s = fun _ => none := by
    funext id
    simp [Certified.crew, idle id]
  have ledger := inv.ledger month
  rw [nobody, holders_none, Set.encard_empty, add_zero] at ledger
  exact_mod_cast ledger

/-- One run at a time, and ten a month. -/
def smallPlan : OrganizationSubscription where
  tier := .free
  canceled := false
  overrides := { monthlyRunLimit := some 10, inflightRunLimit := some 1 }

/-- The steps of a handler, each with the choice `true`. -/
def callsOf (id n : Nat) : List runSystem.Action :=
  (List.replicate n (.call id true) : List runSystem.Action)

def manualRequest : Request := { source := .manual, redelivery := false }

/-- A manual run that is accepted. -/
theorem quota_enforced_once : ∃ s, System.Steps Orderly (newOrg smallPlan 0) s ∧
    s.store.peaks = [1] ∧ WithinLimits smallPlan s := by
  let actions : List runSystem.Action :=
    [.launch 0 manualRequest] ++ callsOf 0 10 ++ [.finish 0]
  have done : ((System.exec Orderly (newOrg smallPlan 0) actions).map
      fun s => s.store.peaks) = some [1] := by decide +kernel
  obtain ⟨s, ran, peaks⟩ := Option.map_eq_some_iff.mp done
  have steps := System.steps_of_exec ran
  exact ⟨s, steps, peaks, quota_enforced smallPlan 0 s steps⟩

/-- Two requests that both count before either inserts exceed the limit together. -/
theorem quota_exceeded : ¬ ∀ (subscription : OrganizationSubscription) (month : Nat)
    (s : runSystem.State), System.Steps (fun _ _ => True) (newOrg subscription month) s →
      WithinLimits subscription s := by
  intro claim
  let actions : List runSystem.Action :=
    [.launch 0 manualRequest, .launch 1 manualRequest] ++ callsOf 0 6 ++ callsOf 1 6 ++
      callsOf 0 1 ++ callsOf 1 1
  have done : ((System.exec (fun _ _ => True) (newOrg smallPlan 0) actions).map
      fun s => s.store.peaks) = some [2, 1] := by decide +kernel
  obtain ⟨s, ran, peaks⟩ := Option.map_eq_some_iff.mp done
  have within := (claim smallPlan 0 s (System.steps_of_exec ran)).inFlight 1 rfl 2
    (by rw [peaks]; simp)
  omega

end Vespid.Api.Runs
