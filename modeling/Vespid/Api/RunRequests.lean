import Vespid.Lib.Protocol

/-!
# Requests that create runs

The three routes that create runs of an organization's workflows, and the scheduler's tick, which
creates runs too. Each checks, inserts, enqueues and records in database statements of its own.
-/

namespace Vespid.Api.Runs

open Interleaving

/-! ### Quotas -/

inductive SubscriptionTier where
  | free | pro | enterprise
  deriving DecidableEq

structure OrganizationRunEntitlements where
  monthlyRunLimit : Option Nat
  inflightRunLimit : Option Nat
  deriving DecidableEq

def SubscriptionTier.defaults : SubscriptionTier → OrganizationRunEntitlements
  | free => { monthlyRunLimit := some 200, inflightRunLimit := some 3 }
  | pro => { monthlyRunLimit := some 5000, inflightRunLimit := some 30 }
  | enterprise => { monthlyRunLimit := none, inflightRunLimit := none }

structure OrganizationSubscription where
  tier : SubscriptionTier
  canceled : Bool
  overrides : OrganizationRunEntitlements
  deriving DecidableEq

def OrganizationSubscription.effective (subscription : OrganizationSubscription) :
    OrganizationRunEntitlements where
  monthlyRunLimit :=
    subscription.overrides.monthlyRunLimit.or subscription.tier.defaults.monthlyRunLimit
  inflightRunLimit :=
    subscription.overrides.inflightRunLimit.or subscription.tier.defaults.inflightRunLimit

/-- `limit !== null && count >= limit` -/
def reached (limit : Option Nat) (count : Nat) : Bool := limit.any (· ≤ count)

/-- `assertOrganizationRunQuota` on what it has read. -/
def withinQuota (subscription : OrganizationSubscription) (monthlyUsed inFlightRuns : Nat) : Bool :=
  !subscription.canceled && !reached subscription.effective.monthlyRunLimit monthlyUsed &&
    !reached subscription.effective.inflightRunLimit inFlightRuns

/-! ### Runs -/

/-- Why a run is requested: by a user, by a channel message, by a delivery to a webhook
subscription, or by the scheduler for a slot of a subscription. -/
inductive RunSource where
  | manual
  | channel
  | webhook (subscription : Nat) (idempotencyKey : String)
  | scheduled (subscription : Nat) (slot : Int)
  deriving DecidableEq

/-- A trigger key: the kind of trigger, the subscription's id and the rest. -/
inductive TriggerKey where
  | webhook (subscription : Nat) (part : String)
  | scheduled (subscription : Nat) (slot : Int)
  deriving DecidableEq

/-- `slice(0, 200)`; a header value has one code unit a character. -/
def triggerKeyPart (idempotencyKey : String) : String :=
  String.ofList (idempotencyKey.toList.take 200)

def RunSource.triggerKey : RunSource → Option TriggerKey
  | manual | channel => none
  | webhook subscription idempotencyKey =>
    some (.webhook subscription (triggerKeyPart idempotencyKey))
  | scheduled subscription slot => some (.scheduled subscription slot)

def RunSource.isScheduled : RunSource → Bool
  | scheduled _ _ => true
  | _ => false

def RunSource.isWebhook : RunSource → Bool
  | webhook _ _ => true
  | _ => false

/-- A row of `workflow_runs` as it is created; `month` is the month of its creation. -/
structure WorkflowRunRow where
  id : Nat
  source : RunSource
  month : Nat
  deriving DecidableEq

inductive RunStatus where
  | queued (attemptCount : Nat)
  | running
  | other
  deriving DecidableEq

def RunStatus.inFlight : RunStatus → Bool
  | queued _ | running => true
  | other => false

/-! ### Operations -/

inductive RunOp where
  /-- The look-up of the subscription and its workflow, or of the workflow. -/
  | getTarget
  | currentUsageMonth
  /-- In which order the two counts of `Promise.all` are taken. -/
  | usageFirst
  | getOrganizationSubscription
  | getOrganizationRunUsageMonthly (usageMonth : Nat)
  | countWorkflowRunsByStatuses
  | createWorkflowRun (source : RunSource)
  | enqueueWorkflowRun (run : WorkflowRunRow)
  | deleteQueuedWorkflowRun (run : WorkflowRunRow)
  | incrementOrganizationRunUsageMonthly (usageMonth : Nat) (run : WorkflowRunRow)

abbrev RunOp.Reply : RunOp → Type
  | getTarget | usageFirst | enqueueWorkflowRun _ | incrementOrganizationRunUsageMonthly _ _ => Bool
  | currentUsageMonth | getOrganizationRunUsageMonthly _ | countWorkflowRunsByStatuses => Nat
  | getOrganizationSubscription => OrganizationSubscription
  | createWorkflowRun _ => Option WorkflowRunRow
  | deleteQueuedWorkflowRun _ => Unit

abbrev RunOps : Interface where
  Op := RunOp
  Reply := RunOp.Reply

abbrev RequestProgram := Program RunOps

abbrev ask (op : RunOp) : RequestProgram op.Reply := Program.issue (I := RunOps) op

/-- How a request is answered; `accepted` also stands for a tick that has triggered. -/
inductive Answer where
  | notFound
  | quotaExceeded
  | duplicate
  | queueUnavailable
  | accepted (run : WorkflowRunRow)
  deriving DecidableEq

/-- Whether the answer is 202 to a delivery. -/
def Answer.isAccepted : Answer → Bool
  | duplicate | accepted _ => true
  | _ => false

/-! ### Handlers -/

/-- `getOrganizationRunQuotaSnapshot`, then the check. -/
def assertOrganizationRunQuota : RequestProgram Bool := do
  let usageMonth ← ask .currentUsageMonth
  let subscription ← ask .getOrganizationSubscription
  let usageFirst ← ask .usageFirst
  if usageFirst then
    let monthlyUsed ← ask (.getOrganizationRunUsageMonthly usageMonth)
    let inFlightRuns ← ask .countWorkflowRunsByStatuses
    return withinQuota subscription monthlyUsed inFlightRuns
  else
    let inFlightRuns ← ask .countWorkflowRunsByStatuses
    let monthlyUsed ← ask (.getOrganizationRunUsageMonthly usageMonth)
    return withinQuota subscription monthlyUsed inFlightRuns

/-- `recordOrganizationRunUsage`; an error is logged only. -/
def recordOrganizationRunUsage (run : WorkflowRunRow) : RequestProgram Unit := do
  let usageMonth ← ask .currentUsageMonth
  let _ ← ask (.incrementOrganizationRunUsageMonthly usageMonth run)

/-- Insert and enqueue; `record` is what follows for a run that is enqueued. -/
def createAndEnqueue (source : RunSource) (record : WorkflowRunRow → RequestProgram Unit) :
    RequestProgram Answer := do
  let created ← ask (.createWorkflowRun source)
  match created with
  | none => return .duplicate
  | some run =>
    let added ← ask (.enqueueWorkflowRun run)
    if added then
      record run
      return .accepted run
    else
      let _ ← ask (.deleteQueuedWorkflowRun run)
      return .queueUnavailable

/-- A route: `POST` of a manual run, of a channel's run and of a webhook's delivery. -/
def requestRun (source : RunSource) : RequestProgram Answer := do
  let found ← ask .getTarget
  if !found then return .notFound
  else
    let allowed ← assertOrganizationRunQuota
    if !allowed then return .quotaExceeded
    else createAndEnqueue source recordOrganizationRunUsage

/-- The scheduler's path from a due slot to its run. -/
def processDueSubscription (source : RunSource) : RequestProgram Answer :=
  createAndEnqueue source fun _ => return ()

def handle (source : RunSource) : RequestProgram Answer :=
  if source.isScheduled then processDueSubscription source else requestRun source

/-! ### One organization -/

/-- A request; `redelivery` says whether a delivery with its key has been accepted before. -/
structure Request where
  source : RunSource
  redelivery : Bool
  deriving DecidableEq

/-- The organization's rows and its queued jobs, and a record of what has happened: the requests
started, the rows inserted and the number of runs in flight after each, the rows whose enqueue
failed, the inserts that hit a row, the answers. -/
structure OrgStore where
  subscription : OrganizationSubscription
  month : Nat
  nextId : Nat
  runs : List WorkflowRunRow
  status : Nat → RunStatus
  usage : Nat → Nat
  jobs : List WorkflowRunRow
  launched : List RunSource
  created : List WorkflowRunRow
  peaks : List Nat
  failed : List WorkflowRunRow
  conflicts : List (RunSource × WorkflowRunRow)
  answers : List (Request × Answer)

namespace OrgStore
variable (st : OrgStore)

def inFlightRuns : Nat := st.runs.countP fun run => (st.status run.id).inFlight

def createdIn (month : Nat) : Nat := st.created.countP (·.month = month)

def enqueuedIn (month : Nat) : Nat := st.jobs.countP (·.month = month)

/-- The row that the unique index on trigger keys finds. -/
def holder (source : RunSource) : Option WorkflowRunRow :=
  st.runs.find? fun run => run.source.triggerKey.isSome && run.source.triggerKey = source.triggerKey

/-- A delivery with this key has been answered with 202. -/
def acceptedBefore (source : RunSource) : Bool :=
  source.isWebhook &&
    st.answers.any fun answered => answered.1.source = source && answered.2.isAccepted

def newRow (source : RunSource) : WorkflowRunRow :=
  { id := st.nextId, source, month := st.month }

def insert (source : RunSource) : OrgStore :=
  let row := st.newRow source
  let inserted : OrgStore :=
    { st with
      nextId := st.nextId + 1
      runs := row :: st.runs
      status := fun id => if id = row.id then .queued 0 else st.status id
      created := row :: st.created }
  { inserted with peaks := inserted.inFlightRuns :: st.peaks }

def hit (source : RunSource) (row : WorkflowRunRow) : OrgStore :=
  { st with conflicts := (source, row) :: st.conflicts }

def enqueue (run : WorkflowRunRow) : OrgStore := { st with jobs := run :: st.jobs }

def fail (run : WorkflowRunRow) : OrgStore := { st with failed := run :: st.failed }

/-- `deleteQueuedWorkflowRun`: where the run is queued and was not attempted. -/
def delete (run : WorkflowRunRow) : OrgStore :=
  if st.status run.id = .queued 0 then { st with runs := st.runs.filter (·.id ≠ run.id) } else st

def record (usageMonth : Nat) : OrgStore :=
  { st with
    usage := fun month => if month = usageMonth then st.usage month + 1 else st.usage month }

def answer (request : Request) (answer : Answer) : OrgStore :=
  { st with answers := (request, answer) :: st.answers }

end OrgStore

/-- `ok`: the look-up finds, the usage is counted first, the queue takes the job, the counter is
incremented. -/
def performRun (st : OrgStore) (ok : Bool) : (op : RunOp) → Option (op.Reply × OrgStore)
  | .getTarget | .usageFirst => some (ok, st)
  | .currentUsageMonth => some (st.month, st)
  | .getOrganizationSubscription => some (st.subscription, st)
  | .getOrganizationRunUsageMonthly usageMonth => some (st.usage usageMonth, st)
  | .countWorkflowRunsByStatuses => some (st.inFlightRuns, st)
  | .createWorkflowRun source =>
    match st.holder source with
    | some row => some (none, st.hit source row)
    | none => some (some (st.newRow source), st.insert source)
  | .enqueueWorkflowRun run => if ok then some (true, st.enqueue run) else some (false, st.fail run)
  | .deleteQueuedWorkflowRun run => some ((), st.delete run)
  | .incrementOrganizationRunUsageMonthly usageMonth _ =>
    if ok then some (true, st.record usageMonth) else some (false, st)

/-- What happens besides: a worker moves an enqueued run on, or the month ends. -/
inductive OrgTick where
  | progress (run : WorkflowRunRow) (status : RunStatus)
  | nextMonth

def tickOrg (t : OrgTick) (st : OrgStore) : Option OrgStore :=
  match t with
  | .progress run status =>
    if run ∈ st.jobs then
      some { st with status := fun id => if id = run.id then status else st.status id }
    else none
  | .nextMonth => some { st with month := st.month + 1 }

/-- Any number of requests and ticks of one organization. -/
abbrev runSystem : System RunOps where
  Store := OrgStore
  Launch := Request
  Loop := Empty
  Outcome := Answer
  Choice := Bool
  Tick := OrgTick
  perform op st ok := performRun st ok op
  launch request st :=
    if request.redelivery = st.acceptedBefore request.source then
      some { st with launched := request.source :: st.launched }
    else none
  entry request := .inr <$> handle request.source
  body _ loop := nomatch loop
  finish request answer st := st.answer request answer
  tick := tickOrg

/-- The organization before its first request. -/
def newOrg (subscription : OrganizationSubscription) (month : Nat) : runSystem.State where
  store :=
    { subscription, month, nextId := 0, runs := [], status := fun _ => .other, usage := fun _ => 0,
      jobs := [], launched := [], created := [], peaks := [], failed := [], conflicts := [],
      answers := [] }
  process _ := none

/-! ### What a handler knows -/

/-- How far a handler is with its run. -/
inductive RunStage where
  | before
  | conflicted
  | inserted (run : WorkflowRunRow)
  | enqueued (run : WorkflowRunRow)
  | failed (run : WorkflowRunRow)
  | deleted
  | recorded (run : WorkflowRunRow)
  | unrecorded (run : WorkflowRunRow)
  deriving DecidableEq

structure RequestView where
  request : Request
  found : Bool
  month : Option Nat
  subscription : Option OrganizationSubscription
  monthlyUsed : Option Nat
  inFlightRuns : Option Nat
  stage : RunStage
  deriving DecidableEq

namespace RequestView

/-- The check has passed on what was read. -/
def allowed (v : RequestView) : Bool :=
  match v.subscription, v.monthlyUsed, v.inFlightRuns with
  | some subscription, some monthlyUsed, some inFlightRuns =>
    withinQuota subscription monthlyUsed inFlightRuns
  | _, _, _ => false

/-- The check has failed on what was read. -/
def refused (v : RequestView) : Bool :=
  match v.subscription, v.monthlyUsed, v.inFlightRuns with
  | some subscription, some monthlyUsed, some inFlightRuns =>
    !withinQuota subscription monthlyUsed inFlightRuns
  | _, _, _ => false

end RequestView

def runProtocol : Protocol RunOps RequestView where
  permits v op := match op with
    | .createWorkflowRun source =>
      source = v.request.source ∧ v.stage = .before ∧
        (source.isScheduled = false → v.allowed = true)
    | .enqueueWorkflowRun run => v.stage = .inserted run
    | .deleteQueuedWorkflowRun run => v.stage = .failed run
    | .incrementOrganizationRunUsageMonthly _ run => v.stage = .enqueued run
    | _ => v.request.source.isScheduled = false
  expects op reply := match op, reply with
    | .createWorkflowRun source, some row => row.source = source
    | _, _ => True
  observe v op reply := match op, reply with
    | .getTarget, found => { v with found }
    | .currentUsageMonth, month => { v with month := some month }
    | .getOrganizationSubscription, subscription => { v with subscription := some subscription }
    | .getOrganizationRunUsageMonthly _, used => { v with monthlyUsed := some used }
    | .countWorkflowRunsByStatuses, count => { v with inFlightRuns := some count }
    | .createWorkflowRun _, none => { v with stage := .conflicted }
    | .createWorkflowRun _, some row => { v with stage := .inserted row }
    | .enqueueWorkflowRun run, true => { v with stage := .enqueued run }
    | .enqueueWorkflowRun run, false => { v with stage := .failed run }
    | .deleteQueuedWorkflowRun _, _ => { v with stage := .deleted }
    | .incrementOrganizationRunUsageMonthly _ run, true => { v with stage := .recorded run }
    | .incrementOrganizationRunUsageMonthly _ run, false => { v with stage := .unrecorded run }
    | _, _ => v

def startView (request : Request) : RequestView where
  request := request
  found := true
  month := none
  subscription := none
  monthlyUsed := none
  inFlightRuns := none
  stage := .before

/-- What a handler knows when it answers. -/
def Ended (request : Request) (answer : Answer) (v : RequestView) : Prop :=
  v.request = request ∧ match answer with
    | .notFound => v.found = false ∧ v.stage = .before
    | .quotaExceeded => v.refused = true ∧ v.stage = .before
    | .duplicate => v.stage = .conflicted
    | .queueUnavailable => v.stage = .deleted
    | .accepted run => run.source = request.source ∧
        if request.source.isScheduled then v.stage = .enqueued run
        else v.stage = .recorded run ∨ v.stage = .unrecorded run

/-- Nothing is inserted yet. -/
structure Fresh (request : Request) (v : RequestView) : Prop where
  request : v.request = request
  stage : v.stage = .before

theorem assertOrganizationRunQuota_follows {request : Request} {v : RequestView}
    (fresh : Fresh request v) (route : request.source.isScheduled = false) :
    assertOrganizationRunQuota.wp runProtocol (fun passed v => Fresh request v ∧
      if passed then v.allowed = true else v.refused = true) v := by
  have here : v.request.source.isScheduled = false := by rw [fresh.request]; exact route
  refine ⟨here, fun month _ => ⟨here, fun subscription _ => ⟨here, fun usageFirst _ => ?_⟩⟩⟩
  cases usageFirst with
  | true =>
    refine ⟨here, fun used _ => ⟨here, fun count _ => ⟨⟨fresh.request, fresh.stage⟩, ?_⟩⟩⟩
    cases passed : withinQuota subscription used count <;>
      simp [passed, runProtocol, RequestView.allowed, RequestView.refused]
  | false =>
    refine ⟨here, fun count _ => ⟨here, fun used _ => ⟨⟨fresh.request, fresh.stage⟩, ?_⟩⟩⟩
    cases passed : withinQuota subscription used count <;>
      simp [passed, runProtocol, RequestView.allowed, RequestView.refused]

/-- What `record` has to make of a run that is enqueued. -/
def Records (request : Request) (record : WorkflowRunRow → RequestProgram Unit) : Prop :=
  ∀ run v, v.request = request → v.stage = .enqueued run → run.source = request.source →
    (record run).wp runProtocol (fun _ v => Ended request (.accepted run) v) v

theorem createAndEnqueue_follows {request : Request} {v : RequestView}
    {record : WorkflowRunRow → RequestProgram Unit} (fresh : Fresh request v)
    (allowed : request.source.isScheduled = false → v.allowed = true)
    (records : Records request record) :
    (createAndEnqueue request.source record).wp runProtocol (Ended request) v := by
  refine ⟨⟨by rw [fresh.request], fresh.stage, allowed⟩, fun created ofSource => ?_⟩
  cases created with
  | none => exact ⟨fresh.request, rfl⟩
  | some run =>
    refine ⟨rfl, fun added _ => ?_⟩
    cases added with
    | true =>
      show (record run >>= fun _ => return .accepted run : RequestProgram Answer).wp runProtocol
        (Ended request) { v with stage := .enqueued run }
      exact Program.wp_seq (records run _ fresh.request rfl ofSource) fun _ _ ended => ended
    | false => exact ⟨rfl, fun _ _ => ⟨fresh.request, rfl⟩⟩

theorem requestRun_follows {request : Request} (route : request.source.isScheduled = false) :
    (requestRun request.source).wp runProtocol (Ended request) (startView request) := by
  have records : Records request recordOrganizationRunUsage := by
    intro run v same stage ofSource
    have here : v.request.source.isScheduled = false := by rw [same]; exact route
    refine ⟨here, fun month _ => ⟨stage, fun ok _ => ⟨?_, ofSource, ?_⟩⟩⟩
    · cases ok <;> exact same
    · rw [if_neg (by simp [route])]
      cases ok with
      | true => exact .inl rfl
      | false => exact .inr rfl
  refine ⟨route, fun found _ => ?_⟩
  cases found with
  | false => exact ⟨rfl, rfl, rfl⟩
  | true =>
    show (assertOrganizationRunQuota >>= fun passed => if !passed then return .quotaExceeded
      else createAndEnqueue request.source recordOrganizationRunUsage : RequestProgram Answer).wp
        runProtocol (Ended request) (startView request)
    refine Program.wp_seq (assertOrganizationRunQuota_follows ⟨rfl, rfl⟩ route) ?_
    rintro passed v ⟨fresh, result⟩
    cases passed with
    | false => exact ⟨fresh.request, result, fresh.stage⟩
    | true => exact createAndEnqueue_follows fresh (fun _ => result) records

theorem handle_follows (request : Request) :
    (handle request.source).wp runProtocol (Ended request) (startView request) := by
  unfold handle
  split
  · next scheduled =>
    refine createAndEnqueue_follows ⟨rfl, rfl⟩ (fun route => ?_) fun run v same stage ofSource => ?_
    · rw [scheduled] at route
      cases route
    · exact ⟨same, ofSource, by rw [if_pos scheduled]; exact stage⟩
  · next route => exact requestRun_follows (by simpa using route)

def runCertified : Certified runSystem runProtocol where
  start := startView
  looping _ loop _ := nomatch loop
  ended := Ended
  entry_follows request := Program.wp_seq (handle_follows request) fun _ _ ended => ended
  body_follows _ loop := nomatch loop
  replies op st ok reply st' performed := by
    cases op with
    | createWorkflowRun source =>
      simp only [performRun] at performed
      split at performed
      · cases performed
        trivial
      · cases performed
        rfl
    | _ => trivial

end Vespid.Api.Runs
