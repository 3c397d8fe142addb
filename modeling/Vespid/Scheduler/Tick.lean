import Vespid.Lib.Exclusive
import Vespid.Lib.Protocol
import Vespid.Scheduler.Cron

/-!
# Scheduler ticks over one subscription

What a tick of a scheduler does for one cron or heartbeat subscription, and the system of any
number of schedulers that tick over it. A tick that stops between two statements, in a crash
or on a database error, is a handler that takes no further step.
-/

namespace Vespid.Scheduler

open Interleaving

/-- The trigger columns of a subscription. -/
inductive Trigger where
  | cron (cronExpr : Option String)
  | heartbeat (intervalSec jitterSec maxSkewSec : Option Int)

/-- What a tick awaits. -/
inductive TickOp where
  | listDueWorkflowTriggerSubscriptions (now : Int)
  | createWorkflowRun (triggeredAt : Int)
  | queueAdd (runId : Nat)
  | deleteQueuedWorkflowRun (runId : Nat)
  | updateWorkflowTriggerSubscriptionSchedule (nextFireAt : Int) (lastTriggeredAt : Option Int)
      (lastError : Option String)
  | mathRandom

/-- `createWorkflowRun` answers with the run's id, or nothing where its trigger key exists. -/
abbrev TickOp.Reply : TickOp → Type
  | listDueWorkflowTriggerSubscriptions _ => Option (Option Int)
  | createWorkflowRun _ => Option Nat
  | queueAdd _ => Bool
  | deleteQueuedWorkflowRun _ => Unit
  | updateWorkflowTriggerSubscriptionSchedule .. => Unit
  | mathRandom => Rat

abbrev TickOps : Interface where
  Op := TickOp
  Reply := TickOp.Reply

abbrev TickProgram := Program TickOps

abbrev await (op : TickOp) : TickProgram op.Reply := Program.issue (I := TickOps) op

variable (js : JsRuntime) (trigger : Trigger)

/-! ### The program of a tick -/

/-- `Math.floor(Math.random() * (Math.floor(maxJitterSec) + 1))` -/
def randomJitterSec (maxJitterSec : Int) : TickProgram Int :=
  if maxJitterSec ≤ 0 then return 0
  else do
    let r : Rat ← await .mathRandom
    return (r * (maxJitterSec + 1 : Int)).floor

def computeHeartbeatNextFireAt (base intervalSec jitterSec : Int) : TickProgram Int := do
  let jitter ← randomJitterSec jitterSec
  return base + max 1 intervalSec * 1000 + jitter * 1000

/-- Where a wrong cron expression is looked at again. -/
def retryDelay : Int := 5 * 60 * 1000

/-- A subscription that has no slot yet gets its first one. -/
def initSchedule (now : Int) : TickProgram Unit :=
  match trigger with
  | .cron cronExpr =>
    match nextCronFireAt js (cronExpr.getD "") now with
    | none => await (.updateWorkflowTriggerSubscriptionSchedule (now + retryDelay) none
        (some "INVALID_CRON_EXPRESSION"))
    | some nextFireAt => await (.updateWorkflowTriggerSubscriptionSchedule nextFireAt none none)
  | .heartbeat intervalSec jitterSec _ => do
    let nextFireAt ←
      computeHeartbeatNextFireAt now (intervalSec.getD 60) (jitterSec.getD 0)
    await (.updateWorkflowTriggerSubscriptionSchedule nextFireAt none none)

/-- The slot after the one that has fired. -/
def nextSlot (now slotTime : Int) : TickProgram Int :=
  match trigger with
  | .cron cronExpr =>
    return (nextCronFireAt js (cronExpr.getD "") slotTime).getD (now + retryDelay)
  | .heartbeat intervalSec jitterSec maxSkewSec =>
    let skewExceeded := now - slotTime > max 0 (maxSkewSec.getD 0) * 1000
    computeHeartbeatNextFireAt (if skewExceeded then now else slotTime) (intervalSec.getD 60)
      (jitterSec.getD 0)

/-- The slot has its run: go on to the next one. -/
def advance (now slotTime : Int) : TickProgram (Option Int) := do
  let nextFireAt ← nextSlot js trigger now slotTime
  await (.updateWorkflowTriggerSubscriptionSchedule nextFireAt (some slotTime) none)
  return some slotTime

/-- What it returns is the slot it has fired. -/
def processDueSubscription (now : Int) (nextFireAt : Option Int) : TickProgram (Option Int) :=
  match nextFireAt with
  | none => do
    initSchedule js trigger now
    return none
  | some slotTime =>
    if slotTime > now then return none
    else do
      let created : Option Nat ← await (.createWorkflowRun slotTime)
      match created with
      | none => advance js trigger now slotTime
      | some runId =>
        let added : Bool ← await (.queueAdd runId)
        if added then advance js trigger now slotTime
        else do
          await (.deleteQueuedWorkflowRun runId)
          return none

def tick (now : Int) : TickProgram (Option Int) := do
  let due : Option (Option Int) ← await (.listDueWorkflowTriggerSubscriptions now)
  match due with
  | none => return none
  | some nextFireAt => processDueSubscription js trigger now nextFireAt

/-! ### The store -/

structure TriggeredRun where
  id : Nat
  triggeredAt : Int
  deriving DecidableEq

/-- The subscription's row with the runs created for it, the runs that have a job, and what
has happened: the values `nextFireAt` had, the slots it was advanced past, and the slots
fired with the `now` of their ticks. -/
structure ScheduleStore where
  nextFireAt : Option Int
  runs : List TriggeredRun
  jobs : List Nat
  nextRunId : Nat
  past : List Int
  advanced : List Int
  fired : List (Int × Int)

def ScheduleStore.initial (nextFireAt : Option Int) : ScheduleStore :=
  { nextFireAt, runs := [], jobs := [], nextRunId := 0, past := [], advanced := [], fired := [] }

inductive TickChoice where
  | none
  | random (r : Rat)
  | queue (added : Bool)

def performTickOp (op : TickOp) (st : ScheduleStore) (choice : TickChoice) :
    Option (op.Reply × ScheduleStore) :=
  match op, choice with
  | .listDueWorkflowTriggerSubscriptions now, .none =>
    some (if st.nextFireAt.all (· ≤ now) then some st.nextFireAt else none, st)
  | .createWorkflowRun triggeredAt, .none =>
    -- the unique index on the trigger key, which names the slot
    if triggeredAt ∈ st.runs.map (·.triggeredAt) then some (none, st)
    else some (some st.nextRunId,
      { st with runs := st.runs ++ [{ id := st.nextRunId, triggeredAt }],
                nextRunId := st.nextRunId + 1 })
  | .queueAdd runId, .queue added =>
    some (added, if added then { st with jobs := st.jobs ++ [runId] } else st)
  | .deleteQueuedWorkflowRun runId, .none =>
    some ((), { st with runs := st.runs.filter fun run => run.id ≠ runId })
  | .updateWorkflowTriggerSubscriptionSchedule nextFireAt lastTriggeredAt _, .none =>
    some ((), { st with nextFireAt := some nextFireAt, past := st.past ++ st.nextFireAt.toList,
                        advanced := st.advanced ++ lastTriggeredAt.toList })
  | .mathRandom, .random r => if 0 ≤ r ∧ r < 1 then some (r, st) else none
  | _, _ => none

/-- Schedulers that tick over one subscription; a tick is launched with its `now`. -/
abbrev schedulers : System TickOps where
  Store := ScheduleStore
  Launch := Int
  Loop := Empty
  Outcome := Option Int
  Choice := TickChoice
  Tick := Empty
  perform := performTickOp
  launch _ st := some st
  entry now := .inr <$> tick js trigger now
  body _ loop := nomatch loop
  finish now slot st := { st with fired := st.fired ++ slot.toList.map fun slot => (slot, now) }
  tick t _ := nomatch t

/-- No tick is under way. -/
def idleState (nextFireAt : Option Int) : (schedulers js trigger).State :=
  { store := .initial nextFireAt, process := fun _ => none }

/-! ### How far a tick is -/

inductive TickStage where
  | begun (now : Int)
  | read (now : Int) (nextFireAt : Option Int)
  | created (now slot : Int) (runId : Nat)
  | refused (now slot : Int) (runId : Nat)
  | settled (now slot : Int)
  | advanced (now slot : Int)
  | closed

/-- A first slot the subscription may get at `now`. -/
def FirstSlot (now next : Int) : Prop :=
  match trigger with
  | .cron cronExpr => next = (nextCronFireAt js (cronExpr.getD "") now).getD (now + retryDelay)
  | .heartbeat intervalSec _ _ => now + max 1 (intervalSec.getD 60) * 1000 ≤ next

/-- A slot that may follow `slot` after a tick at `now`. -/
def SlotAfter (now slot next : Int) : Prop :=
  match trigger with
  | .cron cronExpr => next = (nextCronFireAt js (cronExpr.getD "") slot).getD (now + retryDelay)
  | .heartbeat intervalSec _ maxSkewSec =>
    (if now - slot > max 0 (maxSkewSec.getD 0) * 1000 then now else slot) +
      max 1 (intervalSec.getD 60) * 1000 ≤ next

namespace TickStage

/-- The value of `nextFireAt` the tick has read. -/
def seen : TickStage → Option (Option Int)
  | read _ nextFireAt => some nextFireAt
  | created _ slot _ | refused _ slot _ | settled _ slot => some (some slot)
  | _ => none

def permits (stage : TickStage) : TickOp → Prop
  | .listDueWorkflowTriggerSubscriptions now => stage = .begun now
  | .createWorkflowRun slot => ∃ now, stage = .read now (some slot) ∧ slot ≤ now
  | .queueAdd runId => ∃ now slot, stage = .created now slot runId
  | .deleteQueuedWorkflowRun runId => ∃ now slot, stage = .refused now slot runId
  | .updateWorkflowTriggerSubscriptionSchedule next lastTriggeredAt _ =>
    (∃ now, stage = .read now none ∧ lastTriggeredAt = none ∧ FirstSlot js trigger now next) ∨
      ∃ now slot, stage = .settled now slot ∧ lastTriggeredAt = some slot ∧ slot ≤ now ∧
        SlotAfter js trigger now slot next
  | .mathRandom => True

def observe : TickStage → (op : TickOp) → op.Reply → TickStage
  | .begun now, .listDueWorkflowTriggerSubscriptions _, due => due.elim .closed (.read now)
  | .read now (some slot), .createWorkflowRun _, runId =>
    runId.elim (.settled now slot) (.created now slot)
  | .created now slot runId, .queueAdd _, added =>
    if added then .settled now slot else .refused now slot runId
  | .refused .., .deleteQueuedWorkflowRun _, _ => .closed
  | .read _ none, .updateWorkflowTriggerSubscriptionSchedule .., _ => .closed
  | .settled now slot, .updateWorkflowTriggerSubscriptionSchedule .., _ => .advanced now slot
  | stage, .mathRandom, _ => stage
  | stage, _, _ => stage

end TickStage

def tickProtocol : Protocol TickOps TickStage where
  permits := TickStage.permits js trigger
  expects op reply := match op, reply with
    | .mathRandom, r => (0 : Rat) ≤ r
    | _, _ => True
  observe := TickStage.observe

variable {js trigger} {now slot : Int} {stage : TickStage}

theorem randomJitterSec_nonneg (maxJitterSec : Int) :
    (randomJitterSec maxJitterSec).wp (tickProtocol js trigger)
      (fun jitter g => 0 ≤ jitter ∧ g = stage) stage := by
  unfold randomJitterSec
  split
  · exact ⟨Int.le_refl _, rfl⟩
  · rename_i positive
    simp only [await, Program.issue_eq, Program.call_bind, Program.done_bind, Program.wp_call]
    refine ⟨trivial, fun r (nonneg : (0 : Rat) ≤ r) => ⟨?_, ?_⟩⟩
    · refine Rat.le_floor_iff.mpr ?_
      have factor : (0 : Rat) ≤ ((maxJitterSec + 1 : Int) : Rat) := by
        exact_mod_cast (by omega : (0 : Int) ≤ maxJitterSec + 1)
      simpa using Rat.mul_nonneg nonneg factor
    · cases stage with
      | read now next => cases next <;> rfl
      | _ => rfl

theorem heartbeat_follows (base intervalSec jitterSec : Int) :
    (computeHeartbeatNextFireAt base intervalSec jitterSec).wp (tickProtocol js trigger)
      (fun next g => base + max 1 intervalSec * 1000 ≤ next ∧ g = stage) stage := by
  refine Program.wp_seq (randomJitterSec_nonneg jitterSec) fun jitter g facts => ?_
  obtain ⟨nonneg, same⟩ := facts
  refine ⟨?_, same⟩
  omega

theorem nextSlot_follows : (nextSlot js trigger now slot).wp (tickProtocol js trigger)
    (fun next g => SlotAfter js trigger now slot next ∧ g = stage) stage := by
  unfold nextSlot SlotAfter
  cases trigger with
  | cron cronExpr => exact ⟨rfl, rfl⟩
  | heartbeat intervalSec jitterSec maxSkewSec => exact heartbeat_follows _ _ _

/-- Where a tick ends: it reports the slot it has advanced past. -/
def Ended (now : Int) (reported : Option Int) (stage : TickStage) : Prop :=
  ∀ slot, reported = some slot → stage = .advanced now slot

theorem advance_follows (due : slot ≤ now) :
    (advance js trigger now slot).wp (tickProtocol js trigger) (Ended now) (.settled now slot) := by
  refine Program.wp_seq nextSlot_follows fun next g facts => ?_
  obtain ⟨after, rfl⟩ := facts
  refine ⟨.inr ⟨now, slot, rfl, rfl, due, after⟩, fun _ _ => ?_⟩
  intro slot' same
  obtain rfl := Option.some.inj same
  rfl

theorem initSchedule_follows : (initSchedule js trigger now).wp (tickProtocol js trigger)
    (fun _ _ => True) (.read now none) := by
  unfold initSchedule
  cases trigger with
  | cron cronExpr =>
    dsimp only
    split
    · rename_i none
      exact ⟨.inl ⟨now, rfl, rfl, by simp [FirstSlot, none]⟩, fun _ _ => trivial⟩
    · rename_i next found
      exact ⟨.inl ⟨now, rfl, rfl, by simp [FirstSlot, found]⟩, fun _ _ => trivial⟩
  | heartbeat intervalSec jitterSec maxSkewSec =>
    refine Program.wp_seq (heartbeat_follows _ _ _) fun next g facts => ?_
    obtain ⟨later, rfl⟩ := facts
    exact ⟨.inl ⟨now, rfl, rfl, later⟩, fun _ _ => trivial⟩

theorem tick_follows : (tick js trigger now).wp (tickProtocol js trigger) (Ended now)
    (.begun now) := by
  simp only [tick, await, Program.issue_eq, Program.call_bind, Program.done_bind, Program.wp_call]
  refine ⟨rfl, fun due _ => ?_⟩
  cases due with
  | none => exact fun _ same => (by cases same)
  | some nextFireAt =>
    cases nextFireAt with
    | none => exact Program.wp_seq initSchedule_follows fun _ _ _ _ same => (by cases same)
    | some slot =>
      simp only [processDueSubscription]
      split
      · exact fun _ same => (by cases same)
      · rename_i due
        have due : slot ≤ now := by omega
        simp only [Program.issue_eq, Program.call_bind, Program.done_bind, Program.wp_call]
        refine ⟨⟨now, rfl, due⟩, fun created _ => ?_⟩
        cases created with
        | none => exact advance_follows due
        | some runId =>
          simp only [Program.wp_call]
          refine ⟨⟨now, slot, rfl⟩, fun added _ => ?_⟩
          cases added with
          | true => exact advance_follows due
          | false =>
            refine ⟨⟨now, slot, rfl⟩, fun _ _ => ?_⟩
            exact fun _ same => (by cases same)

variable (js trigger)

def tickCertified : Certified (schedulers js trigger) (tickProtocol js trigger) where
  start now := .begun now
  looping _ loop _ := nomatch loop
  ended := Ended
  entry_follows now := Program.wp_seq tick_follows fun _ _ ended => ended
  body_follows _ loop := nomatch loop
  replies op st choice reply st' performed := by
    cases op <;> try trivial
    cases choice <;> simp only [performTickOp, reduceCtorEq] at performed
    split at performed
    · rename_i r bounds
      obtain ⟨rfl, -⟩ := Prod.mk.inj (Option.some.inj performed)
      exact bounds.1
    · cases performed

/-! ### What an operation of a tick does -/

namespace ScheduleStore
variable (st : ScheduleStore)

/-- Insert the run of a slot. -/
def create (triggeredAt : Int) : ScheduleStore :=
  { st with runs := st.runs ++ [{ id := st.nextRunId, triggeredAt }], nextRunId := st.nextRunId + 1 }

def delete (runId : Nat) : ScheduleStore :=
  { st with runs := st.runs.filter fun run => run.id ≠ runId }

def schedule (next : Int) (lastTriggeredAt : Option Int) : ScheduleStore :=
  { st with nextFireAt := some next, past := st.past ++ st.nextFireAt.toList,
            advanced := st.advanced ++ lastTriggeredAt.toList }

end ScheduleStore

/-- The operations ticks perform, by stage. -/
inductive Ticked (st : ScheduleStore) : TickStage → TickOp → ScheduleStore → TickStage → Prop where
  | missed {now : Int} : Ticked st (.begun now) (.listDueWorkflowTriggerSubscriptions now) st .closed
  | read {now : Int} : Ticked st (.begun now) (.listDueWorkflowTriggerSubscriptions now) st
      (.read now st.nextFireAt)
  | duplicate {now slot : Int} (due : slot ≤ now) (there : slot ∈ st.runs.map (·.triggeredAt)) :
      Ticked st (.read now (some slot)) (.createWorkflowRun slot) st (.settled now slot)
  | created {now slot : Int} (due : slot ≤ now) (new : slot ∉ st.runs.map (·.triggeredAt)) :
      Ticked st (.read now (some slot)) (.createWorkflowRun slot) (st.create slot)
        (.created now slot st.nextRunId)
  | added {now slot : Int} {runId : Nat} : Ticked st (.created now slot runId) (.queueAdd runId)
      { st with jobs := st.jobs ++ [runId] } (.settled now slot)
  | refused {now slot : Int} {runId : Nat} : Ticked st (.created now slot runId) (.queueAdd runId)
      st (.refused now slot runId)
  | deleted {now slot : Int} {runId : Nat} : Ticked st (.refused now slot runId)
      (.deleteQueuedWorkflowRun runId) (st.delete runId) .closed
  | seeded {now next : Int} {lastError : Option String} (first : FirstSlot js trigger now next) :
      Ticked st (.read now none)
        (.updateWorkflowTriggerSubscriptionSchedule next none lastError) (st.schedule next none)
        .closed
  | advanced {now slot next : Int} {lastError : Option String} (due : slot ≤ now)
      (after : SlotAfter js trigger now slot next) : Ticked st (.settled now slot)
        (.updateWorkflowTriggerSubscriptionSchedule next (some slot) lastError)
        (st.schedule next (some slot)) (.advanced now slot)
  | random {stage : TickStage} : Ticked st stage .mathRandom st stage

variable {js trigger} {st st' : ScheduleStore} {choice : TickChoice}

theorem observe_random (r : Rat) : stage.observe .mathRandom r = stage := by
  cases stage with
  | read now next => cases next <;> rfl
  | _ => rfl

theorem ticked_of_perform {op : TickOp} {reply : op.Reply}
    (permitted : stage.permits js trigger op)
    (performed : performTickOp op st choice = some (reply, st')) :
    Ticked js trigger st stage op st' (stage.observe op reply) := by
  cases op <;> cases choice <;> simp only [performTickOp, reduceCtorEq, Option.some.injEq,
    Prod.mk.injEq] at performed
  case listDueWorkflowTriggerSubscriptions =>
    obtain ⟨rfl, rfl⟩ := performed
    obtain rfl : stage = _ := permitted
    split
    · exact .read
    · exact .missed
  case createWorkflowRun =>
    obtain ⟨now, rfl, due⟩ := permitted
    split at performed
    · rename_i there
      obtain ⟨rfl, rfl⟩ := Prod.mk.inj (Option.some.inj performed)
      exact .duplicate due there
    · rename_i new
      obtain ⟨rfl, rfl⟩ := Prod.mk.inj (Option.some.inj performed)
      exact .created due new
  case queueAdd =>
    obtain ⟨rfl, rfl⟩ := performed
    obtain ⟨now, slot, rfl⟩ := permitted
    rename_i added
    cases added with
    | true => exact .added
    | false => exact .refused
  case deleteQueuedWorkflowRun =>
    obtain ⟨-, rfl⟩ := performed
    obtain ⟨now, slot, rfl⟩ := permitted
    exact .deleted
  case updateWorkflowTriggerSubscriptionSchedule =>
    obtain ⟨-, rfl⟩ := performed
    rcases permitted with ⟨now, rfl, rfl, first⟩ | ⟨now, slot, rfl, rfl, due, after⟩
    · exact .seeded first
    · exact .advanced due after
  case mathRandom =>
    split at performed
    · obtain ⟨rfl, rfl⟩ := Prod.mk.inj (Option.some.inj performed)
      rw [observe_random]
      exact .random
    · cases performed

variable (js trigger)

/-- The running ticks. -/
abbrev ticks (s : (schedulers js trigger).State) : Nat → Option (Int × TickStage) :=
  (tickCertified js trigger).crew s

variable {js trigger} {s : (schedulers js trigger).State}
  {C : (schedulers js trigger).State → (schedulers js trigger).Action → Prop}

/-- The induction rule for what the schedulers keep: launches, operations and ends of ticks. -/
theorem tick_invariant (Inv : ScheduleStore → (Nat → Option (Int × TickStage)) → Prop)
    {nextFireAt : Option Int} (start : Inv (.initial nextFireAt) fun _ => none)
    (launched : ∀ st crew id now, Inv st crew → crew id = none →
      Inv st (Function.update crew id (some (now, .begun now))))
    (called : ∀ (s : (schedulers js trigger).State) a id now stage op st' stage',
      Inv s.store (ticks js trigger s) → C s a → ticks js trigger s id = some (now, stage) →
      (tickCertified js trigger).issued s a = some (stage, op) →
      Ticked js trigger s.store stage op st' stage' →
      Inv st' (Function.update (ticks js trigger s) id (some (now, stage'))))
    (finished : ∀ st crew id now stage slot, Inv st crew → crew id = some (now, stage) →
      Ended now slot stage → Inv { st with fired := st.fired ++ slot.toList.map fun slot => (slot, now) }
        (Function.update crew id none))
    (run : System.Steps C (idleState js trigger nextFireAt) s) : Inv s.store (ticks js trigger s) := by
  refine ((tickCertified js trigger).invariant
    (fun s => Inv s.store (ticks js trigger s)) (fun _ => rfl) start ?_ run).2
  intro t a u all inv meets stepped
  have happened := Certified.happened all stepped
  unfold ticks at inv ⊢
  generalize (tickCertified js trigger).crew u = crew at happened ⊢
  generalize u.store = store at happened ⊢
  cases happened with
  | launch free started =>
    obtain rfl := Option.some.inj started
    exact launched _ _ _ _ inv free
  | call here issues permitted performed =>
    exact called t _ _ _ _ _ _ _ inv meets here issues (ticked_of_perform permitted performed)
  | loop => exact inv
  | finish here ended => exact finished _ _ _ _ _ _ inv here ended
  | tick ticked => rename_i none; cases none

end Vespid.Scheduler
