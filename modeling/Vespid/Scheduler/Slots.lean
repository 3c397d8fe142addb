import Mathlib.Data.List.Nodup
import Mathlib.Data.List.Pairwise
import Vespid.Scheduler.Tick

/-!
# The slots of a subscription

What schedulers keep about the runs they create: that a cron run stands at a matching
instant, that a slot left behind has its run and its job, and that heartbeat runs keep their
distance.
-/

namespace Vespid.Scheduler

open Interleaving

variable {js : JsRuntime} {trigger : Trigger} {nextFireAt : Option Int}

namespace TickStage

/-- The slot a tick works on. -/
def slot : TickStage → Option Int
  | read _ next => next
  | created _ slot _ | refused _ slot _ | settled _ slot => some slot
  | _ => none

/-- The run a tick has created and not yet enqueued. -/
def runId : TickStage → Option Nat
  | created _ _ runId | refused _ _ runId => some runId
  | _ => none

end TickStage

/-! ### Scheduled instants -/

/-- The expression matches the instant. -/
def Matching (js : JsRuntime) (expression : String) (time : Int) : Prop :=
  ∃ parsed, parseCronExpression js expression = some parsed ∧ cronMatches parsed time

/-- Every run stands at an instant its expression matches; a wrong expression has none. -/
def OnSchedule (js : JsRuntime) (expression : String) (st : ScheduleStore) : Prop :=
  ∀ run ∈ st.runs, Matching js expression run.triggeredAt

/-- What schedulers keep where the expression always has a next slot. -/
structure Matched (js : JsRuntime) (expression : String) (st : ScheduleStore)
    (crew : Nat → Option (Int × TickStage)) : Prop where
  next : ∀ time ∈ st.nextFireAt, Matching js expression time
  runs : ∀ run ∈ st.runs, Matching js expression run.triggeredAt
  stages : ∀ id now stage, crew id = some (now, stage) → ∀ slot ∈ stage.slot,
    Matching js expression slot

theorem matching_getD {expression : String} {time other : Int}
    (always : ∀ time, (nextCronFireAt js expression time).isSome) :
    Matching js expression ((nextCronFireAt js expression time).getD other) := by
  obtain ⟨next, found⟩ := Option.isSome_iff_exists.mp (always time)
  rw [found]
  exact (nextCronFireAt_some found).2

theorem matched_reachable {cronExpr : Option String}
    {C : (schedulers js (.cron cronExpr)).State → (schedulers js (.cron cronExpr)).Action → Prop}
    {s : (schedulers js (.cron cronExpr)).State}
    (always : ∀ time, (nextCronFireAt js (cronExpr.getD "") time).isSome)
    (run : System.Steps C (idleState js (.cron cronExpr) none) s) :
    Matched js (cronExpr.getD "") s.store (ticks js (.cron cronExpr) s) := by
  refine tick_invariant (Matched js (cronExpr.getD "")) ?_ ?_ ?_ ?_ run
  · exact ⟨by simp [ScheduleStore.initial], by simp [ScheduleStore.initial], by simp⟩
  · intro st crew id now inv free
    refine ⟨inv.next, inv.runs, fun i l stage here slot mem => ?_⟩
    rcases update_cases here with ⟨-, same⟩ | ⟨-, here⟩
    · cases same
      cases mem
    · exact inv.stages i l stage here slot mem
  · intro s a id now stage op st' stage' inv _ here _ ticked
    have own := inv.stages id now stage here
    have others (st' : ScheduleStore) (next : ∀ time ∈ st'.nextFireAt, Matching js (cronExpr.getD "") time)
        (runs : ∀ run ∈ st'.runs, Matching js (cronExpr.getD "") run.triggeredAt)
        (mine : ∀ slot ∈ stage'.slot, Matching js (cronExpr.getD "") slot) :
        Matched js (cronExpr.getD "") st'
          (Function.update (ticks js (.cron cronExpr) s) id (some (now, stage'))) := by
      refine ⟨next, runs, fun i l q there slot mem => ?_⟩
      rcases update_cases there with ⟨-, same⟩ | ⟨-, there⟩
      · cases same
        exact mine slot mem
      · exact inv.stages i l q there slot mem
    cases ticked with
    | missed => exact others _ inv.next inv.runs (by simp [TickStage.slot])
    | read => exact others _ inv.next inv.runs inv.next
    | duplicate due there => exact others _ inv.next inv.runs own
    | created due new =>
      refine others _ inv.next (fun run mem => ?_) own
      rcases List.mem_append.mp mem with old | last
      · exact inv.runs run old
      · rw [List.mem_singleton.mp last]
        exact own _ rfl
    | added => exact others _ inv.next inv.runs own
    | refused => exact others _ inv.next inv.runs own
    | deleted =>
      refine others _ inv.next (fun run mem => ?_) (by simp [TickStage.slot])
      exact inv.runs run (List.mem_filter.mp mem).1
    | seeded first =>
      refine others _ (fun time mem => ?_) inv.runs (by simp [TickStage.slot])
      obtain rfl := Option.some.inj mem
      rw [show _ = _ from first]
      exact matching_getD always
    | advanced due after =>
      refine others _ (fun time mem => ?_) inv.runs (by simp [TickStage.slot])
      obtain rfl := Option.some.inj mem
      rw [show _ = _ from after]
      exact matching_getD always
    | random => exact others _ inv.next inv.runs own
  · intro st crew id now stage slot inv here ended
    refine ⟨inv.next, inv.runs, fun i l q there slot mem => ?_⟩
    rcases update_cases there with ⟨-, same⟩ | ⟨-, there⟩
    · cases same
    · exact inv.stages i l q there slot mem

/-- Two ticks: the first finds no slot, the second takes the retry instant for one. -/
def retryFires (time : Int) (cronExpr : Option String) :
    List (schedulers js (.cron cronExpr)).Action :=
  [.launch 0 time, .call 0 .none, .call 0 .none, .launch 1 (time + retryDelay), .call 1 .none,
    .call 1 .none]

theorem retry_fires {cronExpr : Option String} {time : Int}
    (none : nextCronFireAt js (cronExpr.getD "") time = none) : ∃ s,
      System.Steps (fun _ _ => True) (idleState js (.cron cronExpr) Option.none) s ∧
        s.store.runs = [{ id := 0, triggeredAt := time + retryDelay }] := by
  have run : (System.exec (fun _ _ => True) (idleState js (.cron cronExpr) Option.none)
      (retryFires time cronExpr)).map (·.store.runs) =
        some [{ id := 0, triggeredAt := time + retryDelay }] := by
    simp [retryFires, System.exec, System.step, System.Process.step, idleState, System.State.update,
      tick, processDueSubscription, initSchedule, none, performTickOp, ScheduleStore.initial]
  obtain ⟨s, reached, runs⟩ := Option.map_eq_some_iff.mp run
  exact ⟨s, System.steps_of_exec reached, runs⟩

/-- The retry instant is no slot. -/
theorem not_matching_retry {expression : String} {time : Int}
    (none : nextCronFireAt js expression time = none) :
    ¬Matching js expression (time + retryDelay) := by
  intro matching
  obtain ⟨parsed, parses, matching⟩ := matching
  have missed := nextCronFireAt_none none parses 4 (by decide)
  rw [← cronMatches_minute] at matching
  have minute : (time + retryDelay) / 60000 * 60000 = nextMinute time + (4 : Nat) * 60000 := by
    unfold nextMinute retryDelay
    push_cast
    omega
  rw [minute, missed] at matching
  cases matching

/-- Runs are created at scheduled instants only exactly where the search for the next slot
always succeeds. -/
theorem on_schedule_iff (cronExpr : Option String) :
    (∀ s, System.Steps (fun _ _ => True) (idleState js (.cron cronExpr) none) s →
      OnSchedule js (cronExpr.getD "") s.store) ↔
    ∀ time, (nextCronFireAt js (cronExpr.getD "") time).isSome := by
  constructor
  · intro scheduled time
    by_contra fails
    have none := Option.not_isSome_iff_eq_none.mp fails
    obtain ⟨s, run, runs⟩ := retry_fires none
    refine not_matching_retry none (scheduled s run { id := 0, triggeredAt := _ } ?_)
    rw [runs]
    exact List.mem_cons_self
  · intro always s run
    exact (matched_reachable always run).runs

/-- A runtime in which no string is a number. -/
def Sample.noNumbers : JsRuntime :=
  { localeCompare := fun _ _ => .eq, number := fun _ => none, inherited := fun _ _ => .undefined }

/-- An expression that never parses has runs created for it. -/
theorem invalid_cron_fires : ¬∀ (js : JsRuntime) (cronExpr : Option String)
    (s : (schedulers js (.cron cronExpr)).State),
    System.Steps (fun _ _ => True) (idleState js (.cron cronExpr) none) s →
      OnSchedule js (cronExpr.getD "") s.store := by
  intro scheduled
  have always := (on_schedule_iff (some "every day")).mp
    (scheduled Sample.noNumbers (some "every day")) 0
  revert always
  decide +kernel

/-! ### Slots left behind -/

variable {s : (schedulers js trigger).State} {a : (schedulers js trigger).Action}

/-- A schedule update finds `nextFireAt` as its tick has read it. -/
def TickStage.fresh (st : ScheduleStore) (stage : TickStage) : TickOp → Prop
  | .updateWorkflowTriggerSubscriptionSchedule .. => ∀ seen ∈ stage.seen, st.nextFireAt = seen
  | _ => True

/-- A tick that finds the run of its slot there finds it enqueued. -/
def TickStage.queued (st : ScheduleStore) (_ : TickStage) : TickOp → Prop
  | .createWorkflowRun slot => ∀ run ∈ st.runs, run.triggeredAt = slot → run.id ∈ st.jobs
  | _ => True

instance {st : ScheduleStore} {stage : TickStage} : (op : TickOp) → Decidable (stage.fresh st op)
  | .updateWorkflowTriggerSubscriptionSchedule .. =>
    inferInstanceAs (Decidable (∀ seen ∈ stage.seen, st.nextFireAt = seen))
  | .listDueWorkflowTriggerSubscriptions _ | .createWorkflowRun _ | .queueAdd _
  | .deleteQueuedWorkflowRun _ | .mathRandom => isTrue trivial

instance {st : ScheduleStore} {stage : TickStage} : (op : TickOp) → Decidable (stage.queued st op)
  | .createWorkflowRun slot =>
    inferInstanceAs (Decidable (∀ run ∈ st.runs, run.triggeredAt = slot → run.id ∈ st.jobs))
  | .updateWorkflowTriggerSubscriptionSchedule .. | .listDueWorkflowTriggerSubscriptions _
  | .queueAdd _ | .deleteQueuedWorkflowRun _ | .mathRandom => isTrue trivial

def NotStale (s : (schedulers js trigger).State) : (schedulers js trigger).Action → Prop :=
  (tickCertified js trigger).Performing (TickStage.fresh s.store) s

def DuplicateQueued (s : (schedulers js trigger).State) : (schedulers js trigger).Action → Prop :=
  (tickCertified js trigger).Performing (TickStage.queued s.store) s

instance : Decidable (NotStale s a) :=
  inferInstanceAs (Decidable ((tickCertified js trigger).Performing _ s a))

instance : Decidable (DuplicateQueued s a) :=
  inferInstanceAs (Decidable ((tickCertified js trigger).Performing _ s a))

/-- A slot that `nextFireAt` was advanced past has one run, and its job was added; the slot
never comes back. -/
def SlotsKept (st : ScheduleStore) : Prop :=
  ∀ slot ∈ st.advanced, (∃ run, st.runs.filter (·.triggeredAt = slot) = [run] ∧
    run.id ∈ st.jobs) ∧ ∃ next, st.nextFireAt = some next ∧ slot < next

def Enqueued (st : ScheduleStore) (slot : Int) : Prop :=
  ∃ run ∈ st.runs, run.triggeredAt = slot ∧ run.id ∈ st.jobs

/-- The slot has been reached by `nextFireAt`. -/
def Past (st : ScheduleStore) (slot : Int) : Prop :=
  ∃ next, st.nextFireAt = some next ∧ slot ≤ next

/-- What is true of the store at each stage. -/
def TickStage.Holds (st : ScheduleStore) : TickStage → Prop
  | .read _ (some slot) => Past st slot
  | .created _ slot runId => Past st slot ∧ runId < st.nextRunId ∧ runId ∉ st.jobs ∧
      { id := runId, triggeredAt := slot } ∈ st.runs
  | .refused _ slot runId => Past st slot ∧ runId < st.nextRunId ∧ runId ∉ st.jobs
  | .settled _ slot => Past st slot ∧ Enqueued st slot
  | _ => True

/-- What schedulers keep about slots. -/
structure Kept (st : ScheduleStore) (crew : Nat → Option (Int × TickStage)) : Prop where
  slots : (st.runs.map (·.triggeredAt)).Nodup
  old : ∀ run ∈ st.runs, run.id < st.nextRunId ∧ Past st run.triggeredAt
  jobs : ∀ runId ∈ st.jobs, runId < st.nextRunId
  advanced : ∀ slot ∈ st.advanced, Enqueued st slot ∧ ∃ next, st.nextFireAt = some next ∧ slot < next
  stages : ∀ id now stage, crew id = some (now, stage) → stage.Holds st
  own : ∀ i j now now' stage stage' runId, crew i = some (now, stage) →
    crew j = some (now', stage') → stage.runId = some runId → stage'.runId = some runId → i = j

theorem slot_lt_after {now slot next : Int} (due : slot ≤ now)
    (after : SlotAfter js trigger now slot next) : slot < next := by
  unfold SlotAfter at after
  cases trigger with
  | cron cronExpr =>
    dsimp only at after
    cases found : nextCronFireAt js (cronExpr.getD "") slot with
    | none =>
      rw [found, Option.getD_none] at after
      unfold retryDelay at after
      omega
    | some time =>
      rw [found, Option.getD_some] at after
      rw [after]
      exact (nextCronFireAt_some found).1
  | heartbeat intervalSec jitterSec maxSkewSec =>
    dsimp only at after
    split at after <;> omega

/-- A stage that holds still holds where runs and jobs of other ticks are added. -/
theorem TickStage.Holds.mono {st st' : ScheduleStore} {stage : TickStage} (holds : stage.Holds st)
    (past : ∀ slot, Past st slot → Past st' slot) (ids : st.nextRunId ≤ st'.nextRunId)
    (jobs : ∀ runId ∈ stage.runId, runId ∈ st'.jobs → runId ∈ st.jobs)
    (runs : ∀ run ∈ st.runs, run.id ∈ st.jobs ∨ stage.runId = some run.id → run ∈ st'.runs)
    (kept : ∀ runId ∈ st.jobs, runId ∈ st'.jobs) : stage.Holds st' := by
  cases stage with
  | read now next =>
    cases next with
    | none => trivial
    | some slot => exact past slot holds
  | created now slot runId =>
    obtain ⟨reached, small, unqueued, there⟩ := holds
    refine ⟨past slot reached, by omega, fun queued => unqueued (jobs runId rfl queued), ?_⟩
    exact runs _ there (.inr rfl)
  | refused now slot runId =>
    obtain ⟨reached, small, unqueued⟩ := holds
    exact ⟨past slot reached, by omega, fun queued => unqueued (jobs runId rfl queued)⟩
  | settled now slot =>
    obtain ⟨reached, run, there, same, queued⟩ := holds
    exact ⟨past slot reached, run, runs run there (.inl queued), same, kept _ queued⟩
  | _ => trivial

/-- The ticks other than `id` when it goes on. -/
theorem Kept.others {st st' : ScheduleStore} {crew : Nat → Option (Int × TickStage)} {id : Nat}
    {now : Int} {stage stage' : TickStage} (kept : Kept st crew)
    (here : crew id = some (now, stage)) (mine : stage'.Holds st')
    (runId : stage'.runId = stage.runId ∨ stage'.runId = none ∨
      stage'.runId = some st.nextRunId)
    (still : ∀ i q, i ≠ id → crew i = some (now, q) ∨ (∃ l, crew i = some (l, q)) →
      (∀ k ∈ q.runId, stage.runId ≠ some k) → q.Holds st → q.Holds st') :
    (∀ i l q, Function.update crew id (some (now, stage')) i = some (l, q) → q.Holds st') ∧
    ∀ i j l l' q q' k, Function.update crew id (some (now, stage')) i = some (l, q) →
      Function.update crew id (some (now, stage')) j = some (l', q') →
      q.runId = some k → q'.runId = some k → i = j := by
  -- a run just created is in no other tick's hands
  have fresh (i : Nat) (l : Int) (q : TickStage) (there : crew i = some (l, q)) :
      q.runId ≠ some st.nextRunId := by
    intro same
    have holds := kept.stages i l q there
    cases q with
    | created _ slot runId =>
      have small : runId < st.nextRunId := holds.2.1
      rw [Option.some.inj same] at small
      omega
    | refused _ slot runId =>
      have small : runId < st.nextRunId := holds.2.1
      rw [Option.some.inj same] at small
      omega
    | _ => cases same
  have apart (i : Nat) (l : Int) (q : TickStage) (k : Nat) (other : i ≠ id)
      (there : crew i = some (l, q)) (has : q.runId = some k) : stage'.runId ≠ some k := by
    rcases runId with same | none | new
    · rw [same]
      intro mine
      exact other (kept.own i id l now q stage k there here has mine)
    · rw [none]
      exact nofun
    · rw [new]
      intro same
      rw [← Option.some.inj same] at has
      exact fresh i l q there has
  refine ⟨fun i l q there => ?_, fun i j l l' q q' k there there' has has' => ?_⟩
  · rcases update_cases there with ⟨-, same⟩ | ⟨other, there⟩
    · cases same
      exact mine
    · refine still i q other (.inr ⟨l, there⟩) (fun k mem mine => ?_) (kept.stages i l q there)
      exact other (kept.own i id l now q stage k there here mem mine)
  · rcases update_cases there with ⟨atId, same⟩ | ⟨other, was⟩
    · cases same
      rcases update_cases there' with ⟨atId', -⟩ | ⟨other', was'⟩
      · exact atId.trans atId'.symm
      · exact (apart j l' q' k other' was' has' has).elim
    · rcases update_cases there' with ⟨-, same'⟩ | ⟨-, was'⟩
      · cases same'
        exact (apart i l q k other was has has').elim
      · exact kept.own i j l l' q q' k was was' has has'

theorem kept_reachable {C : (schedulers js trigger).State → (schedulers js trigger).Action → Prop}
    (notStale : ∀ s a, C s a → NotStale s a) (queued : ∀ s a, C s a → DuplicateQueued s a)
    (run : System.Steps C (idleState js trigger nextFireAt) s) :
    Kept s.store (ticks js trigger s) := by
  refine tick_invariant Kept ?_ ?_ ?_ ?_ run
  · exact ⟨List.nodup_nil, by simp [ScheduleStore.initial], by simp [ScheduleStore.initial],
      by simp [ScheduleStore.initial], by simp, by simp⟩
  · intro st crew id now kept free
    refine ⟨kept.slots, kept.old, kept.jobs, kept.advanced, fun i l q there => ?_,
      fun i j l l' q q' k there there' has has' => ?_⟩
    · rcases update_cases there with ⟨-, same⟩ | ⟨-, there⟩
      · cases same
        trivial
      · exact kept.stages i l q there
    · rcases update_cases there with ⟨-, same⟩ | ⟨-, there⟩
      · cases same
        cases has
      · rcases update_cases there' with ⟨-, same⟩ | ⟨-, there'⟩
        · cases same
          cases has'
        · exact kept.own i j l l' q q' k there there' has has'
  · intro s a id now stage op st' stage' kept meets here issues ticked
    have mine := kept.stages id now stage here
    have fresh := notStale s a meets _ issues
    have duplicate := queued s a meets _ issues
    cases ticked with
    | missed =>
      have closed : TickStage.closed.Holds s.store := trivial
      obtain ⟨stages, own⟩ := kept.others here closed (.inr (.inl rfl))
        fun _ _ _ _ _ holds => holds
      exact ⟨kept.slots, kept.old, kept.jobs, kept.advanced, stages, own⟩
    | read =>
      have holds (now : Int) : (TickStage.read now s.store.nextFireAt).Holds s.store := by
        cases next : s.store.nextFireAt with
        | none => trivial
        | some slot => exact ⟨slot, next, Int.le_refl _⟩
      obtain ⟨stages, own⟩ := kept.others here (holds _) (.inr (.inl rfl))
        fun _ _ _ _ _ holds => holds
      exact ⟨kept.slots, kept.old, kept.jobs, kept.advanced, stages, own⟩
    | @duplicate now slot due there =>
      obtain ⟨r, mem, same⟩ := List.mem_map.mp there
      have holds : (TickStage.settled now slot).Holds s.store :=
        ⟨mine, r, mem, same, duplicate r mem same⟩
      obtain ⟨stages, own⟩ := kept.others here holds (.inr (.inl rfl))
        fun _ _ _ _ _ holds => holds
      exact ⟨kept.slots, kept.old, kept.jobs, kept.advanced, stages, own⟩
    | @created now slot due new =>
      have unused : s.store.nextRunId ∉ s.store.jobs := by
        intro queued
        have := kept.jobs _ queued
        omega
      have holds : (TickStage.created now slot s.store.nextRunId).Holds (s.store.create slot) :=
        ⟨mine, Nat.lt_succ_self _, unused, List.mem_append_right _ List.mem_cons_self⟩
      obtain ⟨stages, own⟩ := kept.others here holds (.inr (.inr rfl))
        fun i q _ _ _ holds => holds.mono (fun _ past => past) (Nat.le_succ _)
          (fun _ _ queued => queued) (fun _ mem _ => List.mem_append_left _ mem)
          (fun _ queued => queued)
      refine ⟨?_, fun r mem => ?_, fun runId queued => ?_, fun old mem => ?_, stages, own⟩
      · rw [ScheduleStore.create, List.map_append]
        exact List.Nodup.append kept.slots (List.nodup_singleton _) (by simpa using new)
      · rcases List.mem_append.mp mem with old | last
        · exact ⟨Nat.lt_succ_of_lt (kept.old r old).1, (kept.old r old).2⟩
        · rw [List.mem_singleton.mp last]
          exact ⟨Nat.lt_succ_self _, mine⟩
      · exact Nat.lt_succ_of_lt (kept.jobs runId queued)
      · obtain ⟨⟨r, there, same, queued⟩, passed⟩ := kept.advanced old mem
        exact ⟨⟨r, List.mem_append_left _ there, same, queued⟩, passed⟩
    | @added now slot runId =>
      obtain ⟨reached, small, -, there⟩ := mine
      have holds : (TickStage.settled now slot).Holds
          { s.store with jobs := s.store.jobs ++ [runId] } :=
        ⟨reached, _, there, rfl, List.mem_append_right _ List.mem_cons_self⟩
      obtain ⟨stages, own⟩ := kept.others here holds (.inr (.inl rfl))
        fun i q _ _ other holds => holds.mono (fun _ past => past) (Nat.le_refl _)
          (fun k mem queued => by
            rcases List.mem_append.mp queued with old | last
            · exact old
            · rw [List.mem_singleton.mp last] at mem
              exact (other runId mem rfl).elim)
          (fun _ mem _ => mem) (fun _ queued => List.mem_append_left _ queued)
      refine ⟨kept.slots, kept.old, fun k queued => ?_, fun old mem => ?_, stages, own⟩
      · rcases List.mem_append.mp queued with old | last
        · exact kept.jobs k old
        · rw [List.mem_singleton.mp last]
          exact small
      · obtain ⟨⟨r, there, same, queued⟩, passed⟩ := kept.advanced old mem
        exact ⟨⟨r, there, same, List.mem_append_left _ queued⟩, passed⟩
    | @refused now slot runId =>
      obtain ⟨reached, small, unqueued, there⟩ := mine
      have holds : (TickStage.refused now slot runId).Holds s.store := ⟨reached, small, unqueued⟩
      obtain ⟨stages, own⟩ := kept.others here holds (.inl rfl) fun _ _ _ _ _ holds => holds
      exact ⟨kept.slots, kept.old, kept.jobs, kept.advanced, stages, own⟩
    | @deleted _ slot runId =>
      obtain ⟨reached, small, unqueued⟩ := mine
      -- only the run that was refused goes
      have stays (r : TriggeredRun) (mem : r ∈ s.store.runs) (other : r.id ≠ runId) :
          r ∈ (s.store.delete runId).runs := List.mem_filter.mpr ⟨mem, by simpa using other⟩
      have closed : TickStage.closed.Holds (s.store.delete runId) := trivial
      obtain ⟨stages, own⟩ := kept.others here closed (.inr (.inl rfl))
        fun i q _ _ other holds => holds.mono (fun _ past => past) (Nat.le_refl _)
          (fun _ _ queued => queued)
          (fun r mem cases => stays r mem (by
            rintro rfl
            rcases cases with queued | same
            · exact unqueued queued
            · exact other r.id same rfl))
          (fun _ queued => queued)
      refine ⟨(List.filter_sublist.map _).nodup kept.slots, fun r mem => ?_, kept.jobs,
        fun old mem => ?_, stages, own⟩
      · exact kept.old r (List.mem_filter.mp mem).1
      · obtain ⟨⟨r, there, same, queued⟩, passed⟩ := kept.advanced old mem
        refine ⟨⟨r, stays r there ?_, same, queued⟩, passed⟩
        rintro rfl
        exact unqueued queued
    | @seeded _ next _ first =>
      have none : s.store.nextFireAt = none := fresh _ rfl
      have absent (slot : Int) : ¬Past s.store slot := by
        intro past
        obtain ⟨_, found, -⟩ := past
        rw [none] at found
        cases found
      have closed : TickStage.closed.Holds (s.store.schedule next Option.none) := trivial
      obtain ⟨stages, own⟩ := kept.others here closed (.inr (.inl rfl))
        fun i q _ _ _ holds => holds.mono (fun slot past => (absent slot past).elim) (Nat.le_refl _) (fun _ _ queued => queued)
          (fun _ mem _ => mem) (fun _ queued => queued)
      refine ⟨kept.slots, fun r mem => (absent _ (kept.old r mem).2).elim, kept.jobs,
        fun old mem => ?_, stages, own⟩
      obtain ⟨-, last, found, -⟩ := kept.advanced old (by simpa [ScheduleStore.schedule] using mem)
      rw [none] at found
      cases found
    | @advanced _ slot next _ due after =>
      have current : s.store.nextFireAt = some slot := fresh _ rfl
      have later := slot_lt_after due after
      obtain ⟨-, enqueued⟩ := mine
      have past (earlier : Int) (reached : Past s.store earlier) :
          Past (s.store.schedule next (some slot)) earlier := by
        obtain ⟨last, found, le⟩ := reached
        obtain rfl := Option.some.inj (found.symm.trans current)
        exact ⟨next, rfl, by omega⟩
      have closed (now : Int) :
          (TickStage.advanced now slot).Holds (s.store.schedule next (some slot)) := trivial
      obtain ⟨stages, own⟩ := kept.others here (closed _) (.inr (.inl rfl))
        fun i q _ _ _ holds => holds.mono past
          (Nat.le_refl _) (fun _ _ queued => queued) (fun _ mem _ => mem) (fun _ queued => queued)
      refine ⟨kept.slots, fun r mem => ⟨(kept.old r mem).1, past _ (kept.old r mem).2⟩, kept.jobs,
        fun old mem => ?_, stages, own⟩
      rcases List.mem_append.mp mem with before | now
      · obtain ⟨found, last, here, passed⟩ := kept.advanced old before
        obtain rfl := Option.some.inj (here.symm.trans current)
        exact ⟨found, next, rfl, by omega⟩
      · rw [List.mem_singleton.mp now]
        exact ⟨enqueued, next, rfl, later⟩
    | random =>
      obtain ⟨stages, own⟩ := kept.others here mine (.inl rfl) fun _ _ _ _ _ holds => holds
      exact ⟨kept.slots, kept.old, kept.jobs, kept.advanced, stages, own⟩
  · intro st crew id now stage slot kept here ended
    refine ⟨kept.slots, kept.old, kept.jobs, kept.advanced, fun i l q there => ?_,
      fun i j l l' q q' k there there' has has' => ?_⟩
    · rcases update_cases there with ⟨-, same⟩ | ⟨-, there⟩
      · cases same
      · exact kept.stages i l q there
    · rcases update_cases there with ⟨-, same⟩ | ⟨-, there⟩
      · cases same
      · rcases update_cases there' with ⟨-, same⟩ | ⟨-, there'⟩
        · cases same
        · exact kept.own i j l l' q q' k there there' has has'

/-- Where no schedule update is stale and no tick finds a run there that has no job, every slot
left behind has its one run and its job, and none comes back. -/
theorem slots_kept (run : System.Steps (fun s a => NotStale s a ∧ DuplicateQueued s a)
    (idleState js trigger nextFireAt) s) : SlotsKept s.store := by
  have kept := kept_reachable (fun _ _ both => both.1) (fun _ _ both => both.2) run
  intro slot mem
  obtain ⟨⟨r, there, same, queued⟩, passed⟩ := kept.advanced slot mem
  refine ⟨⟨r, ?_, queued⟩, passed⟩
  -- two runs of one slot would share their place in the list of slots
  have only (r' : TriggeredRun) (mem : r' ∈ s.store.runs) (slot' : r'.triggeredAt = slot) : r' = r :=
    List.inj_on_of_nodup_map kept.slots mem there (slot'.trans same.symm)
  have nodup : s.store.runs.Nodup := kept.slots.of_map _
  have filtered : (s.store.runs.filter fun r => r.triggeredAt = slot).Perm [r] := by
    refine (List.perm_ext_iff_of_nodup (nodup.filter _) (List.nodup_singleton _)).mpr fun r' => ?_
    rw [List.mem_filter, List.mem_singleton, decide_eq_true_eq]
    exact ⟨fun facts => only r' facts.1 facts.2, fun h => h ▸ ⟨there, same⟩⟩
  exact List.perm_singleton.mp filtered

namespace Sample

/-- A subscription for every minute. -/
abbrev everyMinute : Trigger := .cron (some "* * * * *")

/-- A tick fires the slot 0. -/
def fires : List (schedulers noNumbers everyMinute).Action :=
  [.launch 0 0, .call 0 .none, .call 0 .none, .call 0 (.queue true), .call 0 .none, .finish 0]

/-- A second tick finds the run of the first there and goes on to the next slot; then the first
cannot enqueue its run and deletes it. -/
def overtakes : List (schedulers noNumbers everyMinute).Action :=
  [.launch 0 0, .call 0 .none, .call 0 .none, .launch 1 0, .call 1 .none, .call 1 .none,
    .call 1 .none, .call 0 (.queue false), .call 0 .none]

end Sample

theorem slots_kept_fires : ∃ s : (schedulers Sample.noNumbers Sample.everyMinute).State,
    s.store.advanced = [0] ∧ SlotsKept s.store := by
  have fired : (System.exec (fun s a => NotStale s a ∧ DuplicateQueued s a)
      (idleState Sample.noNumbers Sample.everyMinute (some 0)) Sample.fires).map
        (·.store.advanced) = some [0] := by decide +kernel
  obtain ⟨s, run, advanced⟩ := Option.map_eq_some_iff.mp fired
  exact ⟨s, advanced, slots_kept (System.steps_of_exec run)⟩

/-- Otherwise a slot can be left behind without a run. -/
theorem slot_lost : ¬∀ (js : JsRuntime) (cronExpr : Option String) (nextFireAt : Option Int)
    (s : (schedulers js (.cron cronExpr)).State),
    System.Steps (fun _ _ => True) (idleState js (.cron cronExpr) nextFireAt) s →
      SlotsKept s.store := by
  intro kept
  have overtaken : (System.exec (fun _ _ => True)
      (idleState Sample.noNumbers Sample.everyMinute (some 0)) Sample.overtakes).map
        (fun s => (s.store.advanced, s.store.runs)) = some ([0], []) := by decide +kernel
  obtain ⟨s, run, same⟩ := Option.map_eq_some_iff.mp overtaken
  obtain ⟨advanced, runs⟩ := Prod.mk.inj same
  obtain ⟨⟨r, there, -⟩, -⟩ := kept Sample.noNumbers _ (some 0) s (System.steps_of_exec run) 0
    (by rw [advanced]; exact List.mem_cons_self)
  rw [runs] at there
  cases there

/-! ### Heartbeats -/

/-- The values `nextFireAt` has had, in order. -/
def ScheduleStore.instants (st : ScheduleStore) : List Int := st.past ++ st.nextFireAt.toList

/-- A late firing at `now` leaves nothing between its slot and `now`. -/
def Skipped (st : ScheduleStore) (slot now : Int) : Prop :=
  (∀ time ∈ st.instants, time ≤ slot ∨ now < time) ∧ ∃ time ∈ st.instants, now < time

/-- What heartbeat schedulers keep, for a distance of `gap` and a tolerance of `skew`. -/
structure Spaced (gap skew : Int) (st : ScheduleStore) (crew : Nat → Option (Int × TickStage)) :
    Prop where
  slots : (st.runs.map (·.triggeredAt)).Nodup
  apart : st.instants.Pairwise fun x y => x + gap ≤ y
  first : st.nextFireAt = none → st.past = []
  runs : ∀ run ∈ st.runs, run.triggeredAt ∈ st.instants
  stages : ∀ id l stage, crew id = some (l, stage) → ∀ slot ∈ stage.slot, slot ∈ st.instants
  ended : ∀ id l now slot, crew id = some (l, .advanced now slot) → now - slot > skew →
    Skipped st slot now
  fired : ∀ entry ∈ st.fired, entry.2 - entry.1 > skew → Skipped st entry.1 entry.2

section spaced
variable {intervalSec : Int} {jitterSec maxSkewSec : Option Int}

/-- A new value of `nextFireAt` lies behind all it has had. -/
theorem Spaced.schedule {gap skew next : Int} {st : ScheduleStore}
    {crew : Nat → Option (Int × TickStage)} (spaced : Spaced gap skew st crew)
    (fired : Option Int) (positive : 0 < gap)
    (later : ∀ slot, st.nextFireAt = some slot → slot + gap ≤ next) :
    (st.schedule next fired).instants = st.instants ++ [next] ∧
      ((st.schedule next fired).instants).Pairwise (fun x y => x + gap ≤ y) ∧
      ∀ time ∈ st.instants, time < next := by
  have instants : (st.schedule next fired).instants = st.instants ++ [next] := rfl
  have before (time : Int) (mem : time ∈ st.instants) : time + gap ≤ next := by
    unfold ScheduleStore.instants at mem
    cases current : st.nextFireAt with
    | none =>
      rw [spaced.first current, current] at mem
      cases mem
    | some slot =>
      have last := later slot current
      rw [current] at mem
      rcases List.mem_append.mp mem with old | now
      · have order := spaced.apart
        unfold ScheduleStore.instants at order
        rw [current] at order
        have := (List.pairwise_append.mp order).2.2 time old slot List.mem_cons_self
        omega
      · rw [List.mem_singleton.mp now]
        exact last
  refine ⟨instants, ?_, fun time mem => ?_⟩
  · rw [instants]
    refine List.pairwise_append.mpr ⟨spaced.apart, List.pairwise_singleton _ _, ?_⟩
    intro time mem last there
    rw [List.mem_singleton.mp there]
    exact before time mem
  · have := before time mem
    omega

theorem Skipped.schedule {st : ScheduleStore} {slot now next : Int} {fired : Option Int}
    (skipped : Skipped st slot now) (later : ∀ time ∈ st.instants, time < next) :
    Skipped (st.schedule next fired) slot now := by
  obtain ⟨between, time, mem, after⟩ := skipped
  have beyond := later time mem
  refine ⟨fun x there => ?_, time, List.mem_append_left _ mem, after⟩
  rcases List.mem_append.mp there with old | new
  · exact between x old
  · rw [List.mem_singleton.mp new]
    omega

theorem spaced_reachable
    {C : (schedulers js (.heartbeat (some intervalSec) jitterSec maxSkewSec)).State →
      (schedulers js (.heartbeat (some intervalSec) jitterSec maxSkewSec)).Action → Prop}
    {s : (schedulers js (.heartbeat (some intervalSec) jitterSec maxSkewSec)).State}
    (notStale : ∀ s a, C s a → NotStale s a)
    (run : System.Steps C
      (idleState js (.heartbeat (some intervalSec) jitterSec maxSkewSec) nextFireAt) s) :
    Spaced (max 1 intervalSec * 1000) (max 0 (maxSkewSec.getD 0) * 1000) s.store
      (ticks js (.heartbeat (some intervalSec) jitterSec maxSkewSec) s) := by
  have positive : 0 < max 1 intervalSec * 1000 := by omega
  refine tick_invariant (Spaced _ _) ?_ ?_ ?_ ?_ run
  · refine ⟨List.nodup_nil, ?_, fun _ => rfl, by simp [ScheduleStore.initial], by simp, by simp,
      by simp [ScheduleStore.initial]⟩
    cases nextFireAt <;> simp [ScheduleStore.instants, ScheduleStore.initial]
  · intro st crew id now spaced free
    refine ⟨spaced.slots, spaced.apart, spaced.first, spaced.runs, fun i l q there => ?_,
      fun i l n slot there => ?_, spaced.fired⟩
    · rcases update_cases there with ⟨-, same⟩ | ⟨-, there⟩
      · cases same
        simp [TickStage.slot]
      · exact spaced.stages i l q there
    · rcases update_cases there with ⟨-, same⟩ | ⟨-, there⟩
      · cases same
      · exact spaced.ended i l n slot there
  · intro s a id now stage op st' stage' spaced meets here issues ticked
    have mine := spaced.stages id now stage here
    have fresh := notStale s a meets _ issues
    -- the stages after a step that leaves the schedule alone
    have still (stage' : TickStage) (slots : ∀ slot ∈ stage'.slot, slot ∈ s.store.instants)
        (going : ∀ n slot, stage' ≠ .advanced n slot ∨ stage' = stage) :
        (∀ i l q, Function.update (ticks js _ s) id (some (now, stage')) i = some (l, q) →
          ∀ slot ∈ q.slot, slot ∈ s.store.instants) ∧
        ∀ i l n slot, Function.update (ticks js _ s) id (some (now, stage')) i =
          some (l, .advanced n slot) → n - slot > max 0 (maxSkewSec.getD 0) * 1000 →
            Skipped s.store slot n := by
      refine ⟨fun i l q there => ?_, fun i l n slot there => ?_⟩
      · rcases update_cases there with ⟨-, same⟩ | ⟨-, there⟩
        · cases same
          exact slots
        · exact spaced.stages i l q there
      · rcases update_cases there with ⟨-, same⟩ | ⟨-, there⟩
        · cases same
          rcases going n slot with other | same
          · exact (other rfl).elim
          · exact spaced.ended id now n slot (by rw [here, ← same])
        · exact spaced.ended i l n slot there
    cases ticked with
    | missed =>
      obtain ⟨stages, ended⟩ := still .closed (by simp [TickStage.slot]) fun _ _ => .inl nofun
      exact ⟨spaced.slots, spaced.apart, spaced.first, spaced.runs, stages, ended, spaced.fired⟩
    | @read now =>
      obtain ⟨stages, ended⟩ := still (.read now s.store.nextFireAt)
        (fun slot mem => List.mem_append_right _ (Option.mem_toList.mpr mem)) fun _ _ => .inl nofun
      exact ⟨spaced.slots, spaced.apart, spaced.first, spaced.runs, stages, ended, spaced.fired⟩
    | @duplicate now slot due there =>
      obtain ⟨stages, ended⟩ := still (.settled now slot) mine fun _ _ => .inl nofun
      exact ⟨spaced.slots, spaced.apart, spaced.first, spaced.runs, stages, ended, spaced.fired⟩
    | @created now slot due new =>
      obtain ⟨stages, ended⟩ := still (.created now slot s.store.nextRunId) mine
        fun _ _ => .inl nofun
      refine ⟨?_, spaced.apart, spaced.first, fun r mem => ?_, stages, ended, spaced.fired⟩
      · rw [ScheduleStore.create, List.map_append]
        exact List.Nodup.append spaced.slots (List.nodup_singleton _) (by simpa using new)
      · rcases List.mem_append.mp mem with old | last
        · exact spaced.runs r old
        · rw [List.mem_singleton.mp last]
          exact mine slot rfl
    | @added now slot runId =>
      obtain ⟨stages, ended⟩ := still (.settled now slot) mine fun _ _ => .inl nofun
      exact ⟨spaced.slots, spaced.apart, spaced.first, spaced.runs, stages, ended, spaced.fired⟩
    | @refused now slot runId =>
      obtain ⟨stages, ended⟩ := still (.refused now slot runId) mine fun _ _ => .inl nofun
      exact ⟨spaced.slots, spaced.apart, spaced.first, spaced.runs, stages, ended, spaced.fired⟩
    | @deleted now slot runId =>
      obtain ⟨stages, ended⟩ := still .closed (by simp [TickStage.slot]) fun _ _ => .inl nofun
      refine ⟨(List.filter_sublist.map _).nodup spaced.slots, spaced.apart, spaced.first,
        fun r mem => ?_, stages, ended, spaced.fired⟩
      exact spaced.runs r (List.mem_filter.mp mem).1
    | @seeded _ next _ first =>
      have none : s.store.nextFireAt = none := fresh _ rfl
      have later (slot : Int) (current : s.store.nextFireAt = some slot) :
          slot + max 1 intervalSec * 1000 ≤ next := by
        rw [none] at current
        cases current
      obtain ⟨instants, apart, beyond⟩ := spaced.schedule Option.none positive later
      obtain ⟨stages, ended⟩ := still .closed (by simp [TickStage.slot]) fun _ _ => .inl nofun
      refine ⟨spaced.slots, apart, nofun, fun r mem => List.mem_append_left _ (spaced.runs r mem),
        fun i l q there slot mem => List.mem_append_left _ (stages i l q there slot mem),
        fun i l n slot there late => (ended i l n slot there late).schedule beyond,
        fun entry mem late => (spaced.fired entry mem late).schedule beyond⟩
    | @advanced tickNow slot next _ due after =>
      have current : s.store.nextFireAt = some slot := fresh _ rfl
      unfold SlotAfter at after
      simp only [Option.getD_some] at after
      have later (slot' : Int) (found : s.store.nextFireAt = some slot') :
          slot' + max 1 intervalSec * 1000 ≤ next := by
        obtain rfl := Option.some.inj (found.symm.trans current)
        split at after <;> omega
      obtain ⟨instants, apart, beyond⟩ := spaced.schedule (some slot) positive later
      refine ⟨spaced.slots, apart, nofun, fun r mem => List.mem_append_left _ (spaced.runs r mem),
        fun i l q there slot mem => ?_, fun i l n old there late => ?_,
        fun entry mem late => (spaced.fired entry mem late).schedule beyond⟩
      · rcases update_cases there with ⟨-, same⟩ | ⟨-, there⟩
        · cases same
          cases mem
        · exact List.mem_append_left _ (spaced.stages i l q there slot mem)
      · rcases update_cases there with ⟨-, same⟩ | ⟨-, there⟩
        · cases same
          -- the firing itself: its base was `now`
          have past : tickNow < next := by
            rw [if_pos late] at after
            omega
          refine ⟨fun time there => ?_, next, List.mem_append_right _ List.mem_cons_self, past⟩
          rcases List.mem_append.mp there with old | new
          · have order := spaced.apart
            have old : time ∈ s.store.past ++ s.store.nextFireAt.toList := old
            unfold ScheduleStore.instants at order
            rw [current] at order old
            rcases List.mem_append.mp old with older | last
            · have := (List.pairwise_append.mp order).2.2 time older slot List.mem_cons_self
              omega
            · rw [List.mem_singleton.mp last]
              omega
          · rw [List.mem_singleton.mp new]
            exact .inr past
        · exact (spaced.ended i l n old there late).schedule beyond
    | random =>
      obtain ⟨stages, ended⟩ := still stage mine fun _ _ => .inr rfl
      exact ⟨spaced.slots, spaced.apart, spaced.first, spaced.runs, stages, ended, spaced.fired⟩
  · intro st crew id now stage slot spaced here ended
    have others (i : Nat) (l : Int) (q : TickStage)
        (there : Function.update crew id none i = some (l, q)) : crew i = some (l, q) := by
      rcases update_cases there with ⟨-, same⟩ | ⟨-, there⟩
      · cases same
      · exact there
    refine ⟨spaced.slots, spaced.apart, spaced.first, spaced.runs,
      fun i l q there => spaced.stages i l q (others i l q there),
      fun i l n slot there => spaced.ended i l n slot (others i l _ there), fun entry mem late => ?_⟩
    rcases List.mem_append.mp mem with old | new
    · exact spaced.fired entry old late
    · cases slot with
      | none => cases new
      | some slot =>
        obtain rfl := List.mem_singleton.mp new
        have at_ := ended slot rfl
        rw [at_] at here
        exact spaced.ended id now now slot here late

/-- At least `gap` apart. -/
def Apart (gap x y : Int) : Prop := x + gap ≤ y ∨ y + gap ≤ x

instance {gap : Int} : Std.Symm (Apart gap) := ⟨fun _ _ => Or.symm⟩

/-- The runs of a heartbeat are at least an interval apart, and a firing that is later than the
tolerance is the only one for the time it has missed. -/
def HeartbeatKept (intervalSec : Int) (maxSkewSec : Option Int) (st : ScheduleStore) : Prop :=
  (∀ run ∈ st.runs, ∀ run' ∈ st.runs, run ≠ run' →
    Apart (intervalSec * 1000) run.triggeredAt run'.triggeredAt) ∧
  ∀ entry ∈ st.fired, entry.2 - entry.1 > max 0 (maxSkewSec.getD 0) * 1000 →
    ∀ run ∈ st.runs, ¬(entry.1 < run.triggeredAt ∧ run.triggeredAt ≤ entry.2)

/-- Where no schedule update is stale, heartbeat runs keep their distance. -/
theorem heartbeat_kept
    {s : (schedulers js (.heartbeat (some intervalSec) jitterSec maxSkewSec)).State}
    (run : System.Steps NotStale
      (idleState js (.heartbeat (some intervalSec) jitterSec maxSkewSec) nextFireAt) s) :
    HeartbeatKept intervalSec maxSkewSec s.store := by
  have spaced := spaced_reachable (fun _ _ fresh => fresh) run
  refine ⟨fun r mem r' mem' different => ?_, fun entry mem late r there between => ?_⟩
  · have slots : r.triggeredAt ≠ r'.triggeredAt := by
      intro same
      exact different (List.inj_on_of_nodup_map spaced.slots mem mem' same)
    have order : s.store.instants.Pairwise (Apart (intervalSec * 1000)) :=
      spaced.apart.imp fun {x y} (before : x + max 1 intervalSec * 1000 ≤ y) => .inl (by omega)
    exact order.forall (spaced.runs r mem) (spaced.runs r' mem') slots
  · obtain ⟨gone, -⟩ := spaced.fired entry mem late
    have := gone r.triggeredAt (spaced.runs r there)
    omega

end spaced

namespace Sample

/-- A heartbeat of a minute with up to a minute of jitter. -/
abbrev heartbeat : Trigger := .heartbeat (some 60) (some 60) (some 60)

def beats : List (schedulers noNumbers heartbeat).Action :=
  [.launch 0 0, .call 0 .none, .call 0 .none, .call 0 (.queue true), .call 0 (.random 0),
    .call 0 .none, .finish 0, .launch 0 60000, .call 0 .none, .call 0 .none, .call 0 (.queue true)]

/-- Two ticks fire the slot 0; a third fires the slot the first has drawn before the second
writes the one it has drawn, which a fourth fires. -/
def drawnTwice : List (schedulers noNumbers heartbeat).Action :=
  [.launch 0 0, .call 0 .none, .call 0 .none, .call 0 (.queue true), .launch 1 0, .call 1 .none,
    .call 1 .none, .call 1 (.random (1 / 2)), .call 0 (.random 0), .call 0 .none,
    .launch 2 60000, .call 2 .none, .call 2 .none, .call 1 .none,
    .launch 3 90000, .call 3 .none, .call 3 .none]

end Sample

theorem heartbeat_kept_beats : ∃ s : (schedulers Sample.noNumbers Sample.heartbeat).State,
    s.store.runs.map (·.triggeredAt) = [0, 60000] ∧ HeartbeatKept 60 (some 60) s.store := by
  have fired : (System.exec NotStale (idleState Sample.noNumbers Sample.heartbeat (some 0))
      Sample.beats).map (·.store.runs.map (·.triggeredAt)) = some [0, 60000] := by decide +kernel
  obtain ⟨s, run, runs⟩ := Option.map_eq_some_iff.mp fired
  exact ⟨s, runs, heartbeat_kept (System.steps_of_exec run)⟩

/-- Otherwise two runs can be closer. -/
theorem heartbeat_runs_close : ¬∀ (js : JsRuntime) (intervalSec : Int)
    (jitterSec maxSkewSec nextFireAt : Option Int)
    (s : (schedulers js (.heartbeat (some intervalSec) jitterSec maxSkewSec)).State),
    1 ≤ intervalSec → System.Steps (fun _ _ => True)
      (idleState js (.heartbeat (some intervalSec) jitterSec maxSkewSec) nextFireAt) s →
      HeartbeatKept intervalSec maxSkewSec s.store := by
  intro kept
  have close : (System.exec (fun _ _ => True)
      (idleState Sample.noNumbers Sample.heartbeat (some 0)) Sample.drawnTwice).map (·.store.runs) =
        some [{ id := 0, triggeredAt := 0 }, { id := 1, triggeredAt := 60000 },
          { id := 2, triggeredAt := 90000 }] := by decide +kernel
  obtain ⟨s, run, runs⟩ := Option.map_eq_some_iff.mp close
  obtain ⟨apart, -⟩ := kept Sample.noNumbers 60 (some 60) (some 60) (some 0) s (by decide)
    (System.steps_of_exec run)
  rw [runs] at apart
  have near : Apart (60 * 1000) 60000 90000 := apart { id := 1, triggeredAt := 60000 } (by simp)
    { id := 2, triggeredAt := 90000 } (by simp) (by decide)
  unfold Apart at near
  omega

end Vespid.Scheduler
