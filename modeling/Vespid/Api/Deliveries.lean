import Mathlib.Data.List.Nodup
import Vespid.Api.RunRequests
import Vespid.Lib.Exclusive

/-!
# Deliveries to a webhook

A delivery is known again by its trigger key. The run of a key is there for good once a delivery
of it was accepted, while no delivery meets a run whose enqueue fails, keys are told apart by
their first 200 characters and a redelivery is not turned away before the insert.
-/

namespace Vespid.Api.Runs

open Interleaving

/-! ### The claim and its condition -/

/-- One run for a key at most; duplicates have the key of the run they hit; once no request is
running, an accepted delivery has an enqueued run; a redelivery is answered as a duplicate. -/
structure Idempotent (s : runSystem.State) : Prop where
  once : ∀ subscription key,
    (s.store.runs.filter fun run => run.source = .webhook subscription key).length ≤ 1
  distinct : ∀ conflict ∈ s.store.conflicts, conflict.2.source = conflict.1
  enqueued : (∀ id, s.process id = none) → ∀ answered ∈ s.store.answers,
    answered.1.source.isWebhook = true → answered.2.isAccepted = true →
      ∃ run ∈ s.store.runs, run.source = answered.1.source ∧ run ∈ s.store.jobs
  redelivered : ∀ answered ∈ s.store.answers,
    answered.1.redelivery = true → answered.2 = .duplicate

/-- Different sources launched have different trigger keys. -/
def KeysApart (launched : List RunSource) (source : RunSource) : Prop :=
  ∀ other ∈ launched, source.triggerKey.isSome = true → other.triggerKey = source.triggerKey →
    other = source

instance (launched : List RunSource) (source : RunSource) :
    Decidable (KeysApart launched source) := by
  unfold KeysApart
  infer_instance

/-- Sources are told apart by their trigger keys; no insert hits a row whose enqueue has failed,
and no enqueue fails of a row that was hit; a redelivery finds its subscription and workflow and
quota left. -/
def Undisturbed (s : runSystem.State) (a : runSystem.Action) : Prop :=
  match a with
  | .launch _ request => KeysApart s.store.launched request.source
  | .call _ ok =>
    match runCertified.issued s a with
    | some (_, .createWorkflowRun source) => ∀ row ∈ s.store.holder source, row ∉ s.store.failed
    | some (_, .enqueueWorkflowRun run) =>
      ok = false → ∀ conflict ∈ s.store.conflicts, conflict.2 ≠ run
    | some (v, .getTarget) => v.request.redelivery = true → ok = true
    | some (v, .getOrganizationSubscription) =>
      v.request.redelivery = true → s.store.subscription.canceled = false
    | some (v, .getOrganizationRunUsageMonthly month) => v.request.redelivery = true →
      reached s.store.subscription.effective.monthlyRunLimit (s.store.usage month) = false
    | some (v, .countWorkflowRunsByStatuses) => v.request.redelivery = true →
      reached s.store.subscription.effective.inflightRunLimit s.store.inFlightRuns = false
    | _ => True
  | _ => True

instance (s : runSystem.State) (a : runSystem.Action) : Decidable (Undisturbed s a) := by
  unfold Undisturbed
  split
  · infer_instance
  · split <;> infer_instance
  · infer_instance

/-! ### The invariant -/

namespace OrgStore

/-- A run that stays: it is enqueued, or a delivery was answered because of it. -/
def Kept (st : OrgStore) (run : WorkflowRunRow) : Prop :=
  run ∈ st.runs ∧ (run ∈ st.jobs ∨ ∃ conflict ∈ st.conflicts, conflict.2 = run)

end OrgStore

/-- What a redelivery has read leaves room for a run. -/
structure Roomy (subscription : OrganizationSubscription) (v : RequestView) : Prop where
  found : v.found = true
  stage : v.stage = .before ∨ v.stage = .conflicted
  active : ∀ known ∈ v.subscription, known = subscription ∧ known.canceled = false
  used : ∀ used ∈ v.monthlyUsed, reached subscription.effective.monthlyRunLimit used = false
  inFlight : ∀ count ∈ v.inFlightRuns,
    reached subscription.effective.inflightRunLimit count = false

/-- What holds of the run a handler is busy with. -/
def StageFits (st : OrgStore) (source : RunSource) : RunStage → Prop
  | .before | .deleted => True
  | .conflicted => ∃ conflict ∈ st.conflicts, conflict.1 = source
  | .inserted run => run ∈ st.runs ∧ run ∉ st.jobs ∧ run ∉ st.failed ∧ run.source = source
  | .enqueued run | .recorded run | .unrecorded run => run ∈ st.jobs ∧ run.source = source
  | .failed run => run ∈ st.failed

structure Knows (st : OrgStore) (q : Request × RequestView) : Prop where
  request : q.2.request = q.1
  launched : q.1.source ∈ st.launched
  stage : StageFits st q.1.source q.2.stage
  redelivery : q.1.redelivery = true →
    Roomy st.subscription q.2 ∧ q.1.source.isWebhook = true ∧
      ∃ run, st.Kept run ∧ run.source = q.1.source

structure RowsInv (st : OrgStore) : Prop where
  ids : ∀ run ∈ st.runs, run.id < st.nextId
  different : (st.runs.map (·.id)).Nodup
  keys : st.runs.Pairwise fun a b =>
    a.source.triggerKey.isSome = true → a.source.triggerKey ≠ b.source.triggerKey
  sources : ∀ run ∈ st.runs, run.source ∈ st.launched
  apart : ∀ source ∈ st.launched, KeysApart st.launched source
  conflicts : ∀ conflict ∈ st.conflicts,
    conflict.2 ∈ st.runs ∧ conflict.2 ∉ st.failed ∧ conflict.2.source = conflict.1
  jobs : ∀ run ∈ st.jobs, run ∈ st.runs ∧ run ∉ st.failed
  failed : ∀ run ∈ st.failed,
    run.id < st.nextId ∧ ∀ other ∈ st.runs, other.id = run.id → other = run
  accepted : ∀ answered ∈ st.answers, answered.2.isAccepted = true →
    ∃ run, st.Kept run ∧ run.source = answered.1.source
  redelivered : ∀ answered ∈ st.answers, answered.1.redelivery = true → answered.2 = .duplicate

/-- A handler has inserted `run` and not enqueued it. -/
def Holding (run : WorkflowRunRow) (q : Request × RequestView) : Prop := q.2.stage = .inserted run

structure DeliveryInv (st : OrgStore) (crew : Nat → Option (Request × RequestView)) : Prop where
  rows : RowsInv st
  knows : ∀ id q, crew id = some q → Knows st q
  alone : ∀ i j q r run, crew i = some q → crew j = some r → Holding run q → Holding run r → i = j
  placed : ∀ run ∈ st.runs, run ∈ st.jobs ∨ run ∈ st.failed ∨
    ∃ id q, crew id = some q ∧ Holding run q

/-! ### What other steps leave of it -/

/-- The store has changed at most by more records, and no run that stays is gone. -/
structure Grows (st st' : OrgStore) : Prop where
  subscription : st'.subscription = st.subscription
  launched : ∀ source ∈ st.launched, source ∈ st'.launched
  jobs : ∀ run ∈ st.jobs, run ∈ st'.jobs
  failed : ∀ run ∈ st.failed, run ∈ st'.failed
  conflicts : ∀ conflict ∈ st.conflicts, conflict ∈ st'.conflicts
  kept : ∀ run, st.Kept run → run ∈ st'.runs

section step
variable {st st' : OrgStore} {crew : Nat → Option (Request × RequestView)} {id : Nat}
  {request : Request} {v v' : RequestView} {q : Request × RequestView}

theorem Grows.kept_kept (grows : Grows st st') {run : WorkflowRunRow} (kept : st.Kept run) :
    st'.Kept run := by
  refine ⟨grows.kept run kept, ?_⟩
  rcases kept.2 with job | ⟨conflict, mem, is⟩
  · exact .inl (grows.jobs run job)
  · exact .inr ⟨conflict, grows.conflicts conflict mem, is⟩

theorem Knows.mono (knows : Knows st q) (grows : Grows st st')
    (holds : ∀ run, Holding run q → run ∈ st'.runs ∧ run ∉ st'.jobs ∧ run ∉ st'.failed) :
    Knows st' q where
  request := knows.request
  launched := grows.launched _ knows.launched
  stage := by
    have fits := knows.stage
    cases stage : q.2.stage with
    | before => trivial
    | deleted => trivial
    | conflicted =>
      rw [stage] at fits
      obtain ⟨conflict, mem, same⟩ := fits
      exact ⟨conflict, grows.conflicts conflict mem, same⟩
    | inserted run =>
      rw [stage] at fits
      obtain ⟨there, notJob, notFailed⟩ := holds run stage
      exact ⟨there, notJob, notFailed, fits.2.2.2⟩
    | enqueued run =>
      rw [stage] at fits
      exact ⟨grows.jobs run fits.1, fits.2⟩
    | recorded run =>
      rw [stage] at fits
      exact ⟨grows.jobs run fits.1, fits.2⟩
    | unrecorded run =>
      rw [stage] at fits
      exact ⟨grows.jobs run fits.1, fits.2⟩
    | failed run =>
      rw [stage] at fits
      exact grows.failed run fits
  redelivery again := by
    obtain ⟨room, webhook, run, kept, same⟩ := knows.redelivery again
    rw [grows.subscription]
    exact ⟨room, webhook, run, grows.kept_kept kept, same⟩

/-- The rows with the records of a step that leaves the table as it is. -/
structure SameRows (st st' : OrgStore) : Prop where
  subscription : st'.subscription = st.subscription
  nextId : st'.nextId = st.nextId
  runs : st'.runs = st.runs
  jobs : st'.jobs = st.jobs
  failed : st'.failed = st.failed
  launched : st'.launched = st.launched
  conflicts : st'.conflicts = st.conflicts
  answers : st'.answers = st.answers

theorem SameRows.refl (st : OrgStore) : SameRows st st := ⟨rfl, rfl, rfl, rfl, rfl, rfl, rfl, rfl⟩

theorem SameRows.grows (same : SameRows st st') : Grows st st' where
  subscription := same.subscription
  launched _ mem := same.launched ▸ mem
  jobs _ mem := same.jobs ▸ mem
  failed _ mem := same.failed ▸ mem
  conflicts _ mem := same.conflicts ▸ mem
  kept _ kept := same.runs ▸ kept.1

theorem SameRows.rows (same : SameRows st st') (inv : RowsInv st) : RowsInv st' where
  ids run mem := same.nextId ▸ inv.ids run (same.runs ▸ mem)
  different := same.runs ▸ inv.different
  keys := same.runs ▸ inv.keys
  sources run mem := same.launched ▸ inv.sources run (same.runs ▸ mem)
  apart source mem := by
    rw [same.launched] at mem ⊢
    exact inv.apart source mem
  conflicts conflict mem := by
    rw [same.conflicts] at mem
    rw [same.runs, same.failed]
    exact inv.conflicts conflict mem
  jobs run mem := by
    rw [same.jobs] at mem
    rw [same.runs, same.failed]
    exact inv.jobs run mem
  failed run mem := by
    rw [same.failed] at mem
    rw [same.nextId, same.runs]
    exact inv.failed run mem
  accepted answered mem ok := by
    rw [same.answers] at mem
    obtain ⟨run, kept, is⟩ := inv.accepted answered mem ok
    exact ⟨run, same.grows.kept_kept kept, is⟩
  redelivered answered mem := by
    rw [same.answers] at mem
    exact inv.redelivered answered mem

/-- A handler that holds as much as before goes on; the others see the store grow. -/
theorem deliveryInv_update (inv : DeliveryInv st crew) (rows : RowsInv st') (grows : Grows st st')
    {new : Option (Request × RequestView)} (fits : ∀ q, new = some q → Knows st' q)
    (others : ∀ i q run, i ≠ id → crew i = some q → Holding run q →
      run ∈ st'.runs ∧ run ∉ st'.jobs ∧ run ∉ st'.failed)
    (alone : ∀ q run, new = some q → Holding run q →
      ∀ i r, i ≠ id → crew i = some r → ¬ Holding run r)
    (placed : ∀ run ∈ st'.runs, run ∈ st'.jobs ∨ run ∈ st'.failed ∨
      ∃ i q, Function.update crew id new i = some q ∧ Holding run q) :
    DeliveryInv st' (Function.update crew id new) where
  rows := rows
  knows i q there := by
    by_cases same : i = id
    · subst same
      exact fits q (by simpa using there)
    · rw [Function.update_of_ne same] at there
      exact (inv.knows i q there).mono grows fun run holding => others i q run same there holding
  alone i j q r run here there first second := by
    by_cases sameI : i = id
    · by_cases sameJ : j = id
      · exact sameI.trans sameJ.symm
      · subst sameI
        rw [Function.update_of_ne sameJ] at there
        exact absurd second (alone q run (by simpa using here) first j r sameJ there)
    · rw [Function.update_of_ne sameI] at here
      by_cases sameJ : j = id
      · subst sameJ
        exact absurd first (alone r run (by simpa using there) second i q sameI here)
      · rw [Function.update_of_ne sameJ] at there
        exact inv.alone i j q r run here there first second
  placed := placed

/-- A run that a handler holds is neither enqueued nor failed. -/
theorem DeliveryInv.held (inv : DeliveryInv st crew) {i : Nat} {q : Request × RequestView}
    {run : WorkflowRunRow} (there : crew i = some q) (holding : Holding run q) :
    run ∈ st.runs ∧ run ∉ st.jobs ∧ run ∉ st.failed := by
  have fits := (inv.knows i q there).stage
  rw [show q.2.stage = .inserted run from holding] at fits
  exact ⟨fits.1, fits.2.1, fits.2.2.1⟩

/-- Where a run is when the handler `id`, which does not hold it, goes on. -/
theorem DeliveryInv.placed_beside (inv : DeliveryInv st crew) {run : WorkflowRunRow}
    (mem : run ∈ st.runs) (free : ∀ q, crew id = some q → ¬ Holding run q)
    (new : Option (Request × RequestView)) :
    run ∈ st.jobs ∨ run ∈ st.failed ∨
      ∃ i q, Function.update crew id new i = some q ∧ Holding run q := by
  rcases inv.placed run mem with job | failed | ⟨i, q, there, holding⟩
  · exact .inl job
  · exact .inr (.inl failed)
  · refine .inr (.inr ⟨i, q, ?_, holding⟩)
    rw [Function.update_of_ne]
    · exact there
    · rintro rfl
      exact free q there holding

/-- The handlers other than `id` that hold a run, where the store keeps the rows. -/
theorem others_of_same (inv : DeliveryInv st crew) (same : SameRows st st') :
    ∀ i q run, i ≠ id → crew i = some q → Holding run q →
      run ∈ st'.runs ∧ run ∉ st'.jobs ∧ run ∉ st'.failed := by
  intro i q run _ there holding
  rw [same.runs, same.jobs, same.failed]
  exact inv.held there holding

/-- A handler that holds no run before and after a step that keeps the rows. -/
theorem deliveryInv_quiet (inv : DeliveryInv st crew) (same : SameRows st st')
    (had : ∀ q run, crew id = some q → ¬ Holding run q) {new : Option (Request × RequestView)}
    (fits : ∀ q, new = some q → Knows st' q) (still : ∀ q run, new = some q → ¬ Holding run q) :
    DeliveryInv st' (Function.update crew id new) := by
  refine deliveryInv_update inv (same.rows inv.rows) same.grows fits (others_of_same inv same)
    (fun q run is holding => absurd holding (still q run is)) fun run mem => ?_
  rw [same.runs] at mem
  rw [same.jobs, same.failed]
  exact inv.placed_beside mem (fun q there => had q run there) new

/-- A step that leaves the rows and the handler's stage as they are. -/
theorem deliveryInv_read (inv : DeliveryInv st crew) (here : crew id = some (request, v))
    (stage : v'.stage = v.stage) (fits : Knows st (request, v')) :
    DeliveryInv st (Function.update crew id (some (request, v'))) := by
  have still (run : WorkflowRunRow) :
      Holding run (request, v') ↔ Holding run (request, v) := by
    unfold Holding
    rw [stage]
  refine deliveryInv_update inv inv.rows (SameRows.refl st).grows (by rintro q ⟨⟩; exact fits)
    (others_of_same inv (.refl st)) ?_ fun run mem => ?_
  · rintro q run ⟨⟩ holding i r other there second
    exact other (inv.alone i id r _ run there here second ((still run).mp holding))
  · rcases inv.placed run mem with job | failed | ⟨i, q, there, holding⟩
    · exact .inl job
    · exact .inr (.inl failed)
    · refine .inr (.inr ?_)
      by_cases same : i = id
      · subst same
        cases here.symm.trans there
        exact ⟨i, _, Function.update_self .., (still run).mpr holding⟩
      · exact ⟨i, q, by rwa [Function.update_of_ne same], holding⟩

theorem not_holding {other : RunStage} (here : crew id = some (request, v))
    (stage : v.stage = other)
    (free : ∀ run, other ≠ .inserted run) :
    ∀ q run, crew id = some q → ¬ Holding run q := by
  intro q run there holding
  cases here.symm.trans there
  exact free run (stage.symm.trans holding)

/-! ### Inserts -/

theorem holder_spec {source : RunSource} {row : WorkflowRunRow}
    (hit : st.holder source = some row) :
    row ∈ st.runs ∧ row.source.triggerKey.isSome = true ∧
      row.source.triggerKey = source.triggerKey := by
  have found := List.find?_some hit
  simp only [Bool.and_eq_true, decide_eq_true_eq] at found
  exact ⟨List.mem_of_find?_eq_some hit, found⟩

theorem holder_none {source : RunSource} (free : st.holder source = none) {row : WorkflowRunRow}
    (mem : row ∈ st.runs) (keyed : row.source.triggerKey.isSome = true) :
    row.source.triggerKey ≠ source.triggerKey := by
  intro same
  have none := List.find?_eq_none.mp free row mem
  rw [same] at keyed
  simp [same, Option.isSome_iff_ne_none.mp keyed] at none

theorem grows_hit {source : RunSource} {row : WorkflowRunRow} : Grows st (st.hit source row) where
  subscription := rfl
  launched _ mem := mem
  jobs _ mem := mem
  failed _ mem := mem
  conflicts _ mem := List.mem_cons_of_mem _ mem
  kept _ kept := kept.1

/-- A row that is hit has the source of the delivery. -/
theorem source_of_hit (inv : RowsInv st) {source : RunSource} {row : WorkflowRunRow}
    (hit : st.holder source = some row) (launched : source ∈ st.launched) :
    row.source = source := by
  obtain ⟨mem, keyed, same⟩ := holder_spec hit
  exact inv.apart source launched row.source (inv.sources row mem) (same ▸ keyed) same

theorem deliveryInv_hit (inv : DeliveryInv st crew) (here : crew id = some (request, v))
    (before : v.stage = .before) {row : WorkflowRunRow} (hit : st.holder request.source = some row)
    (sound : row ∉ st.failed) :
    DeliveryInv (st.hit request.source row)
      (Function.update crew id (some (request, { v with stage := .conflicted }))) := by
  have knows := inv.knows id _ here
  have same := source_of_hit inv.rows hit knows.launched
  have rows : RowsInv (st.hit request.source row) :=
    { inv.rows with
      conflicts := by
        intro conflict mem
        rcases List.mem_cons.mp mem with rfl | older
        · exact ⟨(holder_spec hit).1, sound, same⟩
        · exact inv.rows.conflicts conflict older
      accepted := by
        intro answered mem ok
        obtain ⟨run, kept, is⟩ := inv.rows.accepted answered mem ok
        exact ⟨run, grows_hit.kept_kept kept, is⟩ }
  refine deliveryInv_update inv rows grows_hit ?_ ?_ ?_ fun run mem => ?_
  · rintro q ⟨⟩
    refine ⟨knows.request, knows.launched, ⟨_, List.mem_cons_self, rfl⟩, fun again => ?_⟩
    obtain ⟨room, webhook, run, kept, is⟩ := knows.redelivery again
    exact ⟨⟨room.found, .inr rfl, room.active, room.used, room.inFlight⟩, webhook, run,
      grows_hit.kept_kept kept, is⟩
  · exact fun i q run _ there holding => inv.held there holding
  · rintro q run ⟨⟩ holding
    cases holding
  · exact inv.placed_beside mem (fun q there => not_holding here before (by simp) q run there) _

theorem grows_insert {source : RunSource} : Grows st (st.insert source) where
  subscription := rfl
  launched _ mem := mem
  jobs _ mem := mem
  failed _ mem := mem
  conflicts _ mem := mem
  kept _ kept := List.mem_cons_of_mem _ kept.1

theorem rowsInv_insert (inv : RowsInv st) {source : RunSource} (free : st.holder source = none)
    (launched : source ∈ st.launched) : RowsInv (st.insert source) where
  ids run mem := by
    rcases List.mem_cons.mp mem with rfl | older
    · exact Nat.lt_succ_self _
    · exact Nat.lt_succ_of_lt (inv.ids run older)
  different := by
    refine List.nodup_cons.mpr ⟨fun mem => ?_, inv.different⟩
    obtain ⟨run, there, same⟩ := List.mem_map.mp mem
    exact absurd same (Nat.ne_of_lt (inv.ids run there))
  keys := by
    refine List.pairwise_cons.mpr ⟨fun run mem keyed same => ?_, inv.keys⟩
    exact holder_none free mem (same ▸ keyed) same.symm
  sources run mem := by
    rcases List.mem_cons.mp mem with rfl | older
    · exact launched
    · exact inv.sources run older
  apart := inv.apart
  conflicts conflict mem := by
    obtain ⟨there, sound, same⟩ := inv.conflicts conflict mem
    exact ⟨List.mem_cons_of_mem _ there, sound, same⟩
  jobs run mem := by
    obtain ⟨there, sound⟩ := inv.jobs run mem
    exact ⟨List.mem_cons_of_mem _ there, sound⟩
  failed run mem := by
    obtain ⟨small, only⟩ := inv.failed run mem
    refine ⟨Nat.lt_succ_of_lt small, fun other there same => ?_⟩
    rcases List.mem_cons.mp there with rfl | older
    · exact absurd same.symm (Nat.ne_of_lt small)
    · exact only other older same
  accepted answered mem ok := by
    obtain ⟨run, kept, is⟩ := inv.accepted answered mem ok
    exact ⟨run, grows_insert.kept_kept kept, is⟩
  redelivered := inv.redelivered

/-- The new row is nobody's yet. -/
theorem newRow_notMem (inv : RowsInv st) (source : RunSource) : st.newRow source ∉ st.runs :=
  fun mem => absurd rfl (Nat.ne_of_lt (inv.ids _ mem))

theorem deliveryInv_insert (inv : DeliveryInv st crew) (here : crew id = some (request, v))
    (before : v.stage = .before) (free : st.holder request.source = none)
    (firstTime : request.redelivery = false) :
    DeliveryInv (st.insert request.source) (Function.update crew id
      (some (request, { v with stage := .inserted (st.newRow request.source) }))) := by
  have knows := inv.knows id _ here
  have fresh := newRow_notMem inv.rows request.source
  refine deliveryInv_update inv (rowsInv_insert inv.rows free knows.launched) grows_insert ?_ ?_ ?_
    fun run mem => ?_
  · rintro q ⟨⟩
    refine ⟨knows.request, knows.launched, ⟨List.mem_cons_self, ?_, ?_, rfl⟩, fun again => ?_⟩
    · exact fun job => fresh (inv.rows.jobs _ job).1
    · exact fun failed => absurd rfl (Nat.ne_of_lt (inv.rows.failed _ failed).1)
    · rw [firstTime] at again
      cases again
  · intro i q run _ there holding
    obtain ⟨mem, idle⟩ := inv.held there holding
    exact ⟨List.mem_cons_of_mem _ mem, idle⟩
  · rintro q run ⟨⟩ holding i r other there second
    cases holding
    exact fresh (inv.held there second).1
  · rcases List.mem_cons.mp mem with rfl | older
    · exact .inr (.inr ⟨id, _, Function.update_self .., rfl⟩)
    · exact inv.placed_beside older
        (fun q there => not_holding here before (by simp) q run there) _

/-! ### Enqueues and deletes -/

theorem grows_enqueue {run : WorkflowRunRow} : Grows st (st.enqueue run) where
  subscription := rfl
  launched _ mem := mem
  jobs _ mem := List.mem_cons_of_mem _ mem
  failed _ mem := mem
  conflicts _ mem := mem
  kept _ kept := kept.1

/-- The other handlers hold other runs. -/
theorem others_apart (inv : DeliveryInv st crew) (here : crew id = some (request, v))
    {run : WorkflowRunRow} (stage : v.stage = .inserted run) :
    ∀ i q other, i ≠ id → crew i = some q → Holding other q →
      other ≠ run ∧ other ∈ st.runs ∧ other ∉ st.jobs ∧ other ∉ st.failed := by
  intro i q other different there holding
  refine ⟨?_, inv.held there holding⟩
  rintro rfl
  exact different (inv.alone i id q _ other there here holding stage)

/-- A run that was held is enqueued or has failed, and the others are where they were. -/
theorem placed_release (inv : DeliveryInv st crew) (here : crew id = some (request, v))
    {run : WorkflowRunRow} (stage : v.stage = .inserted run)
    {new : Option (Request × RequestView)} (other : WorkflowRunRow) (mem : other ∈ st.runs) :
    other = run ∨ other ∈ st.jobs ∨ other ∈ st.failed ∨
      ∃ i q, Function.update crew id new i = some q ∧ Holding other q := by
  rcases inv.placed other mem with job | failed | ⟨i, q, there, holding⟩
  · exact .inr (.inl job)
  · exact .inr (.inr (.inl failed))
  · by_cases same : i = id
    · subst same
      cases here.symm.trans there
      cases stage.symm.trans holding
      exact .inl rfl
    · exact .inr (.inr (.inr ⟨i, q, by rwa [Function.update_of_ne same], holding⟩))

theorem deliveryInv_enqueue (inv : DeliveryInv st crew) (here : crew id = some (request, v))
    {run : WorkflowRunRow} (stage : v.stage = .inserted run) :
    DeliveryInv (st.enqueue run)
      (Function.update crew id (some (request, { v with stage := .enqueued run }))) := by
  have knows := inv.knows id _ here
  have fits := knows.stage
  rw [show (request, v).2.stage = .inserted run from stage] at fits
  have rows : RowsInv (st.enqueue run) :=
    { inv.rows with
      jobs := by
        intro job mem
        rcases List.mem_cons.mp mem with rfl | older
        · exact ⟨fits.1, fits.2.2.1⟩
        · exact inv.rows.jobs job older
      accepted := by
        intro answered mem ok
        obtain ⟨kept, stays, is⟩ := inv.rows.accepted answered mem ok
        exact ⟨kept, grows_enqueue.kept_kept stays, is⟩ }
  refine deliveryInv_update inv rows grows_enqueue ?_ ?_ ?_ fun other mem => ?_
  · rintro q ⟨⟩
    refine ⟨knows.request, knows.launched, ⟨List.mem_cons_self, fits.2.2.2⟩, fun again => ?_⟩
    rcases (knows.redelivery again).1.stage with same | same
    · exact absurd (stage.symm.trans same) (by simp)
    · exact absurd (stage.symm.trans same) (by simp)
  · intro i q other different there holding
    obtain ⟨apart, inRuns, notJob, notFailed⟩ := others_apart inv here stage i q other different
      there holding
    exact ⟨inRuns, by simp [OrgStore.enqueue, apart, notJob], notFailed⟩
  · rintro q other ⟨⟩ holding
    cases holding
  · rcases placed_release inv here stage other mem with rfl | job | failed | held
    · exact .inl List.mem_cons_self
    · exact .inl (List.mem_cons_of_mem _ job)
    · exact .inr (.inl failed)
    · exact .inr (.inr held)

theorem grows_fail {run : WorkflowRunRow} : Grows st (st.fail run) where
  subscription := rfl
  launched _ mem := mem
  jobs _ mem := mem
  failed _ mem := List.mem_cons_of_mem _ mem
  conflicts _ mem := mem
  kept _ kept := kept.1

theorem deliveryInv_fail (inv : DeliveryInv st crew) (here : crew id = some (request, v))
    {run : WorkflowRunRow} (stage : v.stage = .inserted run)
    (unhit : ∀ conflict ∈ st.conflicts, conflict.2 ≠ run) :
    DeliveryInv (st.fail run)
      (Function.update crew id (some (request, { v with stage := .failed run }))) := by
  have knows := inv.knows id _ here
  have fits := knows.stage
  rw [show (request, v).2.stage = .inserted run from stage] at fits
  have rows : RowsInv (st.fail run) :=
    { inv.rows with
      conflicts := by
        intro conflict mem
        obtain ⟨there, sound, same⟩ := inv.rows.conflicts conflict mem
        exact ⟨there, by simp [OrgStore.fail, unhit conflict mem, sound], same⟩
      jobs := by
        intro job mem
        obtain ⟨there, sound⟩ := inv.rows.jobs job mem
        have apart : job ≠ run := by
          rintro rfl
          exact fits.2.1 mem
        exact ⟨there, by simp [OrgStore.fail, apart, sound]⟩
      failed := by
        intro failed mem
        rcases List.mem_cons.mp mem with rfl | older
        · exact ⟨inv.rows.ids _ fits.1, fun other there same =>
            List.inj_on_of_nodup_map inv.rows.different there fits.1 same⟩
        · exact inv.rows.failed failed older
      accepted := by
        intro answered mem ok
        obtain ⟨kept, stays, is⟩ := inv.rows.accepted answered mem ok
        exact ⟨kept, grows_fail.kept_kept stays, is⟩ }
  refine deliveryInv_update inv rows grows_fail ?_ ?_ ?_ fun other mem => ?_
  · rintro q ⟨⟩
    refine ⟨knows.request, knows.launched, List.mem_cons_self, fun again => ?_⟩
    rcases (knows.redelivery again).1.stage with same | same
    · exact absurd (stage.symm.trans same) (by simp)
    · exact absurd (stage.symm.trans same) (by simp)
  · intro i q other different there holding
    obtain ⟨apart, inRuns, notJob, notFailed⟩ := others_apart inv here stage i q other different
      there holding
    exact ⟨inRuns, notJob, by simp [OrgStore.fail, apart, notFailed]⟩
  · rintro q other ⟨⟩ holding
    cases holding
  · rcases placed_release inv here stage other mem with rfl | job | failed | held
    · exact .inr (.inl List.mem_cons_self)
    · exact .inl job
    · exact .inr (.inl (List.mem_cons_of_mem _ failed))
    · exact .inr (.inr held)

/-- Only a row whose enqueue has failed is deleted. -/
theorem mem_delete {run other : WorkflowRunRow} (inv : RowsInv st) (failed : run ∈ st.failed)
    (mem : other ∈ st.runs) (sound : other ∉ st.failed) : other ∈ (st.delete run).runs := by
  unfold OrgStore.delete
  split
  · refine List.mem_filter.mpr ⟨mem, ?_⟩
    have apart : other.id ≠ run.id := by
      intro same
      rw [(inv.failed run failed).2 other mem same] at sound
      exact sound failed
    simpa using apart
  · exact mem

theorem delete_subset {run other : WorkflowRunRow} (mem : other ∈ (st.delete run).runs) :
    other ∈ st.runs := by
  unfold OrgStore.delete at mem
  split at mem
  · exact (List.mem_filter.mp mem).1
  · exact mem

/-- What a delete leaves alone. -/
theorem delete_rest (st : OrgStore) (run : WorkflowRunRow) :
    (st.delete run).subscription = st.subscription ∧ (st.delete run).nextId = st.nextId ∧
      (st.delete run).jobs = st.jobs ∧ (st.delete run).failed = st.failed ∧
      (st.delete run).launched = st.launched ∧ (st.delete run).conflicts = st.conflicts ∧
      (st.delete run).answers = st.answers ∧ (st.delete run).runs.Sublist st.runs := by
  unfold OrgStore.delete
  split
  · exact ⟨rfl, rfl, rfl, rfl, rfl, rfl, rfl, List.filter_sublist⟩
  · exact ⟨rfl, rfl, rfl, rfl, rfl, rfl, rfl, List.Sublist.refl _⟩

/-- A run that stays has not failed. -/
theorem sound_of_kept (inv : RowsInv st) {run : WorkflowRunRow} (kept : st.Kept run) :
    run ∉ st.failed := by
  rcases kept.2 with job | ⟨conflict, mem, rfl⟩
  · exact (inv.jobs run job).2
  · exact (inv.conflicts conflict mem).2.1

theorem grows_delete {run : WorkflowRunRow} (inv : RowsInv st) (failed : run ∈ st.failed) :
    Grows st (st.delete run) := by
  obtain ⟨subscription, -, jobs, failures, launched, conflicts, -, -⟩ := delete_rest st run
  refine ⟨subscription, fun _ mem => launched ▸ mem, fun _ mem => jobs ▸ mem,
    fun _ mem => failures ▸ mem, fun _ mem => conflicts ▸ mem, fun kept stays => ?_⟩
  exact mem_delete inv failed stays.1 (sound_of_kept inv stays)

theorem rowsInv_delete {run : WorkflowRunRow} (inv : RowsInv st) (failed : run ∈ st.failed) :
    RowsInv (st.delete run) := by
  have grows := grows_delete inv failed
  obtain ⟨-, nextId, jobs, failures, launched, conflicts, answers, fewer⟩ := delete_rest st run
  refine ⟨fun other mem => ?_, inv.different.sublist (fewer.map _), inv.keys.sublist fewer,
    fun other mem => ?_, fun source mem => ?_, fun conflict mem => ?_, fun job mem => ?_,
    fun other mem => ?_, fun answered mem ok => ?_, fun answered mem => ?_⟩
  · rw [nextId]
    exact inv.ids other (delete_subset mem)
  · rw [launched]
    exact inv.sources other (delete_subset mem)
  · rw [launched] at mem ⊢
    exact inv.apart source mem
  · rw [conflicts] at mem
    obtain ⟨there, sound, same⟩ := inv.conflicts conflict mem
    rw [failures]
    exact ⟨mem_delete inv failed there sound, sound, same⟩
  · rw [jobs] at mem
    obtain ⟨there, sound⟩ := inv.jobs job mem
    rw [failures]
    exact ⟨mem_delete inv failed there sound, sound⟩
  · rw [failures] at mem
    obtain ⟨small, only⟩ := inv.failed other mem
    rw [nextId]
    exact ⟨small, fun row there => only row (delete_subset there)⟩
  · rw [answers] at mem
    obtain ⟨kept, stays, is⟩ := inv.accepted answered mem ok
    exact ⟨kept, grows.kept_kept stays, is⟩
  · rw [answers] at mem
    exact inv.redelivered answered mem

theorem deliveryInv_delete (inv : DeliveryInv st crew) (here : crew id = some (request, v))
    {run : WorkflowRunRow} (stage : v.stage = .failed run) :
    DeliveryInv (st.delete run)
      (Function.update crew id (some (request, { v with stage := .deleted }))) := by
  have knows := inv.knows id _ here
  have failed := knows.stage
  rw [show (request, v).2.stage = .failed run from stage] at failed
  have grows := grows_delete inv.rows failed
  obtain ⟨-, -, jobs, failures, -, -, -, -⟩ := delete_rest st run
  refine deliveryInv_update inv (rowsInv_delete inv.rows failed) grows ?_ ?_ ?_ fun other mem => ?_
  · rintro q ⟨⟩
    refine ⟨knows.request, grows.launched _ knows.launched, trivial, fun again => ?_⟩
    rcases (knows.redelivery again).1.stage with same | same
    · exact absurd (stage.symm.trans same) (by simp)
    · exact absurd (stage.symm.trans same) (by simp)
  · intro i q other _ there holding
    obtain ⟨mem, idle, sound⟩ := inv.held there holding
    rw [jobs, failures]
    exact ⟨mem_delete inv.rows failed mem sound, idle, sound⟩
  · rintro q other ⟨⟩ holding
    cases holding
  · rw [jobs, failures]
    exact inv.placed_beside (delete_subset mem)
      (fun q there => not_holding here stage (by simp) q other there) _

/-! ### Requests and answers -/

/-- A read leaves what is known of the run; a redelivery has to keep room. -/
theorem Knows.read (knows : Knows st (request, v)) (request_eq : v'.request = v.request)
    (stage : v'.stage = v.stage)
    (room : request.redelivery = true → Roomy st.subscription v → Roomy st.subscription v') :
    Knows st (request, v') where
  request := request_eq.trans knows.request
  launched := knows.launched
  stage := by
    show StageFits st request.source v'.stage
    rw [stage]
    exact knows.stage
  redelivery again := by
    obtain ⟨roomy, rest⟩ := knows.redelivery again
    exact ⟨room again roomy, rest⟩

theorem deliveryInv_call {op : RunOp} {reply : op.Reply} {ok : Bool} {s : runSystem.State}
    (inv : DeliveryInv s.store crew) (here : crew id = some (request, v))
    (permitted : runProtocol.permits v op)
    (performed : performRun s.store ok op = some (reply, st'))
    (issues : runCertified.issued s (.call id ok) = some (v, op))
    (undisturbed : Undisturbed s (.call id ok)) :
    DeliveryInv st' (Function.update crew id (some (request, runProtocol.observe v op reply))) := by
  have knows := inv.knows id _ here
  obtain rfl : v.request = request := knows.request
  unfold Undisturbed at undisturbed
  simp only [issues] at undisturbed
  cases op with
  | getTarget =>
    cases performed
    refine deliveryInv_read inv here rfl (knows.read rfl rfl fun again room => ?_)
    exact ⟨undisturbed again, room.stage, room.active, room.used, room.inFlight⟩
  | currentUsageMonth | usageFirst =>
    cases performed
    refine deliveryInv_read inv here rfl (knows.read rfl rfl fun _ room => ?_)
    exact ⟨room.found, room.stage, room.active, room.used, room.inFlight⟩
  | getOrganizationSubscription =>
    cases performed
    refine deliveryInv_read inv here rfl (knows.read rfl rfl fun again room => ?_)
    refine ⟨room.found, room.stage, ?_, room.used, room.inFlight⟩
    rintro known ⟨⟩
    exact ⟨rfl, undisturbed again⟩
  | getOrganizationRunUsageMonthly month =>
    cases performed
    refine deliveryInv_read inv here rfl (knows.read rfl rfl fun again room => ?_)
    refine ⟨room.found, room.stage, room.active, ?_, room.inFlight⟩
    rintro used ⟨⟩
    exact undisturbed again
  | countWorkflowRunsByStatuses =>
    cases performed
    refine deliveryInv_read inv here rfl (knows.read rfl rfl fun again room => ?_)
    refine ⟨room.found, room.stage, room.active, room.used, ?_⟩
    rintro count ⟨⟩
    exact undisturbed again
  | createWorkflowRun source =>
    obtain ⟨rfl, before, -⟩ := permitted
    simp only [performRun] at performed
    split at performed
    · next row hit =>
      cases performed
      exact deliveryInv_hit inv here before hit (undisturbed row hit)
    · next free =>
      cases performed
      refine deliveryInv_insert inv here before free ?_
      by_contra again
      obtain ⟨-, webhook, run, kept, same⟩ := knows.redelivery (by simpa using again)
      refine holder_none free kept.1 ?_ (by rw [same])
      rw [same]
      cases source : v.request.source <;> simp_all [RunSource.isWebhook, RunSource.triggerKey]
  | enqueueWorkflowRun run =>
    have stage : v.stage = .inserted run := permitted
    simp only [performRun] at performed
    split at performed
    · cases performed
      exact deliveryInv_enqueue inv here stage
    · next failed =>
      cases performed
      exact deliveryInv_fail inv here stage (undisturbed (by simpa using failed))
  | deleteQueuedWorkflowRun run =>
    cases performed
    exact deliveryInv_delete inv here permitted
  | incrementOrganizationRunUsageMonthly month run =>
    have stage : v.stage = .enqueued run := permitted
    have fits := knows.stage
    rw [show (v.request, v).2.stage = .enqueued run from stage] at fits
    have unroomy (again : v.request.redelivery = true) : False := by
      rcases (knows.redelivery again).1.stage with same | same
      · exact absurd (stage.symm.trans same) (by simp)
      · exact absurd (stage.symm.trans same) (by simp)
    have same : SameRows s.store st' := by
      simp only [performRun] at performed
      split at performed <;> cases performed <;> exact ⟨rfl, rfl, rfl, rfl, rfl, rfl, rfl, rfl⟩
    refine deliveryInv_quiet inv same (not_holding here stage (by simp)) ?_ ?_
    · rintro q ⟨⟩
      refine ⟨?_, same.launched ▸ knows.launched, ?_, fun again => (unroomy again).elim⟩
      · cases reply <;> exact knows.request
      · cases reply <;> exact ⟨same.jobs ▸ fits.1, fits.2⟩
    · rintro q other ⟨⟩ holding
      cases reply <;> cases holding

theorem grows_launch (request : Request) :
    Grows st { st with launched := request.source :: st.launched } where
  subscription := rfl
  launched _ mem := List.mem_cons_of_mem _ mem
  jobs _ mem := mem
  failed _ mem := mem
  conflicts _ mem := mem
  kept _ kept := kept.1

theorem rowsInv_launch (inv : RowsInv st) (apart : KeysApart st.launched request.source) :
    RowsInv { st with launched := request.source :: st.launched } :=
  { inv with
    sources := fun run mem => List.mem_cons_of_mem _ (inv.sources run mem)
    apart := by
      intro source mem other there keyed same
      rcases List.mem_cons.mp mem with rfl | older
      · rcases List.mem_cons.mp there with rfl | olderToo
        · rfl
        · exact apart other olderToo keyed same
      · rcases List.mem_cons.mp there with rfl | olderToo
        · exact (apart source older (same ▸ keyed) same.symm).symm
        · exact inv.apart source older other olderToo keyed same
    accepted := by
      intro answered mem ok
      obtain ⟨run, kept, is⟩ := inv.accepted answered mem ok
      exact ⟨run, (grows_launch request).kept_kept kept, is⟩ }

/-- A delivery whose key was accepted before has a run that stays. -/
theorem kept_of_acceptedBefore (inv : RowsInv st) {source : RunSource}
    (before : st.acceptedBefore source = true) :
    source.isWebhook = true ∧ ∃ run, st.Kept run ∧ run.source = source := by
  simp only [OrgStore.acceptedBefore, Bool.and_eq_true, List.any_eq_true,
    decide_eq_true_eq] at before
  obtain ⟨webhook, answered, mem, same, ok⟩ := before
  obtain ⟨run, kept, is⟩ := inv.accepted answered mem ok
  exact ⟨webhook, run, kept, is.trans same⟩

theorem deliveryInv_launch (inv : DeliveryInv st crew) (free : crew id = none)
    (flag : request.redelivery = st.acceptedBefore request.source)
    (apart : KeysApart st.launched request.source) :
    DeliveryInv { st with launched := request.source :: st.launched }
      (Function.update crew id (some (request, startView request))) := by
  refine deliveryInv_update inv (rowsInv_launch inv.rows apart) (grows_launch request) ?_ ?_ ?_
    fun run mem => ?_
  · rintro q ⟨⟩
    refine ⟨rfl, List.mem_cons_self, trivial, fun again => ?_⟩
    obtain ⟨webhook, run, kept, same⟩ := kept_of_acceptedBefore inv.rows (flag.symm.trans again)
    refine ⟨⟨rfl, .inl rfl, ?_, ?_, ?_⟩, webhook, run,
      (grows_launch request).kept_kept kept, same⟩
    · rintro known ⟨⟩
    · rintro used ⟨⟩
    · rintro count ⟨⟩
  · exact fun i q run _ there holding => inv.held there holding
  · rintro q run ⟨⟩ holding
    cases holding
  · refine inv.placed_beside mem (fun q there => ?_) _
    rw [free] at there
    cases there

theorem grows_answer {answer : Answer} : Grows st (st.answer request answer) where
  subscription := rfl
  launched _ mem := mem
  jobs _ mem := mem
  failed _ mem := mem
  conflicts _ mem := mem
  kept _ kept := kept.1

/-- A redelivery that answers does so as a duplicate. -/
theorem duplicate_of_redelivery {answer : Answer} (knows : Knows st (request, v))
    (ended : Ended request answer v) (again : request.redelivery = true) : answer = .duplicate := by
  obtain ⟨room, webhook, -⟩ := knows.redelivery again
  have stages := room.stage
  obtain ⟨-, ended⟩ := ended
  cases answer with
  | duplicate => rfl
  | notFound =>
    have found := room.found
    rw [ended.1] at found
    cases found
  | quotaExceeded =>
    have refused := ended.1
    unfold RequestView.refused at refused
    split at refused
    · next known used count read usage inFlight =>
      obtain ⟨same, active⟩ := room.active known read
      rw [← same] at room
      simp [withinQuota, active, room.used used usage, room.inFlight count inFlight] at refused
    · cases refused
  | queueUnavailable =>
    have stage : v.stage = .deleted := ended
    simp [stage] at stages
  | accepted run =>
    obtain ⟨-, ended⟩ := ended
    split at ended
    · simp [ended] at stages
    · rcases ended with same | same <;> simp [same] at stages

/-- An accepted answer is because of a run that stays. -/
theorem kept_of_ended {answer : Answer} (inv : RowsInv st) (knows : Knows st (request, v))
    (ended : Ended request answer v) (ok : answer.isAccepted = true) :
    ∃ run, st.Kept run ∧ run.source = request.source := by
  have fits := knows.stage
  obtain ⟨-, ended⟩ := ended
  cases answer with
  | duplicate =>
    rw [show (request, v).2.stage = .conflicted from ended] at fits
    obtain ⟨conflict, mem, same⟩ := fits
    obtain ⟨there, -, source⟩ := inv.conflicts conflict mem
    exact ⟨conflict.2, ⟨there, .inr ⟨conflict, mem, rfl⟩⟩, source.trans same⟩
  | accepted run =>
    obtain ⟨source, ended⟩ := ended
    have job : run ∈ st.jobs := by
      split at ended
      · rw [show (request, v).2.stage = .enqueued run from ended] at fits
        exact fits.1
      · rcases ended with same | same
        · rw [show (request, v).2.stage = .recorded run from same] at fits
          exact fits.1
        · rw [show (request, v).2.stage = .unrecorded run from same] at fits
          exact fits.1
    exact ⟨run, ⟨(inv.jobs run job).1, .inl job⟩, source⟩
  | notFound => cases ok
  | quotaExceeded => cases ok
  | queueUnavailable => cases ok

theorem not_holding_of_ended {answer : Answer} (here : crew id = some (request, v))
    (ended : Ended request answer v) : ∀ q run, crew id = some q → ¬ Holding run q := by
  obtain ⟨-, ended⟩ := ended
  cases answer with
  | notFound => exact not_holding here ended.2 (by simp)
  | quotaExceeded => exact not_holding here ended.2 (by simp)
  | duplicate => exact not_holding here ended (by simp)
  | queueUnavailable => exact not_holding here ended (by simp)
  | accepted run =>
    obtain ⟨-, ended⟩ := ended
    split at ended
    · exact not_holding here ended (by simp)
    · rcases ended with same | same
      · exact not_holding here same (by simp)
      · exact not_holding here same (by simp)

theorem deliveryInv_finish (inv : DeliveryInv st crew) (here : crew id = some (request, v))
    {answer : Answer} (ended : Ended request answer v) :
    DeliveryInv (st.answer request answer) (Function.update crew id none) := by
  have knows := inv.knows id _ here
  have rows : RowsInv (st.answer request answer) :=
    { inv.rows with
      accepted := by
        intro answered mem ok
        rcases List.mem_cons.mp mem with rfl | older
        · obtain ⟨run, kept, is⟩ := kept_of_ended inv.rows knows ended ok
          exact ⟨run, grows_answer.kept_kept kept, is⟩
        · obtain ⟨run, kept, is⟩ := inv.rows.accepted answered older ok
          exact ⟨run, grows_answer.kept_kept kept, is⟩
      redelivered := by
        intro answered mem again
        rcases List.mem_cons.mp mem with rfl | older
        · exact duplicate_of_redelivery knows ended again
        · exact inv.rows.redelivered answered older again }
  refine deliveryInv_update inv rows grows_answer (by rintro q ⟨⟩) ?_ (by rintro q run ⟨⟩)
    fun run mem => ?_
  · exact fun i q run _ there holding => inv.held there holding
  · exact inv.placed_beside mem (fun q there => not_holding_of_ended here ended q run there) _

end step

theorem deliveryInv_tick {st st' : OrgStore} {crew : Nat → Option (Request × RequestView)}
    {t : OrgTick} (inv : DeliveryInv st crew) (ticked : tickOrg t st = some st') :
    DeliveryInv st' crew := by
  have same : SameRows st st' := by
    cases t with
    | progress run status =>
      simp only [tickOrg] at ticked
      split at ticked
      · cases ticked
        exact ⟨rfl, rfl, rfl, rfl, rfl, rfl, rfl, rfl⟩
      · cases ticked
    | nextMonth =>
      cases ticked
      exact ⟨rfl, rfl, rfl, rfl, rfl, rfl, rfl, rfl⟩
  refine ⟨same.rows inv.rows, fun id q there => ?_, inv.alone, fun run mem => ?_⟩
  · refine (inv.knows id q there).mono same.grows fun run holding => ?_
    rw [same.runs, same.jobs, same.failed]
    exact inv.held there holding
  · rw [same.runs] at mem
    rw [same.jobs, same.failed]
    exact inv.placed run mem

theorem deliveryInv_step {s t : runSystem.State} {a : runSystem.Action}
    (all : runCertified.AllFollow s) (inv : DeliveryInv s.store (runCertified.crew s))
    (undisturbed : Undisturbed s a) (stepped : System.Stepped s a t) :
    DeliveryInv t.store (runCertified.crew t) := by
  have happened := Certified.happened all stepped
  generalize runCertified.crew t = crew at happened ⊢
  generalize t.store = store at happened ⊢
  cases happened with
  | @launch id request store free launched =>
    simp only at launched
    split at launched
    · next flag =>
      cases launched
      exact deliveryInv_launch inv free flag undisturbed
    · cases launched
  | call here issues permitted performed =>
    exact deliveryInv_call inv here permitted performed issues undisturbed
  | loop => exact inv
  | finish here ended => exact deliveryInv_finish inv here ended
  | tick ticked => exact deliveryInv_tick inv ticked

theorem deliveryInv_newOrg (subscription : OrganizationSubscription) (month : Nat) :
    DeliveryInv (newOrg subscription month).store fun _ => none where
  rows :=
    { ids := by simp [newOrg]
      different := List.nodup_nil
      keys := List.Pairwise.nil
      sources := by simp [newOrg]
      apart := by simp [newOrg]
      conflicts := by simp [newOrg]
      jobs := by simp [newOrg]
      failed := by simp [newOrg]
      accepted := by simp [newOrg]
      redelivered := by simp [newOrg] }
  knows := by simp
  alone := by simp
  placed := by simp [newOrg]

theorem deliveryInv_run {subscription : OrganizationSubscription} {month : Nat}
    {s : runSystem.State} (run : System.Steps Undisturbed (newOrg subscription month) s) :
    DeliveryInv s.store (runCertified.crew s) :=
  (runCertified.invariant (fun s => DeliveryInv s.store (runCertified.crew s))
    (fun _ => rfl) (deliveryInv_newOrg subscription month)
    (fun _ _ _ all inv undisturbed stepped => deliveryInv_step all inv undisturbed stepped) run).2

/-! ### Idempotent deliveries -/

theorem length_le_one_of_keys {runs : List WorkflowRunRow}
    (keys : runs.Pairwise fun a b =>
      a.source.triggerKey.isSome = true → a.source.triggerKey ≠ b.source.triggerKey)
    {source : RunSource} (keyed : source.triggerKey.isSome = true) :
    (runs.filter fun run => run.source = source).length ≤ 1 := by
  have apart := keys.filter fun run => run.source = source
  have ofSource : ∀ run ∈ runs.filter fun run => run.source = source, run.source = source :=
    fun run mem => by simpa using (List.mem_filter.mp mem).2
  cases found : runs.filter fun run => run.source = source with
  | nil => simp
  | cons first rest =>
    cases rest with
    | nil => simp
    | cons second rest =>
      rw [found] at apart ofSource
      have different := List.rel_of_pairwise_cons apart List.mem_cons_self
      have one := ofSource first List.mem_cons_self
      have two := ofSource second (List.mem_cons_of_mem _ List.mem_cons_self)
      rw [one, two] at different
      exact absurd rfl (different keyed)

def proPlan : OrganizationSubscription where
  tier := .pro
  canceled := false
  overrides := { monthlyRunLimit := none, inflightRunLimit := none }

def delivery (redelivery : Bool) : Request where
  source := .webhook 7 "key"
  redelivery := redelivery

/-- The first operations of a handler, up to its insert. -/
def upToInsert (id : Nat) : List runSystem.Action :=
  (List.replicate 7 (.call id true) : List runSystem.Action)

end Vespid.Api.Runs
