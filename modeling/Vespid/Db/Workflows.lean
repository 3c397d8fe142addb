import Mathlib.Data.List.Chain
import Vespid.Js
import Vespid.Lib.Exclusive
import Vespid.Lib.Protocol

/-!
# Drafts and publishing

The repository functions that change a workflow's row, each in a transaction of its own. An update
waits for the row's lock and sees the row as committed then; it is seen by others once committed.
-/

namespace Vespid.Db

open Interleaving

inductive WorkflowStatus where
  | draft | published
  deriving DecidableEq

structure WorkflowRow where
  name : String
  status : WorkflowStatus
  version : Nat
  dsl : Json
  editorState : Option Json
  publishedAt : Option Nat

/-- The fields of an update; what is absent stays. -/
structure DraftUpdate where
  name : Option String
  dsl : Option Json
  editorState : Option Json

/-- `updateWorkflowDraft`, on a row that the statement finds. -/
def WorkflowRow.update (row : WorkflowRow) (input : DraftUpdate) : WorkflowRow :=
  { row with
    name := input.name.getD row.name
    dsl := input.dsl.getD row.dsl
    editorState := input.editorState.or row.editorState
    version := row.version + 1 }

def WorkflowRow.publish (row : WorkflowRow) (version publishedAt : Nat) : WorkflowRow :=
  { row with status := .published, version, publishedAt := some publishedAt }

inductive WorkflowOp where
  | getWorkflowById
  | updateDraft (input : DraftUpdate)
  | updatePublished (version : Nat)
  /-- The commit of a transaction and the row it has updated, if it has. -/
  | commit (updated : Option WorkflowRow)

abbrev WorkflowOp.Reply : WorkflowOp → Type
  | getWorkflowById | updatePublished _ => WorkflowRow
  | updateDraft _ => Option WorkflowRow
  | commit _ => Bool

abbrev WorkflowOps : Interface where
  Op := WorkflowOp
  Reply := WorkflowOp.Reply

abbrev WorkflowProgram := Program WorkflowOps

def updateWorkflowDraft (input : DraftUpdate) : WorkflowProgram Unit :=
  .call (I := WorkflowOps) (.updateDraft input) fun updated =>
    .call (I := WorkflowOps) (.commit updated) fun _ => .done ()

def publishWorkflow : WorkflowProgram Unit :=
  .call (I := WorkflowOps) .getWorkflowById fun current =>
    .call (I := WorkflowOps) (.updatePublished ((current : WorkflowRow).version + 1)) fun updated =>
      .call (I := WorkflowOps) (.commit (some updated)) fun _ => .done ()

/-- The row as committed, its update that is not, and the rows that successful calls have
returned, newest last. -/
structure WorkflowStore where
  row : WorkflowRow
  locked : Option WorkflowRow
  returned : List WorkflowRow

inductive WorkflowLaunch where
  | update (input : DraftUpdate)
  | publish

structure WorkflowChoice where
  now : Nat
  /-- Whether the transaction commits; else it is rolled back. -/
  commits : Bool

def performWorkflow (st : WorkflowStore) (choice : WorkflowChoice) :
    (op : WorkflowOp) → Option (op.Reply × WorkflowStore)
  | .getWorkflowById => some (st.row, st)
  | .updateDraft input =>
    match st.locked with
    | some _ => none
    | none =>
      if st.row.status = .draft then
        some (some (st.row.update input), { st with locked := some (st.row.update input) })
      else some (none, st)
  | .updatePublished version =>
    match st.locked with
    | some _ => none
    | none => some (st.row.publish version choice.now,
        { st with locked := some (st.row.publish version choice.now) })
  | .commit none => some (choice.commits, st)
  | .commit (some updated) =>
    if choice.commits then
      some (true, { row := updated, locked := none, returned := st.returned ++ [updated] })
    else some (false, { st with locked := none })

/-- Any number of calls on one row. -/
abbrev workflowSystem : System WorkflowOps where
  Store := WorkflowStore
  Launch := WorkflowLaunch
  Loop := Empty
  Outcome := Unit
  Choice := WorkflowChoice
  Tick := Empty
  perform op st choice := performWorkflow st choice op
  launch _ st := some st
  entry l := .inr <$> match l with
    | .update input => updateWorkflowDraft input
    | .publish => publishWorkflow
  body _ loop := nomatch loop
  finish _ _ st := st
  tick t := nomatch t

def createdRow (row : WorkflowRow) : workflowSystem.State :=
  { store := { row, locked := none, returned := [] }, process := fun _ => none }

/-! ### The transaction that holds the row -/

/-- The row a transaction has updated and not committed. -/
def workflowProtocol : Protocol WorkflowOps (Option WorkflowRow) where
  permits updated op := match op with
    | .updateDraft _ | .updatePublished _ => updated = none
    | .commit row => updated = row
    | _ => True
  expects _ _ := True
  observe updated op reply := match op, reply with
    | .updateDraft _, row => row
    | .updatePublished _, row => some row
    | .commit _, _ => none
    | _, _ => updated

theorem updateWorkflowDraft_follows (input : DraftUpdate) :
    (updateWorkflowDraft input).wp workflowProtocol (fun _ updated => updated = none) none :=
  ⟨rfl, fun _ _ => ⟨rfl, fun _ _ => rfl⟩⟩

theorem publishWorkflow_follows :
    publishWorkflow.wp workflowProtocol (fun _ updated => updated = none) none :=
  ⟨trivial, fun _ _ => ⟨rfl, fun _ _ => ⟨rfl, fun _ _ => rfl⟩⟩⟩

def workflowCertified : Certified workflowSystem workflowProtocol where
  start _ := none
  looping _ loop _ := nomatch loop
  ended _ _ updated := updated = none
  entry_follows l := by
    cases l with
    | update input => exact Program.wp_seq (updateWorkflowDraft_follows input) fun _ _ done => done
    | publish => exact Program.wp_seq publishWorkflow_follows fun _ _ done => done
  body_follows _ loop := nomatch loop
  replies _ _ _ _ _ _ := trivial

/-! ### What the rows of successful calls have in common -/

/-- A published row is published again at most, with the dsl it has; what becomes published has
the dsl of the draft. -/
structure Succeeds (before after : WorkflowRow) : Prop where
  published : before.status = .published → after.status = .published
  dsl : after.status = .published → after.dsl = before.dsl

theorem succeeds_update {row : WorkflowRow} (draft : row.status = .draft) (input : DraftUpdate) :
    Succeeds row (row.update input) := by
  constructor
  · intro published
    rw [draft] at published
    cases published
  · intro published
    have still : (row.update input).status = .draft := draft
    rw [still] at published
    cases published

theorem succeeds_publish (row : WorkflowRow) (version now : Nat) :
    Succeeds row (row.publish version now) :=
  ⟨fun _ => rfl, fun _ => rfl⟩

/-- The rows from the first one on, oldest first. -/
def WorkflowStore.rows (st : WorkflowStore) (first : WorkflowRow) : List WorkflowRow :=
  first :: st.returned

/-- Each row of a successful call stands in `R` to the one before. -/
structure RowsInv (R : WorkflowRow → WorkflowRow → Prop) (first : WorkflowRow) (st : WorkflowStore)
    (crew : Nat → Option (WorkflowLaunch × Option WorkflowRow)) : Prop where
  last : (st.rows first).getLast? = some st.row
  chain : (st.rows first).IsChain R
  lock : Exclusive (fun q => q.2.isSome) (fun q => st.locked = q.2 ∧ ∀ row ∈ q.2, R st.row row)
    (st.locked = none) crew

/-- What an update writes stands in `R` to the row it finds. -/
def UpdatesBy (R : WorkflowRow → WorkflowRow → Prop) (st : WorkflowStore) : WorkflowOp → Prop
  | .updateDraft input => st.row.status = .draft → R st.row (st.row.update input)
  | .updatePublished version => ∀ now, R st.row (st.row.publish version now)
  | _ => True

section step
variable {R : WorkflowRow → WorkflowRow → Prop} {first : WorkflowRow} {st st' : WorkflowStore}
  {crew : Nat → Option (WorkflowLaunch × Option WorkflowRow)} {id : Nat} {l : WorkflowLaunch}
  {updated : Option WorkflowRow}

theorem nobody_of_unlocked (inv : RowsInv R first st crew) (free : st.locked = none) :
    NoneHolds (fun q : WorkflowLaunch × Option WorkflowRow => q.2.isSome) crew := by
  intro i q there holds
  have same := (inv.lock.held i q there holds).1
  rw [free] at same
  rw [← same] at holds
  cases holds

/-- A transaction that has updated nothing goes on with nothing updated. -/
theorem rowsInv_stand (inv : RowsInv R first st crew)
    (idle : ∀ q, crew id = some q → q.2 = none) {new : Option (WorkflowLaunch × Option WorkflowRow)}
    (still : ∀ q, new = some q → q.2 = none) :
    RowsInv R first st (Function.update crew id new) where
  last := inv.last
  chain := inv.chain
  lock := by
    apply inv.lock.stand
    · intro q there
      simp [idle q there]
    · intro q there
      simp [still q there]
    · exact fun _ now => now
    · exact fun _ free => free

theorem rowsInv_lock (inv : RowsInv R first st crew) (free : st.locked = none) {row : WorkflowRow}
    (next : R st.row row) :
    RowsInv R first { st with locked := some row }
      (Function.update crew id (some (l, some row))) where
  last := inv.last
  chain := inv.chain
  lock := by
    refine .take (nobody_of_unlocked inv free) rfl ⟨rfl, ?_⟩
    rintro _ ⟨⟩
    exact next

theorem rowsInv_commit (inv : RowsInv R first st crew) {row : WorkflowRow}
    (here : crew id = some (l, some row)) :
    RowsInv R first { row, locked := none, returned := st.returned ++ [row] }
      (Function.update crew id (some (l, none))) where
  last := by
    rw [WorkflowStore.rows, ← List.cons_append, List.getLast?_concat]
  chain := by
    have next := (inv.lock.held id _ here rfl).2 row rfl
    rw [WorkflowStore.rows, ← List.cons_append]
    refine List.isChain_append.mpr ⟨inv.chain, by simp, ?_⟩
    intro before is after now
    obtain rfl : row = after := by simpa using now
    obtain rfl : st.row = before := Option.some.inj (inv.last.symm.trans is)
    exact next
  lock := by
    refine inv.lock.release here rfl ?_ rfl
    rintro q ⟨⟩
    simp

theorem rowsInv_rollback (inv : RowsInv R first st crew) {row : WorkflowRow}
    (here : crew id = some (l, some row)) :
    RowsInv R first { st with locked := none } (Function.update crew id (some (l, none))) where
  last := inv.last
  chain := inv.chain
  lock := by
    refine inv.lock.release here rfl ?_ rfl
    rintro q ⟨⟩
    simp

theorem rowsInv_call (inv : RowsInv R first st crew) (here : crew id = some (l, updated))
    {op : WorkflowOp} {choice : WorkflowChoice} {reply : op.Reply}
    (permitted : workflowProtocol.permits updated op)
    (performed : performWorkflow st choice op = some (reply, st')) (by_ : UpdatesBy R st op) :
    RowsInv R first st'
      (Function.update crew id (some (l, workflowProtocol.observe updated op reply))) := by
  have same : Function.update crew id (some (l, updated)) = crew :=
    Function.update_eq_self_iff.mpr here.symm
  have idle (none : updated = none) (q : WorkflowLaunch × Option WorkflowRow)
      (there : crew id = some q) : q.2 = .none := by
    rw [here] at there
    cases there
    exact none
  cases op with
  | getWorkflowById =>
    cases performed
    show RowsInv R first st (Function.update crew id (some (l, updated)))
    rw [same]
    exact inv
  | updateDraft input =>
    simp only [performWorkflow] at performed
    split at performed
    · cases performed
    · split at performed
      · cases performed
        exact rowsInv_lock inv ‹_› (by_ ‹_›)
      · cases performed
        refine rowsInv_stand inv (idle permitted) ?_
        rintro q ⟨⟩
        rfl
  | updatePublished version =>
    simp only [performWorkflow] at performed
    split at performed
    · cases performed
    · cases performed
      exact rowsInv_lock inv ‹_› (by_ choice.now)
  | commit row =>
    obtain rfl : updated = row := permitted
    cases updated with
    | none =>
      cases performed
      refine rowsInv_stand inv (idle rfl) ?_
      rintro q ⟨⟩
      rfl
    | some row =>
      simp only [performWorkflow] at performed
      split at performed
      · cases performed
        exact rowsInv_commit inv here
      · cases performed
        exact rowsInv_rollback inv here

end step

theorem rowsInv_created (R : WorkflowRow → WorkflowRow → Prop) (row : WorkflowRow) :
    RowsInv R row (createdRow row).store fun _ => none where
  last := rfl
  chain := List.isChain_singleton _
  lock := ⟨fun _ _ here => (by cases here), fun _ _ _ _ here => (by cases here), fun _ => rfl⟩

/-- The operation an action performs, if it is an update, writes a row that stands in `R` to the
one it finds. -/
def StepsBy (R : WorkflowRow → WorkflowRow → Prop) (s : workflowSystem.State)
    (a : workflowSystem.Action) : Prop :=
  ∀ updated op, workflowCertified.issued s a = some (updated, op) → UpdatesBy R s.store op

theorem rowsInv_step {R : WorkflowRow → WorkflowRow → Prop} {first : WorkflowRow}
    {s t : workflowSystem.State} {a : workflowSystem.Action} (all : workflowCertified.AllFollow s)
    (inv : RowsInv R first s.store (workflowCertified.crew s)) (by_ : StepsBy R s a)
    (stepped : System.Stepped s a t) : RowsInv R first t.store (workflowCertified.crew t) := by
  have happened := Certified.happened all stepped
  generalize workflowCertified.crew t = crew at happened ⊢
  generalize t.store = store at happened ⊢
  cases happened with
  | @launch id l store free launched =>
    cases launched
    refine rowsInv_stand inv ?_ ?_
    · intro q there
      rw [free] at there
      cases there
    · rintro q ⟨⟩
      rfl
  | call here issues permitted performed =>
    exact rowsInv_call inv here permitted performed (by_ _ _ issues)
  | loop => exact inv
  | finish here ended =>
    refine rowsInv_stand inv ?_ nofun
    intro q there
    rw [here] at there
    cases there
    exact ended
  | @tick t store ticked => cases t

theorem rowsInv_run {R : WorkflowRow → WorkflowRow → Prop} {first : WorkflowRow}
    {s : workflowSystem.State} (run : System.Steps (StepsBy R) (createdRow first) s) :
    RowsInv R first s.store (workflowCertified.crew s) :=
  (workflowCertified.invariant (fun s => RowsInv R first s.store (workflowCertified.crew s))
    (fun _ => rfl) (rowsInv_created R first)
    (fun _ _ _ all inv by_ stepped => rowsInv_step all inv by_ stepped) run).2

/-! ### Published rows and versions -/

/-- A publish writes its update while the row has the version it has read. -/
def PublishesCurrent (s : workflowSystem.State) (a : workflowSystem.Action) : Prop :=
  match workflowCertified.issued s a with
  | some (_, .updatePublished version) => version = s.store.row.version + 1
  | _ => True

instance (s : workflowSystem.State) (a : workflowSystem.Action) :
    Decidable (PublishesCurrent s a) := by
  unfold PublishesCurrent
  split <;> infer_instance

theorem stepsBy_succeeds (s : workflowSystem.State) (a : workflowSystem.Action) :
    StepsBy Succeeds s a := by
  intro updated op _
  cases op with
  | updateDraft input => exact fun draft => succeeds_update draft input
  | updatePublished version => exact fun now => succeeds_publish s.store.row version now
  | _ => trivial

def Newer (before after : WorkflowRow) : Prop := before.version < after.version

theorem stepsBy_newer {s : workflowSystem.State} {a : workflowSystem.Action}
    (current : PublishesCurrent s a) : StepsBy Newer s a := by
  intro updated op issues
  cases op with
  | updateDraft input => exact fun _ => Nat.lt_succ_self s.store.row.version
  | updatePublished version =>
    intro now
    unfold PublishesCurrent at current
    rw [issues] at current
    show s.store.row.version < version
    have same : version = s.store.row.version + 1 := current
    omega
  | _ => trivial

/-- From a published row on, all rows are published and have its dsl. -/
def KeepsPublished (before after : WorkflowRow) : Prop :=
  before.status = .published → after.status = .published ∧ after.dsl = before.dsl

theorem keepsPublished_of_chain {rows : List WorkflowRow} (chain : rows.IsChain Succeeds) :
    rows.Pairwise KeepsPublished := by
  have trans : Trans KeepsPublished KeepsPublished KeepsPublished := by
    refine ⟨fun {a b c} first second published => ?_⟩
    obtain ⟨here, same⟩ := first published
    obtain ⟨there, again⟩ := second here
    exact ⟨there, again.trans same⟩
  refine List.isChain_iff_pairwise.mp (chain.imp ?_)
  intro before after succeeds published
  have now := succeeds.published published
  exact ⟨now, succeeds.dsl now⟩

/-- Once published a workflow keeps its dsl, which is the one that was published; versions grow
where no update comes between a publish's read and its write. -/
theorem published_versions (row : WorkflowRow) :
    (∀ s, System.Steps (fun _ _ => True) (createdRow row) s →
      (s.store.rows row).Pairwise KeepsPublished ∧
      (s.store.rows row).IsChain fun before after =>
        before.status = .draft → after.status = .published → after.dsl = before.dsl) ∧
    ∀ s, System.Steps PublishesCurrent (createdRow row) s →
      (s.store.rows row).Pairwise Newer := by
  refine ⟨fun s run => ?_, fun s run => ?_⟩
  · have inv := rowsInv_run (run.mono fun t a _ => stepsBy_succeeds t a)
    refine ⟨keepsPublished_of_chain inv.chain, inv.chain.imp ?_⟩
    intro before after succeeds _
    exact succeeds.dsl
  · have inv := rowsInv_run (run.mono fun t a current => stepsBy_newer current)
    have trans : Trans Newer Newer Newer := ⟨fun first second => Nat.lt_trans first second⟩
    exact List.isChain_iff_pairwise.mp inv.chain

/-! ### A draft that is updated while it is published -/

namespace Sample

def draftRow : WorkflowRow :=
  { name := "daily", status := .draft, version := 1, dsl := .null, editorState := none
    publishedAt := none }

def rename : DraftUpdate := { name := some "weekly", dsl := none, editorState := none }

def commits : WorkflowChoice := { now := 0, commits := true }

def versions (s : workflowSystem.State) : List Nat := (s.store.rows draftRow).map (·.version)

end Sample

theorem published_versions_one_by_one : ∃ s : workflowSystem.State,
    Sample.versions s = [1, 2, 3] ∧ (s.store.rows Sample.draftRow).Pairwise Newer := by
  have ran : (System.exec PublishesCurrent (createdRow Sample.draftRow)
      ([.launch 0 (.update Sample.rename), .call 0 Sample.commits, .call 0 Sample.commits,
        .launch 1 .publish] ++ List.replicate 3 (.call 1 Sample.commits))).map Sample.versions =
      some [1, 2, 3] := by decide +kernel
  obtain ⟨s, run, same⟩ := Option.map_eq_some_iff.mp ran
  exact ⟨s, same, (published_versions Sample.draftRow).2 s (System.steps_of_exec run)⟩

/-- The publish has read version 1; the update makes it 2, and so does the publish. -/
theorem version_twice : ¬∀ (row : WorkflowRow) (s : workflowSystem.State), row.status = .draft →
    System.Steps (fun _ _ => True) (createdRow row) s → (s.store.rows row).Pairwise Newer := by
  intro claim
  have ran : (System.exec (fun _ _ => True) (createdRow Sample.draftRow)
      ([.launch 0 (.update Sample.rename), .launch 1 .publish, .call 1 Sample.commits,
        .call 0 Sample.commits, .call 0 Sample.commits] ++
        List.replicate 2 (.call 1 Sample.commits))).map Sample.versions =
      some [1, 2, 2] := by decide +kernel
  obtain ⟨s, run, same⟩ := Option.map_eq_some_iff.mp ran
  have increasing : (Sample.versions s).Pairwise (· < ·) :=
    List.pairwise_map.mpr (claim Sample.draftRow s rfl (System.steps_of_exec run))
  rw [same] at increasing
  exact absurd increasing (by decide)

end Vespid.Db
