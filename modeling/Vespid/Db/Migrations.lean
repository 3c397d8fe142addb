import Vespid.Js
import Vespid.Lib.Journal
import Mathlib.Data.List.Sort
import Mathlib.Data.List.Induction

/-!
# Migrations and their rollback

`migrateUp` runs the migration files a database has not recorded yet, `rollbackMigrations` runs the
down files of the newest recorded ones. Each does so in one transaction. The record is a table
without an order of its own: a rollback sorts it by time and name, and the time is that of the
transaction, so among the files of one migration the collation of the database decides.
-/

namespace Vespid.Db.Migrations

open Journal

/-- The migrations directory of a release. A script may fail. -/
structure Release (Schema : Type) where
  files : List String
  script : String → Schema → Except String Schema

/-- A row of `_vespid_migrations`. -/
structure AppliedMigration where
  fileName : String
  appliedAt : Nat
  deriving DecidableEq

structure Database (Schema : Type) where
  schema : Schema
  applied : List AppliedMigration

/-- How `localeCompare` and the database order file names. A collation tells different names
apart. -/
structure Orders where
  localeCompare : String → String → Ordering
  collation : String → String → Ordering
  transitive : Std.TransCmp collation
  lawful : Std.LawfulEqCmp collation

attribute [instance] Orders.transitive Orders.lawful

variable {Schema : Type}

def isUp (file : String) : Bool :=
  ".sql".toList.isSuffixOf file.toList && !".down.sql".toList.isSuffixOf file.toList

def Database.names (db : Database Schema) : List String := db.applied.map (·.fileName)

/-! ### Up -/

section up
variable (orders : Orders) (release : Release Schema) (now : Nat)

/-- The migration files in the order in which they run. -/
def upFiles : List String :=
  (release.files.filter isUp).mergeSort fun a b => (orders.localeCompare a b).isLE

def migrateFile (file : String) (db : Database Schema) : Except String (Database Schema) :=
  if file ∈ db.names then .ok db
  else do
    let schema ← release.script file db.schema
    return { schema, applied := db.applied ++ [⟨file, now⟩] }

def migrateUp (db : Database Schema) : Except String (Database Schema) :=
  replay (migrateFile release now) (upFiles orders release) db

end up

/-! ### Rollback -/

/-- `NODE_ENV` and `ALLOW_PROD_MIGRATION_ROLLBACK`. -/
structure RollbackEnv where
  production : Bool
  allowProduction : Bool

def resolveDownMigrationFile (fileName : String) : Except String String :=
  if ".sql".toList.isSuffixOf fileName.toList then
    .ok (String.ofList (fileName.toList.take (fileName.length - 4)) ++ ".down.sql")
  else .error ("Migration file must end with .sql: " ++ fileName)

section rollback
variable (orders : Orders) (release : Release Schema)

/-- `order by applied_at desc, file_name desc`, as `a` not after `b`. -/
def newerFirst (a b : AppliedMigration) : Bool :=
  if a.appliedAt = b.appliedAt then (orders.collation a.fileName b.fileName).isGE
  else b.appliedAt < a.appliedAt

def rollbackFile (fileName : String) (db : Database Schema) : Except String (Database Schema) := do
  let downFile ← resolveDownMigrationFile fileName
  if downFile ∉ release.files then
    throw ("Missing down migration for " ++ fileName ++ ". Expected " ++ downFile ++ ".")
  let schema ← release.script downFile db.schema
  return { schema, applied := db.applied.filter (·.fileName ≠ fileName) }

/-- The names of the newest rows, newest first. -/
def newest (steps : Nat) (applied : List AppliedMigration) : List String :=
  ((applied.mergeSort (newerFirst orders)).take steps).map (·.fileName)

def rollbackMigrations (env : RollbackEnv) (steps : Int) (db : Database Schema) :
    Except String (Database Schema) :=
  if env.production && !env.allowProduction then
    .error ("Rollback is blocked in production by default. " ++
      "Set ALLOW_PROD_MIGRATION_ROLLBACK=true to override.")
  else if steps ≤ 0 then .error "steps must be a positive integer."
  else replay (rollbackFile release) (newest orders steps.toNat db.applied) db

end rollback

/-! ### Runs -/

/-- A run of one of the two commands. -/
inductive Command (Schema : Type) where
  | up (release : Release Schema) (now : Nat)
  | rollback (release : Release Schema) (env : RollbackEnv) (steps : Int)

def Command.run (orders : Orders) (db : Database Schema) :
    Command Schema → Except String (Database Schema)
  | up release now => migrateUp orders release now db
  | rollback release env steps => rollbackMigrations orders release env steps db

/-- A command that throws is rolled back. -/
def Command.commit (orders : Orders) (db : Database Schema) (c : Command Schema) :
    Database Schema :=
  match c.run orders db with
  | .ok after => after
  | .error _ => db

/-- The database after some commands, from one without a schema. -/
def runs (orders : Orders) (initial : Schema) (commands : List (Command Schema)) :
    Database Schema :=
  commands.foldl (Command.commit orders) { schema := initial, applied := [] }

/-! ### What each command does -/

theorem mem_upFiles {orders : Orders} {release : Release Schema} {file : String} :
    file ∈ upFiles orders release ↔ file ∈ release.files ∧ isUp file = true := by
  rw [upFiles, List.mem_mergeSort, List.mem_filter]

/-- The rows that a migration inserts. -/
def rowsAt (now : Nat) (files : List String) : List AppliedMigration :=
  files.map fun fileName => { fileName, appliedAt := now }

@[simp] theorem rowsAt_cons (now : Nat) (file : String) (files : List String) :
    rowsAt now (file :: files) = ⟨file, now⟩ :: rowsAt now files := rfl

@[simp] theorem length_rowsAt (now : Nat) (files : List String) :
    (rowsAt now files).length = files.length := by
  simp [rowsAt]

@[simp] theorem names_rowsAt (now : Nat) (files : List String) :
    (rowsAt now files).map (·.fileName) = files := by
  simp [rowsAt, Function.comp_def]

/-- A migration appends the files it ran, in order, and leaves none out. -/
theorem migrate_spec {release : Release Schema} {now : Nat} {files : List String}
    {db after : Database Schema}
    (migrated : replay (migrateFile release now) files db = .ok after) :
    ∃ new : List String, after.applied = db.applied ++ rowsAt now new ∧
      replay release.script new db.schema = .ok after.schema ∧ new.Sublist files ∧ new.Nodup ∧
      (∀ file ∈ new, file ∉ db.names) ∧ ∀ file ∈ files, file ∈ after.names := by
  induction files generalizing db with
  | nil =>
    cases migrated
    exact ⟨[], by simp [rowsAt], rfl, .slnil, .nil, nofun, nofun⟩
  | cons file files ih =>
    rw [replay_cons, migrateFile] at migrated
    by_cases recorded : file ∈ db.names
    · rw [if_pos recorded] at migrated
      obtain ⟨new, applied, ran, within, nodup, fresh, all⟩ := ih migrated
      refine ⟨new, applied, ran, within.cons _, nodup, fresh, ?_⟩
      intro other mem
      rcases List.mem_cons.mp mem with rfl | mem
      · simp only [Database.names, applied, List.map_append, List.mem_append]
        exact .inl recorded
      · exact all other mem
    · rw [if_neg recorded] at migrated
      cases here : release.script file db.schema with
      | error e =>
        rw [here] at migrated
        cases migrated
      | ok schema =>
        rw [here] at migrated
        obtain ⟨new, applied, ran, within, nodup, fresh, all⟩ := ih migrated
        have freshHere : ∀ other ∈ new, other ∉ db.names ∧ other ≠ file := by
          intro other mem
          have absent := fresh other mem
          simp only [Database.names, List.map_append, List.map_cons, List.map_nil,
            List.mem_append, List.mem_singleton, not_or] at absent
          exact absent
        refine ⟨file :: new, ?_, ?_, within.cons_cons _, ?_, ?_, ?_⟩
        · simp [applied]
        · rw [replay_cons, here]
          exact ran
        · exact List.nodup_cons.mpr ⟨fun mem => (freshHere file mem).2 rfl, nodup⟩
        · intro other mem
          rcases List.mem_cons.mp mem with rfl | mem
          · exact recorded
          · exact (freshHere other mem).1
        · intro other mem
          rcases List.mem_cons.mp mem with rfl | mem
          · simp [Database.names, applied]
          · exact all other mem

/-- What the down file of a migration does. -/
def undoScript (script : String → Schema → Except String Schema) (fileName : String)
    (schema : Schema) : Except String Schema := do
  let downFile ← resolveDownMigrationFile fileName
  script downFile schema

theorem rollbackFile_eq_ok {release : Release Schema} {fileName : String}
    {db after : Database Schema} : rollbackFile release fileName db = .ok after ↔
      (∃ downFile ∈ release.files, resolveDownMigrationFile fileName = .ok downFile) ∧
        undoScript release.script fileName db.schema = .ok after.schema ∧
        after.applied = db.applied.filter (·.fileName ≠ fileName) := by
  unfold rollbackFile undoScript
  cases resolveDownMigrationFile fileName with
  | error e => simp [bind, Except.bind]
  | ok downFile =>
    by_cases present : downFile ∈ release.files
    · cases script : release.script downFile db.schema with
      | error e => simp [bind, Except.bind, present, script]
      | ok schema =>
        obtain ⟨schema', applied⟩ := after
        simp [bind, Except.bind, pure, Except.pure, present, script, eq_comm]
    · simp [bind, Except.bind, present, throw, throwThe, MonadExceptOf.throw]

/-- A rollback runs the down files in turn and deletes their rows. -/
theorem rollback_spec {release : Release Schema} {names : List String} {db after : Database Schema}
    (rolledBack : replay (rollbackFile release) names db = .ok after) :
    replay (undoScript release.script) names db.schema = .ok after.schema ∧
      after.applied = db.applied.filter (·.fileName ∉ names) := by
  induction names generalizing db with
  | nil =>
    cases rolledBack
    exact ⟨rfl, by simp⟩
  | cons name names ih =>
    obtain ⟨middle, first, rest⟩ := replay_cons_eq_ok.mp rolledBack
    obtain ⟨-, undone, applied⟩ := rollbackFile_eq_ok.mp first
    obtain ⟨later, kept⟩ := ih rest
    refine ⟨?_, ?_⟩
    · rw [replay_cons, undone]
      exact later
    · rw [kept, applied, List.filter_filter]
      refine List.filter_congr fun row _ => ?_
      simp [Bool.and_comm]

/-! ### The order of the record -/

variable {orders : Orders}

/-- `a` was applied before `b`, as a rollback tells from their rows. -/
def Before (orders : Orders) (a b : AppliedMigration) : Prop :=
  newerFirst orders b a = true ∧ a.fileName ≠ b.fileName

theorem newerFirst_trans {a b c : AppliedMigration} (first : newerFirst orders a b = true)
    (second : newerFirst orders b c = true) : newerFirst orders a c = true := by
  unfold newerFirst at *
  split at first <;> split at second
  · rw [if_pos (by omega)]
    exact Std.TransCmp.isGE_trans first second
  · have later := of_decide_eq_true second
    rw [if_neg (by omega)]
    exact decide_eq_true (by omega)
  · have later := of_decide_eq_true first
    rw [if_neg (by omega)]
    exact decide_eq_true (by omega)
  · have later := of_decide_eq_true first
    have later' := of_decide_eq_true second
    rw [if_neg (by omega)]
    exact decide_eq_true (by omega)

theorem swap (a b : String) :
    orders.collation b a = (orders.collation a b).swap := Std.OrientedCmp.eq_swap

theorem newerFirst_total (a b : AppliedMigration) :
    newerFirst orders a b = true ∨ newerFirst orders b a = true := by
  unfold newerFirst
  rcases Nat.lt_trichotomy a.appliedAt b.appliedAt with less | same | more
  · exact .inr (by rw [if_neg (by omega)]; exact decide_eq_true less)
  · rw [if_pos same, if_pos same.symm]
    cases compared : orders.collation a.fileName b.fileName with
    | lt =>
      rw [swap, compared]
      exact .inr rfl
    | eq => exact .inl rfl
    | gt => exact .inl rfl
  · exact .inl (by rw [if_neg (by omega)]; exact decide_eq_true more)

theorem eq_of_newerFirst {a b : AppliedMigration} (first : newerFirst orders a b = true)
    (second : newerFirst orders b a = true) : a = b := by
  unfold newerFirst at first second
  split at first
  · rename_i same
    rw [if_pos same.symm] at second
    have names : orders.collation a.fileName b.fileName = .eq := by
      rw [swap] at second
      cases compared : orders.collation a.fileName b.fileName with
      | eq => rfl
      | lt => simp [compared] at first
      | gt => simp [compared] at second
    obtain ⟨fileName, appliedAt⟩ := a
    obtain ⟨fileName', appliedAt'⟩ := b
    obtain rfl := Std.LawfulEqCmp.eq_of_compare names
    obtain rfl := same
    rfl
  · rename_i different
    rw [if_neg fun same => different same.symm] at second
    have later := of_decide_eq_true first
    have later' := of_decide_eq_true second
    omega

/-- A rollback sees the rows in the reverse of the order in which they were applied. -/
theorem sorted_eq_reverse {applied : List AppliedMigration}
    (ordered : applied.Pairwise (Before orders)) :
    applied.mergeSort (newerFirst orders) = applied.reverse := by
  have sorted : (applied.mergeSort (newerFirst orders)).Pairwise
      fun a b => newerFirst orders a b = true := by
    refine List.pairwise_mergeSort ?_ ?_ applied
    · exact fun a b c => newerFirst_trans
    · intro a b
      rw [Bool.or_eq_true]
      exact newerFirst_total a b
  refine List.Perm.eq_of_pairwise (fun a b _ _ first second => eq_of_newerFirst first second)
    sorted ?_ ?_
  · exact List.pairwise_reverse.mpr (ordered.imp fun before => before.1)
  · exact (List.mergeSort_perm _ _).trans (List.reverse_perm applied).symm

theorem names_nodup {db : Database Schema} (ordered : db.applied.Pairwise (Before orders)) :
    db.names.Nodup :=
  List.pairwise_map.mpr (ordered.imp fun before => before.2)

/-- Deleting the newest rows leaves the older ones. -/
theorem filter_newer {older newer : List AppliedMigration}
    (ordered : (older ++ newer).Pairwise (Before orders)) :
    (older ++ newer).filter (·.fileName ∉ (newer.map (·.fileName)).reverse) = older := by
  obtain ⟨-, -, across⟩ := List.pairwise_append.mp ordered
  rw [List.filter_append, List.filter_eq_self.mpr, List.filter_eq_nil_iff.mpr, List.append_nil]
  · intro row mem
    simpa using ⟨row, mem, rfl⟩
  · intro row mem
    rw [decide_eq_true_iff, List.mem_reverse, List.mem_map]
    rintro ⟨other, there, same⟩
    exact (across row mem other there).2 same.symm

/-- A rollback takes the newest rows back, newest first. -/
theorem rollback_eq {release : Release Schema} {env : RollbackEnv} {steps : Int}
    {db after : Database Schema} (ordered : db.applied.Pairwise (Before orders))
    (rolledBack : rollbackMigrations orders release env steps db = .ok after) :
    ∃ older newer, db.applied = older ++ newer ∧
      newer.length = min steps.toNat db.applied.length ∧ after.applied = older ∧
      replay (undoScript release.script) (newer.map (·.fileName)).reverse db.schema =
        .ok after.schema := by
  unfold rollbackMigrations at rolledBack
  split at rolledBack
  · cases rolledBack
  split at rolledBack
  · cases rolledBack
  have names : newest orders steps.toNat db.applied =
      ((db.applied.drop (db.applied.length - steps.toNat)).map (·.fileName)).reverse := by
    rw [newest, sorted_eq_reverse ordered, List.take_reverse, List.map_reverse]
  rw [names] at rolledBack
  obtain ⟨undone, kept⟩ := rollback_spec rolledBack
  have parts := List.take_append_drop (db.applied.length - steps.toNat) db.applied
  refine ⟨_, _, parts.symm, ?_, ?_, undone⟩
  · rw [List.length_drop]
    omega
  · rw [kept]
    conv_lhs => rw [← parts]
    simp only [parts]
    have left := filter_newer (parts.symm ▸ ordered)
    rwa [parts] at left

/-! ### The schema is what the record says -/

/-- Rows stand in the order in which they were applied, and their scripts make the schema. -/
structure Replayed (orders : Orders) (script : String → Schema → Except String Schema)
    (initial : Schema) (db : Database Schema) : Prop where
  ordered : db.applied.Pairwise (Before orders)
  ups : ∀ file ∈ db.names, isUp file = true
  replayed : replay script db.names initial = .ok db.schema

/-- What a release relies on: files keep their content, a down file takes its migration back, and
names are ordered alike by the runtime and the database. -/
structure Maintained (orders : Orders) (script : String → Schema → Except String Schema) :
    Prop where
  sameOrder : orders.localeCompare = orders.collation
  undoes : Undoes (fun file => isUp file = true) script (undoScript script)

def Command.Uses (script : String → Schema → Except String Schema) : Command Schema → Prop
  | up release _ => release.script = script
  | rollback release .. => release.script = script

def Command.time? : Command Schema → Option Nat
  | up _ now => some now
  | rollback .. => none

/-- Each migration starts later than those before. -/
def Chronological (commands : List (Command Schema)) : Prop :=
  (commands.filterMap Command.time?).Pairwise (· < ·)

/-- Every migration file has its down file. -/
def Release.Reversible (release : Release Schema) : Prop :=
  ∀ file ∈ release.files, isUp file = true →
    ∃ downFile ∈ release.files, resolveDownMigrationFile file = .ok downFile

section replayed
variable {script : String → Schema → Except String Schema} {initial : Schema}
  {release : Release Schema} {now : Nat} {db after : Database Schema}

theorem upFiles_sorted (sameOrder : orders.localeCompare = orders.collation) :
    (upFiles orders release).Pairwise fun a b => (orders.collation a b).isLE = true := by
  rw [upFiles, sameOrder]
  refine List.pairwise_mergeSort (fun a b c first second => ?_) (fun a b => ?_) _
  · exact Std.TransCmp.isLE_trans first second
  · rw [swap a b]
    cases orders.collation a b <;> rfl

theorem migrateUp_ordered (sameOrder : orders.localeCompare = orders.collation)
    (ordered : db.applied.Pairwise (Before orders))
    (later : ∀ row ∈ db.applied, row.appliedAt < now)
    {new : List String} (within : new.Sublist (upFiles orders release)) (nodup : new.Nodup)
    (fresh : ∀ file ∈ new, file ∉ db.names) :
    (db.applied ++ rowsAt now new).Pairwise (Before orders) := by
  refine List.pairwise_append.mpr ⟨ordered, ?_, ?_⟩
  · have sorted := (upFiles_sorted sameOrder).sublist within
    refine List.pairwise_map.mpr ((sorted.and nodup).imp ?_)
    rintro a b ⟨le, different⟩
    exact ⟨by simpa [newerFirst] using Std.OrientedCmp.isGE_of_isLE le, different⟩
  · intro row mem other there
    obtain ⟨file, mem', rfl⟩ := List.mem_map.mp there
    have less := later row mem
    refine ⟨?_, ?_⟩
    · rw [newerFirst, if_neg (by dsimp only; omega)]
      exact decide_eq_true less
    · rintro rfl
      exact fresh _ mem' (List.mem_map_of_mem mem)

theorem migrateUp_keeps (maintained : Maintained orders script) (uses : release.script = script)
    (holds : Replayed orders script initial db) (later : ∀ row ∈ db.applied, row.appliedAt < now)
    (migrated : migrateUp orders release now db = .ok after) :
    Replayed orders script initial after ∧
      ∀ row ∈ after.applied, row ∈ db.applied ∨ row.appliedAt = now := by
  obtain ⟨new, applied, ran, within, nodup, fresh, -⟩ := migrate_spec migrated
  have names : after.names = db.names ++ new := by
    simp [Database.names, applied]
  refine ⟨⟨?_, ?_, ?_⟩, ?_⟩
  · rw [applied]
    exact migrateUp_ordered maintained.sameOrder holds.ordered later within nodup fresh
  · intro file mem
    rw [names, List.mem_append] at mem
    rcases mem with old | mem
    · exact holds.ups file old
    · exact (mem_upFiles.mp (within.subset mem)).2
  · rw [names]
    exact replay_append_eq_ok.mpr ⟨_, holds.replayed, uses ▸ ran⟩
  · intro row mem
    rw [applied, rowsAt, List.mem_append, List.mem_map] at mem
    rcases mem with old | ⟨file, -, rfl⟩
    · exact .inl old
    · exact .inr rfl

theorem rollback_keeps {env : RollbackEnv} {steps : Int} (maintained : Maintained orders script)
    (uses : release.script = script) (holds : Replayed orders script initial db)
    (rolledBack : rollbackMigrations orders release env steps db = .ok after) :
    Replayed orders script initial after ∧ ∀ row ∈ after.applied, row ∈ db.applied := by
  obtain ⟨older, newer, applied, -, kept, undone⟩ := rollback_eq holds.ordered rolledBack
  have ordered := holds.ordered
  have replayed := holds.replayed
  have ups := holds.ups
  rw [Database.names, applied, List.map_append] at replayed ups
  rw [applied] at ordered
  subst kept
  refine ⟨⟨(List.pairwise_append.mp ordered).1, ?_, ?_⟩, ?_⟩
  · exact fun file mem => ups file (List.mem_append_left _ mem)
  · exact replay_undo_append maintained.undoes
      (fun file mem => ups file (List.mem_append_right _ mem)) replayed (uses ▸ undone)
  · intro row mem
    rw [applied]
    exact List.mem_append_left _ mem

end replayed

/-- After any commands, the schema is the one that the recorded scripts make in the order of their
rows, and no row is younger than the last migration. -/
theorem runs_replayed {script : String → Schema → Except String Schema} (initial : Schema)
    (maintained : Maintained orders script) {commands : List (Command Schema)}
    (uses : ∀ c ∈ commands, c.Uses script) (chronological : Chronological commands) :
    Replayed orders script initial (runs orders initial commands) ∧
      ∀ row ∈ (runs orders initial commands).applied,
        row.appliedAt ∈ commands.filterMap Command.time? := by
  induction commands using List.reverseRecOn with
  | nil => exact ⟨⟨.nil, nofun, rfl⟩, nofun⟩
  | append_singleton commands c ih =>
    unfold Chronological at chronological ih
    rw [List.filterMap_append] at chronological
    obtain ⟨before, -, across⟩ := List.pairwise_append.mp chronological
    obtain ⟨holds, times⟩ := ih (fun c mem => uses c (List.mem_append_left _ mem)) before
    have here := uses c (by simp)
    rw [runs, List.foldl_append, List.foldl_cons, List.foldl_nil]
    change Replayed orders script initial (c.commit orders (runs orders initial commands)) ∧
      ∀ row ∈ (c.commit orders (runs orders initial commands)).applied, _
    rw [List.filterMap_append]
    unfold Command.commit
    split
    · rename_i after ran
      cases c with
      | up release now =>
        have later : ∀ row ∈ (runs orders initial commands).applied, row.appliedAt < now :=
          fun row mem => across _ (times row mem) now (by simp [Command.time?])
        obtain ⟨kept, rows⟩ := migrateUp_keeps maintained here holds later ran
        refine ⟨kept, fun row mem => List.mem_append.mpr ?_⟩
        rcases rows row mem with old | rfl
        · exact .inl (times row old)
        · exact .inr (by simp [Command.time?])
      | rollback release env steps =>
        obtain ⟨kept, rows⟩ := rollback_keeps maintained here holds ran
        exact ⟨kept, fun row mem => List.mem_append_left _ (times row (rows row mem))⟩
    · exact ⟨holds, fun row mem => List.mem_append_left _ (times row mem)⟩

/-! ### A release of one migration -/

namespace Sample

def script (file : String) (tables : List String) : Except String (List String) :=
  if file = "0001_runs.sql" then .ok ("runs" :: tables)
  else if file = "0001_runs.down.sql" then .ok tables.tail
  else .error "ENOENT"

def release : Release (List String) :=
  { files := ["0001_runs.down.sql", "0001_runs.sql"], script }

def byCodePoint : Orders where
  localeCompare := compare
  collation := compare
  transitive := inferInstance
  lawful := inferInstance

theorem resolved : resolveDownMigrationFile "0001_runs.sql" = .ok "0001_runs.down.sql" := rfl

theorem listed : upFiles byCodePoint release = ["0001_runs.sql"] := by
  have ups : release.files.filter isUp = ["0001_runs.sql"] := by decide
  rw [upFiles, ups, List.mergeSort_singleton]

theorem maintained : Maintained byCodePoint script where
  sameOrder := rfl
  undoes := by
    intro file up s s' ran
    unfold script at ran
    split at ran
    · rename_i here
      cases here
      cases ran
      rfl
    · split at ran
      · rename_i here
        cases here
        cases up
      · cases ran

theorem reversible : release.Reversible := by
  intro file mem up
  have here : file ∈ upFiles byCodePoint release := mem_upFiles.mpr ⟨mem, up⟩
  rw [listed, List.mem_singleton] at here
  subst here
  exact ⟨"0001_runs.down.sql", by decide, resolved⟩

theorem migrated : migrateUp byCodePoint release 1 { schema := [], applied := [] } =
    .ok { schema := ["runs"], applied := [⟨"0001_runs.sql", 1⟩] } := by
  rw [migrateUp, listed]
  rfl

theorem runs_up : runs byCodePoint [] [.up release 1] =
    { schema := ["runs"], applied := [⟨"0001_runs.sql", 1⟩] } := by
  simp only [runs, List.foldl_cons, List.foldl_nil, Command.commit, Command.run, migrated]

end Sample

/-! ### The record and the schema -/

section back
variable {script : String → Schema → Except String Schema} {initial : Schema}
  {release : Release Schema} {now : Nat} {db after : Database Schema}

theorem eq_rollbackFile {fileName downFile : String} {schema : Schema}
    (present : downFile ∈ release.files)
    (resolved : resolveDownMigrationFile fileName = .ok downFile)
    (undone : undoScript release.script fileName db.schema = .ok schema) :
    rollbackFile release fileName db =
      .ok { schema, applied := db.applied.filter (·.fileName ≠ fileName) } :=
  rollbackFile_eq_ok.mpr ⟨⟨downFile, present, resolved⟩, undone, rfl⟩

/-- With the down files at hand, a rollback does what the down scripts do. -/
theorem rollback_ok {names : List String} {schema : Schema}
    (present : ∀ name ∈ names,
      ∃ downFile ∈ release.files, resolveDownMigrationFile name = .ok downFile)
    (undone : replay (undoScript release.script) names db.schema = .ok schema) :
    replay (rollbackFile release) names db =
      .ok { schema, applied := db.applied.filter (·.fileName ∉ names) } := by
  induction names generalizing db with
  | nil =>
    cases undone
    simp
  | cons name names ih =>
    obtain ⟨middle, first, rest⟩ := replay_cons_eq_ok.mp undone
    obtain ⟨downFile, there, resolved⟩ := present name List.mem_cons_self
    refine replay_cons_eq_ok.mpr ⟨_, eq_rollbackFile there resolved first, ?_⟩
    rw [ih (fun name mem => present name (List.mem_cons_of_mem _ mem)) rest, List.filter_filter]
    congr 2
    refine List.filter_congr fun row _ => ?_
    simp [Bool.and_comm]

end back

section again
variable {release : Release Schema} {now : Nat} {db after : Database Schema} {files : List String}

theorem migrate_recorded (recorded : ∀ file ∈ files, file ∈ db.names) :
    replay (migrateFile release now) files db = .ok db := by
  induction files with
  | nil => rfl
  | cons file files ih =>
    have later := ih fun file mem => recorded file (List.mem_cons_of_mem _ mem)
    refine replay_cons_eq_ok.mpr ⟨db, ?_, later⟩
    rw [migrateFile, if_pos (recorded file List.mem_cons_self)]

theorem migrate_fresh (fresh : ∀ file ∈ files, file ∉ db.names) (nodup : files.Nodup)
    {schema : Schema} (ran : replay release.script files db.schema = .ok schema) :
    replay (migrateFile release now) files db =
      .ok { schema, applied := db.applied ++ rowsAt now files } := by
  induction files generalizing db with
  | nil =>
    cases ran
    simp [rowsAt]
  | cons file files ih =>
    obtain ⟨middle, first, rest⟩ := replay_cons_eq_ok.mp ran
    obtain ⟨apart, nodup⟩ := List.nodup_cons.mp nodup
    let next : Database Schema := { schema := middle, applied := db.applied ++ [⟨file, now⟩] }
    refine replay_cons_eq_ok.mpr ⟨next, ?_, ?_⟩
    · rw [migrateFile, if_neg (fresh file List.mem_cons_self), first]
      rfl
    · have fresh' : ∀ other ∈ files, other ∉ next.names := by
        intro other mem
        have absent := fresh other (List.mem_cons_of_mem _ mem)
        simp only [next, Database.names, List.map_append, List.map_cons, List.map_nil,
          List.mem_append, List.mem_singleton, not_or]
        exact ⟨absent, fun same => apart (same ▸ mem)⟩
      rw [ih fresh' nodup rest]
      simp [next]

/-- A migration that succeeds leaves no file unrecorded, and the next one does nothing. -/
theorem migrateUp_again (migrated : migrateUp orders release now db = .ok after) (later : Nat) :
    (∀ file ∈ release.files, isUp file = true → file ∈ after.names) ∧
      migrateUp orders release later after = .ok after := by
  obtain ⟨-, -, -, -, -, -, all⟩ := migrate_spec migrated
  exact ⟨fun file mem up => all file (mem_upFiles.mpr ⟨mem, up⟩), migrate_recorded all⟩

end again

theorem migrateUp_again_first :
    (∀ file ∈ Sample.release.files, isUp file = true → file ∈ ["0001_runs.sql"]) ∧
      migrateUp Sample.byCodePoint Sample.release 7
        { schema := ["runs"], applied := [⟨"0001_runs.sql", 1⟩] } =
          .ok { schema := ["runs"], applied := [⟨"0001_runs.sql", 1⟩] } :=
  migrateUp_again Sample.migrated 7

/-- Names that the collation puts in a row are told from each other by it. -/
theorem eq_of_sorted {l r : List String} (same : l.Perm r)
    (left : l.Pairwise fun a b => (orders.collation a b).isLE = true)
    (right : r.Pairwise fun a b => (orders.collation a b).isLE = true) : l = r := by
  refine List.Perm.eq_of_pairwise (fun a b _ _ first second => ?_) left right same
  rw [swap] at second
  cases compared : orders.collation a b with
  | eq => exact Std.LawfulEqCmp.eq_of_compare compared
  | lt => simp [compared] at second
  | gt => simp [compared] at first

end Vespid.Db.Migrations
