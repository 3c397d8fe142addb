import Vespid.NodeAgent.Path
import Vespid.Workflow.Dsl

/-!
# Run directories

The directory in which an executor works on an attempt of a node of a run. A node id is any text,
and separators in it divide names.
-/

namespace Vespid.NodeAgent.Workdir

open Paths NodeAgent.Path Workflow

/-- No text of the system holds it. -/
def nul : Char := '\x00'

structure Environment where
  /-- `VESPID_AGENT_WORKDIR_ROOT` -/
  workdirRoot : Option String
  homedir : String
  cwd : String
  workdirRoot_solid : ∀ root ∈ workdirRoot, nul ∉ root.toList
  homedir_solid : nul ∉ homedir.toList
  cwd_solid : nul ∉ cwd.toList

structure FileSystem where
  /-- `mkdir` with `recursive`. -/
  mkdir : List Char → Except String Unit
  nul_refused : ∀ path, nul ∈ path → mkdir path ≠ .ok ()

structure RunInput where
  organizationId : String
  runId : Option String
  nodeId : String
  attemptCount : Option Nat

def resolveHome (homedir input : List Char) : List Char :=
  if ['~', '/'].isPrefixOf input then join [homedir, input.drop 2] else input

def resolveWorkdirRoot (env : Environment) : List Char :=
  resolveHome env.homedir.toList (env.workdirRoot.getD "~/.vespid/workdir").toList

def assertSubpath (cwd root candidate : List Char) : Except String Unit :=
  let resolvedRoot := resolve cwd root
  let resolvedCandidate := resolve cwd candidate
  let leading := if resolvedRoot.getLast? = some '/' then resolvedRoot else resolvedRoot ++ ['/']
  if leading.isPrefixOf resolvedCandidate then .ok () else .error "WORKDIR_PATH_ESCAPE"

def resolveRunWorkdirHostPath (env : Environment) (files : FileSystem) (input : RunInput) :
    Except String (List Char) := do
  let cwd := env.cwd.toList
  let workdirRoot := resolveWorkdirRoot env
  let attempt := input.attemptCount.getD 1
  let runId := input.runId.getD "run"
  let workdir := join [workdirRoot, input.organizationId.toList, runId.toList, input.nodeId.toList,
    (toString attempt).toList]
  let resolvedRoot := resolve cwd workdirRoot
  let resolvedWorkdir := resolve cwd workdir
  assertSubpath cwd resolvedRoot resolvedWorkdir
  files.mkdir resolvedWorkdir
  return resolvedWorkdir

/-- Where `executeSkill` puts the files of a skill. -/
def skillDirectory (cwd workdir skillId : List Char) : Except String (List Char) := do
  let skillsRoot := join [workdir, "skills".toList]
  let skillDstDir := join [skillsRoot, skillId]
  let resolvedWorkdir := resolve cwd workdir
  let resolvedDst := resolve cwd skillDstDir
  assertSubpath cwd resolvedWorkdir resolvedDst
  return skillDstDir

/-- An attempt of a node, and the run and the organization it belongs to. -/
structure RunTuple where
  organizationId : Uuid
  runId : Uuid
  nodeId : String
  attemptCount : Option Nat
  deriving DecidableEq

namespace RunTuple
variable (t : RunTuple)

def input : RunInput :=
  { organizationId := t.organizationId.value, runId := some t.runId.value, nodeId := t.nodeId
    attemptCount := t.attemptCount }

def attempt : Nat := t.attemptCount.getD 1

def attemptName : Name := (toString t.attempt).toList

/-- The way of the node id: how far up, and then down by which names. -/
def route : Route Name := Route.ofMoves (moves t.nodeId.toList)

end RunTuple

/-- The root of all run directories. -/
def rootDirectory (env : Environment) : List Name :=
  directoryOf env.cwd.toList (resolveWorkdirRoot env)

def runNames (env : Environment) (t : RunTuple) : List Name :=
  t.runId.value.toList :: t.organizationId.value.toList :: rootDirectory env

def runDirectory (env : Environment) (t : RunTuple) : List Char :=
  resolve env.cwd.toList
    (join [resolveWorkdirRoot env, t.organizationId.value.toList, t.runId.value.toList])

def Ancestor (path other : List Char) : Prop := path ++ ['/'] <+: other

/-- The directories of two attempts do not touch, nor leave those of their runs. -/
structure Isolated (env : Environment) (t t' : RunTuple) : Prop where
  below : ∀ files path, resolveRunWorkdirHostPath env files t.input = .ok path →
    Ancestor (runDirectory env t) path
  below' : ∀ files path, resolveRunWorkdirHostPath env files t'.input = .ok path →
    Ancestor (runDirectory env t') path
  apart : t ≠ t' → ∀ files path, resolveRunWorkdirHostPath env files t.input = .ok path →
    ∀ files' path', resolveRunWorkdirHostPath env files' t'.input = .ok path' →
      path ≠ path' ∧ ¬ Ancestor path path' ∧ ¬ Ancestor path' path

/-- The node id leads back to the root, and the system takes it. -/
def Admitted (env : Environment) (t : RunTuple) : Prop :=
  (rootDirectory env).take (t.route.ups - 2) <:+ t.route.downs ∧
    ∀ name ∈ t.route.downs, nul ∉ name

instance (env : Environment) (t : RunTuple) : Decidable (Admitted env t) :=
  inferInstanceAs (Decidable ((rootDirectory env).take (t.route.ups - 2) <:+ t.route.downs ∧
    ∀ name ∈ t.route.downs, nul ∉ name))

/-- The node id leads back to the run, if it leaves it. -/
def StaysInRun (env : Environment) (t : RunTuple) : Prop :=
  (runNames env t).take t.route.ups <:+ t.route.downs

/-- The names the node id leads down by from the directory of the run. -/
def inRun (env : Environment) (t : RunTuple) : List Name := t.route.within (runNames env t)

structure SameRun (t t' : RunTuple) : Prop where
  organizationId : t.organizationId = t'.organizationId
  runId : t.runId = t'.runId

/-- Neither node id leads to an attempt of the other, nor both to one attempt. -/
structure NodesApart (env : Environment) (t t' : RunTuple) : Prop where
  different : ¬ (t.attempt = t'.attempt ∧ inRun env t = inRun env t')
  outside : ¬ t.attemptName :: inRun env t <:+ inRun env t'
  outside' : ¬ t'.attemptName :: inRun env t' <:+ inRun env t

/-! ### Names -/

section names
variable {env : Environment} {t : RunTuple}

theorem clean_of_plain {name : Name} (filled : name ≠ []) (dot : '.' ∉ name) (slash : '/' ∉ name) :
    Clean name := by
  refine ⟨?_, slash⟩
  unfold moveOf
  rw [if_neg, if_neg]
  · rintro rfl
    exact dot List.mem_cons_self
  · rintro (rfl | rfl)
    · exact filled rfl
    · exact dot List.mem_cons_self

theorem uuid_clean (id : Uuid) : Clean id.value.toList := by
  refine clean_of_plain id.ne_nil ?_ ?_
  all_goals
    intro mem
    have hex := id.isHex_of_mem mem (by decide)
    revert hex
    decide

theorem uuid_solid (id : Uuid) : nul ∉ id.value.toList := by
  intro mem
  have hex := id.isHex_of_mem mem (by decide)
  revert hex
  decide

theorem attempt_clean (t : RunTuple) : Clean t.attemptName := by
  refine clean_of_plain (toList_toString_ne_nil _) ?_ ?_
  all_goals
    intro mem
    have digit := isDigit_of_mem_toString mem
    revert digit
    decide

theorem attempt_solid (t : RunTuple) : nul ∉ t.attemptName := by
  intro mem
  have digit := isDigit_of_mem_toString mem
  revert digit
  decide

theorem attemptName_inj {t t' : RunTuple} :
    t.attemptName = t'.attemptName ↔ t.attempt = t'.attempt := by
  constructor
  · intro same
    exact toString_nat_inj (String.toList_inj.mp same)
  · intro same
    rw [RunTuple.attemptName, RunTuple.attemptName, same]

theorem isAbsolute_clean {name : Name} (clean : Clean name) : isAbsolute name = false := by
  refine decide_eq_false fun first => ?_
  obtain ⟨rest, rfl⟩ := List.head?_eq_some_iff.mp first
  exact clean.2 List.mem_cons_self

theorem root_clean : ∀ name ∈ rootDirectory env, Clean name := clean_directoryOf _ _

theorem runNames_clean : ∀ name ∈ runNames env t, Clean name := by
  intro name mem
  obtain rfl | rfl | root : name = t.runId.value.toList ∨ name = t.organizationId.value.toList ∨
      name ∈ rootDirectory env := by simpa [runNames] using mem
  · exact uuid_clean _
  · exact uuid_clean _
  · exact root_clean name root

theorem nul_not_mem_root : nul ∉ resolveWorkdirRoot env := by
  have raw : nul ∉ (env.workdirRoot.getD "~/.vespid/workdir").toList := by
    cases given : env.workdirRoot with
    | none => simp [nul]
    | some root => exact env.workdirRoot_solid root given
  intro mem
  unfold resolveWorkdirRoot resolveHome at mem
  split at mem
  · obtain ⟨part, listed, inside⟩ | slash | dot := mem_join mem
    · obtain rfl | rfl : part = env.homedir.toList ∨ part = _ := by simpa using listed
      · exact env.homedir_solid inside
      · exact raw (List.mem_of_mem_drop inside)
    · exact absurd slash (by decide)
    · exact absurd dot (by decide)
  · exact raw mem

theorem runNames_ne_nil : runNames env t ≠ [] := nofun

theorem runNames_solid : ∀ name ∈ runNames env t, nul ∉ name := by
  intro name mem
  obtain rfl | rfl | root : name = t.runId.value.toList ∨ name = t.organizationId.value.toList ∨
      name ∈ rootDirectory env := by simpa [runNames] using mem
  · exact uuid_solid _
  · exact uuid_solid _
  · intro inside
    obtain cwd | path := mem_directoryOf root inside
    · exact env.cwd_solid cwd
    · exact nul_not_mem_root path

end names

/-! ### The checks -/

section checks
variable {cwd : List Char} {names others : List Name}

theorem assertSubpath_text (clean : ∀ name ∈ names, Clean name)
    (clean' : ∀ name ∈ others, Clean name) (filled : others ≠ []) :
    assertSubpath cwd (text names) (text others) =
      if names <:+ others ∧ names ≠ others then .ok () else .error "WORKDIR_PATH_ESCAPE" := by
  have leading : (if (text names).getLast? = some '/' then text names else text names ++ ['/']) =
      if names = [] then ['/'] else text names ++ ['/'] := by
    by_cases root : names = []
    · subst root
      rfl
    · rw [if_neg root, if_neg (fun last => root ((text_last_iff clean).mp last))]
  unfold assertSubpath
  simp only [resolve_eq, directoryOf_text clean, directoryOf_text clean', leading,
    List.isPrefixOf_iff_prefix, text_prefix_iff clean clean' filled]

theorem ancestor_text (clean : ∀ name ∈ names, Clean name) (clean' : ∀ name ∈ others, Clean name)
    (filled : names ≠ []) (filled' : others ≠ []) :
    Ancestor (text names) (text others) ↔ names <:+ others ∧ names ≠ others := by
  have within := text_prefix_iff clean clean' filled'
  rwa [if_neg filled] at within

end checks

/-! ### The directory of an attempt -/

section directory
variable {env : Environment} {t t' : RunTuple} {files : FileSystem} {path : List Char}

/-- Where the node id leads to, from the directory of the run. -/
def nodeDirectory (env : Environment) (t : RunTuple) : List Name :=
  t.route.target (runNames env t)

def attemptDirectory (env : Environment) (t : RunTuple) : List Name :=
  t.attemptName :: nodeDirectory env t

theorem attemptDirectory_ne_nil : attemptDirectory env t ≠ [] := nofun

theorem directoryOf_workdir :
    directoryOf env.cwd.toList (join [resolveWorkdirRoot env, t.organizationId.value.toList,
      t.runId.value.toList, t.nodeId.toList, t.attemptName]) = attemptDirectory env t := by
  rw [directoryOf_join _ t.organizationId.ne_nil (isAbsolute_clean (uuid_clean _))]
  simp only [List.flatMap_cons, List.flatMap_nil, List.append_nil, walk_append,
    moves_clean (uuid_clean _), moves_clean (attempt_clean t)]
  rw [walk_eq _ (moves t.nodeId.toList)]
  rfl

theorem runDirectory_eq : runDirectory env t = text (runNames env t) := by
  rw [runDirectory, resolve_eq,
    directoryOf_join _ t.organizationId.ne_nil (isAbsolute_clean (uuid_clean _))]
  simp only [List.flatMap_cons, List.flatMap_nil, List.append_nil, walk_append,
    moves_clean (uuid_clean _)]
  rfl

theorem attemptDirectory_clean : ∀ name ∈ attemptDirectory env t, Clean name := by
  intro name mem
  rw [← directoryOf_workdir] at mem
  exact clean_directoryOf _ _ name mem

theorem resolveRunWorkdirHostPath_eq (env : Environment) (files : FileSystem) (t : RunTuple) :
    resolveRunWorkdirHostPath env files t.input =
      if rootDirectory env <:+ nodeDirectory env t then
        (files.mkdir (text (attemptDirectory env t))).map fun _ => text (attemptDirectory env t)
      else .error "WORKDIR_PATH_ESCAPE" := by
  have workdir := @directoryOf_workdir env t
  have checked := @assertSubpath_text env.cwd.toList _ _ (@root_clean env)
    (@attemptDirectory_clean env t) attemptDirectory_ne_nil
  simp only [attemptDirectory, below_cons_iff] at checked workdir ⊢
  unfold resolveRunWorkdirHostPath
  simp only [RunTuple.input, Option.getD_some]
  rw [resolve_eq, resolve_eq, ← RunTuple.attempt, ← RunTuple.attemptName, workdir,
    ← rootDirectory, checked]
  split
  · cases files.mkdir (text (t.attemptName :: nodeDirectory env t)) <;> rfl
  · rfl

theorem returned_iff : resolveRunWorkdirHostPath env files t.input = .ok path ↔
    rootDirectory env <:+ nodeDirectory env t ∧ files.mkdir path = .ok () ∧
      path = text (attemptDirectory env t) := by
  rw [resolveRunWorkdirHostPath_eq]
  split
  · next within =>
    constructor
    · intro returned
      cases made : files.mkdir (text (attemptDirectory env t)) with
      | error error =>
        rw [made] at returned
        cases returned
      | ok =>
        rw [made] at returned
        cases returned
        exact ⟨within, made, rfl⟩
    · rintro ⟨-, made, rfl⟩
      rw [made]
      rfl
  · next outside => exact iff_of_false nofun fun returned => outside returned.1

/-- The system takes the directory unless the node id holds what no text of it holds. -/
theorem nul_not_mem_attemptDirectory (solid : ∀ name ∈ t.route.downs, nul ∉ name) :
    nul ∉ text (attemptDirectory env t) := by
  rw [mem_text_iff (by decide)]
  rintro ⟨name, listed, inside⟩
  obtain rfl | listed := List.mem_cons.mp listed
  · exact attempt_solid t inside
  · obtain down | root := List.mem_append.mp listed
    · exact solid name down inside
    · exact runNames_solid name (List.mem_of_mem_drop root) inside

theorem within_root_iff : rootDirectory env <:+ nodeDirectory env t ↔
    (rootDirectory env).take (t.route.ups - 2) <:+ t.route.downs :=
  suffix_target_within_iff [t.runId.value.toList, t.organizationId.value.toList]

theorem within_run_iff : runNames env t <:+ nodeDirectory env t ↔ StaysInRun env t :=
  suffix_target_iff

/-- Only an admitted node id has a directory. -/
theorem admitted_of_returned
    (returned : resolveRunWorkdirHostPath env files t.input = .ok path) : Admitted env t := by
  obtain ⟨within, made, rfl⟩ := returned_iff.mp returned
  refine ⟨within_root_iff.mp within, fun name listed inside => ?_⟩
  refine files.nul_refused _ ?_ made
  rw [mem_text_iff (by decide)]
  exact ⟨name, List.mem_cons_of_mem _ (List.mem_append_left _ listed), inside⟩

/-- A system that refuses no more than it must. -/
def plainFiles : FileSystem where
  mkdir path := if nul ∈ path then .error "ERR_INVALID_ARG_VALUE" else .ok ()
  nul_refused path mem := by rw [if_pos mem]; exact nofun

theorem mkdir_plainFiles {path : List Char} (solid : nul ∉ path) :
    plainFiles.mkdir path = .ok () := if_neg solid

theorem returned_of_admitted (admitted : Admitted env t) :
    resolveRunWorkdirHostPath env plainFiles t.input = .ok (text (attemptDirectory env t)) := by
  refine returned_iff.mpr ⟨within_root_iff.mpr admitted.1, ?_, rfl⟩
  exact mkdir_plainFiles (nul_not_mem_attemptDirectory admitted.2)

/-- The directory of an attempt lies in that of its run exactly where the node id stays there. -/
theorem below_iff :
    Ancestor (runDirectory env t) (text (attemptDirectory env t)) ↔ StaysInRun env t := by
  rw [runDirectory_eq, ancestor_text runNames_clean attemptDirectory_clean runNames_ne_nil
    attemptDirectory_ne_nil, attemptDirectory, below_cons_iff, within_run_iff]

/-- Paths of two attempts do not touch where neither directory lies in the other. -/
theorem untouched_iff : (text (attemptDirectory env t) ≠ text (attemptDirectory env t') ∧
      ¬ Ancestor (text (attemptDirectory env t)) (text (attemptDirectory env t')) ∧
      ¬ Ancestor (text (attemptDirectory env t')) (text (attemptDirectory env t))) ↔
    ¬ attemptDirectory env t <:+ attemptDirectory env t' ∧
      ¬ attemptDirectory env t' <:+ attemptDirectory env t := by
  have clean := @attemptDirectory_clean env t
  have clean' := @attemptDirectory_clean env t'
  rw [ancestor_text clean clean' attemptDirectory_ne_nil attemptDirectory_ne_nil,
    ancestor_text clean' clean attemptDirectory_ne_nil attemptDirectory_ne_nil]
  constructor
  · intro ⟨different, outside, outside'⟩
    have apart : attemptDirectory env t ≠ attemptDirectory env t' :=
      fun same => different (congrArg text same)
    exact ⟨fun within => outside ⟨within, apart⟩, fun within => outside' ⟨within, apart.symm⟩⟩
  · intro ⟨outside, outside'⟩
    refine ⟨fun same => ?_, fun within => outside within.1, fun within => outside' within.1⟩
    rw [text_injective clean clean' same] at outside
    exact outside List.suffix_rfl

/-! ### Two attempts -/

/-- Directories that lie in those of two runs do not touch. -/
theorem sameRun_of_suffix (stays : StaysInRun env t) (stays' : StaysInRun env t')
    (within : attemptDirectory env t <:+ attemptDirectory env t') : SameRun t t' := by
  have run : runNames env t <:+ attemptDirectory env t' :=
    ((within_run_iff.mpr stays).trans (List.suffix_cons ..)).trans within
  have run' : runNames env t' <:+ attemptDirectory env t' :=
    (within_run_iff.mpr stays').trans (List.suffix_cons ..)
  have length : (runNames env t).length = (runNames env t').length := rfl
  have same : runNames env t = runNames env t' :=
    (List.suffix_of_suffix_length_le run run' length.le).eq_of_length length
  obtain ⟨runId, names⟩ := List.cons.inj same
  have organizationId := (List.cons.inj names).1
  constructor
  · obtain ⟨⟨_, _⟩, _⟩ := t
    obtain ⟨⟨_, _⟩, _⟩ := t'
    cases String.toList_inj.mp organizationId
    rfl
  · obtain ⟨_, ⟨_, _⟩, _⟩ := t
    obtain ⟨_, ⟨_, _⟩, _⟩ := t'
    cases String.toList_inj.mp runId
    rfl

theorem runNames_same (run : SameRun t t') : runNames env t = runNames env t' := by
  rw [runNames, runNames, run.organizationId, run.runId]

/-- In one run, what a node id leads to from the run's directory decides. -/
theorem suffix_iff_of_sameRun (run : SameRun t t') (stays : StaysInRun env t)
    (stays' : StaysInRun env t') : attemptDirectory env t <:+ attemptDirectory env t' ↔
      (t.attempt = t'.attempt ∧ inRun env t = inRun env t') ∨
        t.attemptName :: inRun env t <:+ inRun env t' := by
  have own : nodeDirectory env t = inRun env t ++ runNames env t := target_eq_within stays
  have own' : nodeDirectory env t' = inRun env t' ++ runNames env t' := target_eq_within stays'
  rw [attemptDirectory, attemptDirectory, own, own', runNames_same run, cons_suffix_append_iff,
    attemptName_inj]

theorem SameRun.symm (run : SameRun t t') : SameRun t' t :=
  ⟨run.organizationId.symm, run.runId.symm⟩

theorem nodesApart_iff (run : SameRun t t') (stays : StaysInRun env t)
    (stays' : StaysInRun env t') : NodesApart env t t' ↔
      ¬ attemptDirectory env t <:+ attemptDirectory env t' ∧
        ¬ attemptDirectory env t' <:+ attemptDirectory env t := by
  rw [suffix_iff_of_sameRun run stays stays', suffix_iff_of_sameRun run.symm stays' stays]
  constructor
  · intro apart
    constructor
    · rintro (⟨attempt, names⟩ | within)
      · exact apart.different ⟨attempt, names⟩
      · exact apart.outside within
    · rintro (⟨attempt, names⟩ | within)
      · exact apart.different ⟨attempt.symm, names.symm⟩
      · exact apart.outside' within
  · intro ⟨outside, outside'⟩
    exact ⟨fun same => outside (.inl same), fun within => outside (.inr within),
      fun within => outside' (.inr within)⟩

end directory

/-! ### Skills -/

section skills
variable {cwd skillId dst dst' path path' : List Char} {names : List Name}

/-- The files of a skill are staged in the directory of the attempt. -/
theorem staged_below (clean : ∀ name ∈ names, Clean name) (filled : names ≠ [])
    (staged : skillDirectory cwd (text names) skillId = .ok dst) :
    Ancestor (text names) (resolve cwd dst) := by
  have resolved {directory : List Name} (clean : ∀ name ∈ directory, Clean name) :
      resolve cwd (text directory) = text directory := by
    rw [resolve_eq, directoryOf_text clean]
  have again : resolve cwd (resolve cwd (join [join [text names, "skills".toList], skillId])) =
      resolve cwd (join [join [text names, "skills".toList], skillId]) := by
    have itself := resolved (clean_directoryOf cwd (join [join [text names, "skills".toList], skillId]))
    rwa [← resolve_eq] at itself
  unfold skillDirectory at staged
  cases checked : assertSubpath cwd (resolve cwd (text names))
      (resolve cwd (join [join [text names, "skills".toList], skillId])) with
  | error error =>
    simp only [checked] at staged
    cases staged
  | ok =>
    simp only [checked] at staged
    cases staged
    have last : (text names).getLast? ≠ some '/' :=
      fun last => filled ((text_last_iff clean).mp last)
    unfold assertSubpath at checked
    simp only [resolved clean, again, if_neg last, List.isPrefixOf_iff_prefix] at checked
    split at checked
    · next within => exact within
    · cases checked

/-- What is staged for two attempts that do not touch does not touch. -/
theorem staged_apart (below : Ancestor path dst) (below' : Ancestor path' dst')
    (apart : path ≠ path' ∧ ¬ Ancestor path path' ∧ ¬ Ancestor path' path) :
    dst ≠ dst' ∧ ¬ Ancestor dst dst' ∧ ¬ Ancestor dst' dst := by
  obtain ⟨different, outside, outside'⟩ := apart
  have meet {front front' : List Char} (within : front ++ ['/'] <+: front' ++ ['/']) :
      front = front' ∨ front ++ ['/'] <+: front' := by
    obtain same | inner := List.prefix_concat_iff.mp within
    · exact .inl (List.append_cancel_right same)
    · exact .inr inner
  have never {whole : List Char} (first : path ++ ['/'] <+: whole) :
      ¬ path' ++ ['/'] <+: whole := by
    intro second
    obtain forth | back := List.prefix_or_prefix_of_prefix first second
    · obtain same | inner := meet forth
      · exact different same
      · exact outside inner
    · obtain same | inner := meet back
      · exact different same.symm
      · exact outside' inner
  refine ⟨?_, fun within => ?_, fun within => ?_⟩
  · rintro rfl
    exact never below below'
  · exact never (below.trans ((List.prefix_append ..).trans within)) below'
  · exact never below (below'.trans ((List.prefix_append ..).trans within))

variable {env : Environment} {t t' : RunTuple} {files files' : FileSystem} {skillId' : List Char}

theorem skills_staged_apart (isolated : Isolated env t t') (different : t ≠ t')
    (returned : resolveRunWorkdirHostPath env files t.input = .ok path)
    (returned' : resolveRunWorkdirHostPath env files' t'.input = .ok path')
    (staged : skillDirectory cwd path skillId = .ok dst)
    (staged' : skillDirectory cwd path' skillId' = .ok dst') :
    resolve cwd dst ≠ resolve cwd dst' ∧ ¬ Ancestor (resolve cwd dst) (resolve cwd dst') ∧
      ¬ Ancestor (resolve cwd dst') (resolve cwd dst) := by
  have apart := isolated.apart different files path returned files' path' returned'
  obtain ⟨-, -, rfl⟩ := returned_iff.mp returned
  obtain ⟨-, -, rfl⟩ := returned_iff.mp returned'
  have below := staged_below attemptDirectory_clean attemptDirectory_ne_nil staged
  have below' := staged_below attemptDirectory_clean attemptDirectory_ne_nil staged'
  exact staged_apart below below' apart

end skills

/-- Two attempts are isolated if and only if no node id leads out of its run without leaving the
root, and, in one run, their node ids lead to directories that do not touch. -/
theorem run_directories_isolated (env : Environment) (t t' : RunTuple) :
    Isolated env t t' ↔
      (Admitted env t → StaysInRun env t) ∧ (Admitted env t' → StaysInRun env t') ∧
        (t ≠ t' → SameRun t t' → Admitted env t → Admitted env t' → NodesApart env t t') := by
  constructor
  · intro isolated
    have stays : Admitted env t → StaysInRun env t := fun admitted =>
      below_iff.mp (isolated.below _ _ (returned_of_admitted admitted))
    have stays' : Admitted env t' → StaysInRun env t' := fun admitted =>
      below_iff.mp (isolated.below' _ _ (returned_of_admitted admitted))
    refine ⟨stays, stays', fun different run admitted admitted' => ?_⟩
    rw [nodesApart_iff run (stays admitted) (stays' admitted'), ← untouched_iff]
    exact isolated.apart different _ _ (returned_of_admitted admitted) _ _
      (returned_of_admitted admitted')
  · intro ⟨stays, stays', apart⟩
    constructor
    · intro files path returned
      have admitted := admitted_of_returned returned
      rw [(returned_iff.mp returned).2.2]
      exact below_iff.mpr (stays admitted)
    · intro files path returned
      have admitted := admitted_of_returned returned
      rw [(returned_iff.mp returned).2.2]
      exact below_iff.mpr (stays' admitted)
    · intro different files path returned files' path' returned'
      have admitted := admitted_of_returned returned
      have admitted' := admitted_of_returned returned'
      rw [(returned_iff.mp returned).2.2, (returned_iff.mp returned').2.2, untouched_iff]
      by_cases run : SameRun t t'
      · exact (nodesApart_iff run (stays admitted) (stays' admitted')).mp
          (apart different run admitted admitted')
      · constructor
        · exact fun within => run (sameRun_of_suffix (stays admitted) (stays' admitted') within)
        · exact fun within =>
            run (sameRun_of_suffix (stays' admitted') (stays admitted) within).symm

/-! ### Another organization's run -/

section elsewhere
variable {env : Environment} {t other : RunTuple}

theorem toList_elsewhere
    (nodeId : t.nodeId = "../../" ++ other.organizationId.value ++ "/" ++ other.runId.value ++ "/" ++
      other.nodeId) :
    t.nodeId.toList = parent ++ '/' :: (parent ++ '/' :: (other.organizationId.value.toList ++
      '/' :: (other.runId.value.toList ++ '/' :: other.nodeId.toList))) := by
  rw [nodeId]
  simp [parent]

/-- Two levels up from the run's directory, any other run's is reached by its names. -/
theorem nodeDirectory_elsewhere
    (nodeId : t.nodeId = "../../" ++ other.organizationId.value ++ "/" ++ other.runId.value ++ "/" ++
      other.nodeId) : nodeDirectory env t = nodeDirectory env other := by
  unfold nodeDirectory RunTuple.route
  rw [← walk_eq, ← walk_eq, toList_elsewhere nodeId, moves_append, moves_append, moves_append,
    moves_append, moves_clean (uuid_clean _), moves_clean (uuid_clean _), walk_append, walk_append,
    walk_append, walk_append]
  rfl

theorem admitted_elsewhere
    (nodeId : t.nodeId = "../../" ++ other.organizationId.value ++ "/" ++ other.runId.value ++ "/" ++
      other.nodeId) (solid : nul ∉ other.nodeId.toList) (admitted : Admitted env other) :
    Admitted env t := by
  have all : nul ∉ t.nodeId.toList := by
    rw [toList_elsewhere nodeId]
    have organizationId := uuid_solid other.organizationId
    have runId := uuid_solid other.runId
    simp only [List.mem_append, List.mem_cons, organizationId, runId, solid, or_false, false_or]
    decide
  refine ⟨?_, fun name listed inside => all (mem_of_down (mem_downs listed) inside)⟩
  rw [← within_root_iff, nodeDirectory_elsewhere nodeId, within_root_iff]
  exact admitted.1

end elsewhere

def sampleEnvironment : Environment where
  workdirRoot := some "/w"
  homedir := "/h"
  cwd := "/"
  workdirRoot_solid := by simp [nul]
  homedir_solid := by simp [nul]
  cwd_solid := by simp [nul]

def firstId : Uuid := ⟨"5f0c1d2e-3b4a-4c5d-8e6f-7a8b9c0d1e2f", by decide +kernel⟩

def secondId : Uuid := ⟨"6a1b2c3d-4e5f-4a6b-9c7d-8e9f0a1b2c3d", by decide +kernel⟩

def victim : RunTuple where
  organizationId := firstId
  runId := secondId
  nodeId := "build"
  attemptCount := some 1

def intruder : RunTuple where
  organizationId := secondId
  runId := firstId
  nodeId := "../../" ++ firstId.value ++ "/" ++ secondId.value ++ "/" ++ "build"
  attemptCount := none

theorem organizations_share_directory : ¬ Isolated sampleEnvironment intruder victim := by
  intro isolated
  have own : Admitted sampleEnvironment victim := by decide +kernel
  have nodeId : intruder.nodeId = "../../" ++ victim.organizationId.value ++ "/" ++
      victim.runId.value ++ "/" ++ victim.nodeId := rfl
  have other : Admitted sampleEnvironment intruder :=
    admitted_elsewhere nodeId (by decide +kernel) own
  have different : intruder ≠ victim := by
    intro same
    cases congrArg (·.attemptCount) same
  have shared : attemptDirectory sampleEnvironment intruder =
      attemptDirectory sampleEnvironment victim :=
    congrArg (intruder.attemptName :: ·) (nodeDirectory_elsewhere nodeId)
  exact (isolated.apart different _ _ (returned_of_admitted other) _ _
    (returned_of_admitted own)).1 (congrArg text shared)

end Vespid.NodeAgent.Workdir
