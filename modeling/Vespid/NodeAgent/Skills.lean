import Vespid.NodeAgent.AgentRun
import Vespid.NodeAgent.Sandbox
import Vespid.NodeAgent.Workdir

/-!
# Skills

A skill is a directory with a manifest that names its entrypoint. The loader checks where the
entrypoint leads to in the directory of the skill, and a run checks it again where it has put the
files of the skill.
-/

namespace Vespid.NodeAgent.Skills

open Paths NodeAgent.Path Workdir Workflow
open AgentRuntime (Host optional isOneOf isInteger isText isList safeTruncate)
open AgentRun (textField natField)
open Sandbox (Backend NetworkMode ExecuteShellTaskContext SandboxExecuteResult)

/-! ### Manifests -/

def isIdStart (c : Char) : Bool := c.isLower || c.isDigit

/-- `^[a-z0-9][a-z0-9-_]{0,63}$` -/
def skillIdSchema (id : String) : Bool :=
  match id.toList with
  | [] => false
  | first :: rest =>
    isIdStart first && rest.all (fun c => isIdStart c || c = '-' || c = '_') && rest.length ≤ 63

def isSafeRelativePath (p : List Char) : Bool :=
  p ≠ [] && !isAbsolute p &&
    !(parent.isPrefixOf (Path.normalize p) || occursIn (parent ++ ['/']) (Path.normalize p))

inductive Runtime where
  | shell
  | node
  deriving DecidableEq

inductive OutputMode where
  | text
  | json
  deriving DecidableEq

/-- The fields of a manifest's `sandbox`. -/
structure SkillSandbox where
  backend : Option String
  network : Option NetworkMode
  timeoutMs : Option Nat
  image : Option String
  envPassthroughAllowlist : Option (List String)

structure SkillManifest where
  id : String
  version : String
  description : String
  entrypoint : String
  runtime : Runtime
  inputSchema : List (String × Json)
  outputMode : OutputMode
  sandbox : SkillSandbox

def readNetwork (fields : List (String × Json)) : Option NetworkMode :=
  match textField fields "network" with
  | some "none" => some .none
  | some "enabled" => some .enabled
  | _ => none

def readRuntime (fields : List (String × Json)) : Option Runtime :=
  match textField fields "runtime" with
  | some "shell" => some .shell
  | some "node" => some .node
  | _ => none

def readInputSchema (fields : List (String × Json)) : Option (List (String × Json)) :=
  match fields.lookup "inputSchema" with
  | some (.obj schema) => some schema
  | _ => none

def readOutputMode (fields : List (String × Json)) : Option OutputMode :=
  match textField fields "outputMode" with
  | some "text" => some .text
  | some "json" => some .json
  | _ => none

def textsOf : Option Json → Option (List String)
  | some (.arr items) => some (items.filterMap fun | .str s => some s | _ => none)
  | _ => none

def isImage : Json → Bool
  | .obj fields => optional fields "image" (isText 1 200)
  | _ => false

/-- The schema of `sandbox`, which is an empty object where there is none. -/
def skillSandboxSchema : Option Json → Option SkillSandbox
  | none => some
    { backend := none, network := none, timeoutMs := none, image := none
      envPassthroughAllowlist := none }
  | some (.obj fields) =>
    if optional fields "backend" (isOneOf ["docker", "host", "provider"]) &&
        optional fields "network" (isOneOf ["none", "enabled"]) &&
        optional fields "timeoutMs" (isInteger 1000 600000) &&
        optional fields "docker" isImage &&
        optional fields "envPassthroughAllowlist" (isList 50 (isText 1 120)) then
      some
        { backend := textField fields "backend", network := readNetwork fields
          timeoutMs := natField fields "timeoutMs"
          image := match fields.lookup "docker" with
            | some (.obj docker) => textField docker "image"
            | _ => none
          envPassthroughAllowlist := textsOf (fields.lookup "envPassthroughAllowlist") }
    else none
  | some _ => none

def skillManifestSchema : Json → Option SkillManifest
  | .obj fields => do
    let id ← (textField fields "id").filter skillIdSchema
    let version ← (textField fields "version").filter (stringBetween 1 64)
    let description ← (textField fields "description").filter (stringBetween 1 2000)
    let entrypoint ← (textField fields "entrypoint").filter fun p =>
      stringBetween 1 200 p && isSafeRelativePath p.toList
    let runtime ← readRuntime fields
    let inputSchema ← readInputSchema fields
    let outputMode ← readOutputMode fields
    let sandbox ← skillSandboxSchema (fields.lookup "sandbox")
    some { id, version, description, entrypoint, runtime, inputSchema, outputMode, sandbox }
  | _ => none

/-! ### The loader -/

structure Dirent where
  name : String
  isDirectory : Bool

/-- What is read of the file system. -/
structure SkillFiles where
  readdir : List Char → Option (List Dirent)
  readFile : List Char → Option String

structure LoadedSkill where
  id : String
  dirPath : List Char
  manifest : SkillManifest
  doc : Option String

/-- `path.resolve` of two paths. -/
def resolveFrom (cwd dir path : List Char) : List Char :=
  resolve cwd (if isAbsolute path ∨ dir = [] then path else dir ++ '/' :: path)

section loader
variable (host : Host) (files : SkillFiles) (cwd skillsDir : List Char)

def safeReadText (filePath : List Char) (maxChars : Nat) : Option String :=
  (files.readFile filePath).map (safeTruncate host · maxChars)

/-- The skill of an entry of the directory, unless the loader passes over it. -/
def loadSkill (maxDocChars : Nat) (entry : Dirent) : Option LoadedSkill :=
  if !entry.isDirectory || !skillIdSchema entry.name then none
  else
    let dirPath := join [skillsDir, entry.name.toList]
    let resolvedDir := resolve cwd dirPath
    match assertSubpath cwd (resolve cwd skillsDir) resolvedDir with
    | .error _ => none
    | .ok () => do
      let manifestRaw ← files.readFile (join [dirPath, "skill.json".toList])
      let manifestJson ← host.parse manifestRaw.toList
      let manifest ← skillManifestSchema manifestJson
      if manifest.id ≠ entry.name then none
      else
        match assertSubpath cwd resolvedDir
            (resolveFrom cwd dirPath manifest.entrypoint.toList) with
        | .error _ => none
        | .ok () =>
          return {
            id := manifest.id, dirPath, manifest
            doc := safeReadText host files (join [dirPath, "SKILL.md".toList]) maxDocChars }

def loadSkillsRegistry (maxDocChars : Option Int) : List (String × LoadedSkill) :=
  let maxDocChars := (max 0 (min 500000 (maxDocChars.getD 200000))).toNat
  ((files.readdir skillsDir).getD []).foldl (fun skills entry =>
    match loadSkill host files cwd skillsDir maxDocChars entry with
    | some skill => OrderedMap.set skills skill.id skill
    | none => skills) []

end loader

/-! ### Running a skill -/

/-- What a run of a skill does to the file system, and the sandbox. -/
structure SkillWorld where
  /-- Remove the target and copy the directory there; it may fail with a message. -/
  stage : List Char → List Char → Except String Unit
  writeFile : List Char → String → Except String Unit
  executeShellTask : Option String → String → ExecuteShellTaskContext → SandboxExecuteResult
  run : FileSystem

structure SkillRun where
  tuple : RunTuple
  userId : String
  workflowId : String

inductive SkillOutput where
  | task (output : Sandbox.Output)
  | json (value : Json)

inductive SkillResult where
  | succeeded (output : SkillOutput)
  | failed (error : String) (output : Option Sandbox.Output)

section run
variable (host : Host) (textOf : Sandbox.Text → List Char) (world : SkillWorld)

/-- The arguments against the schema of the manifest. -/
def checkArgs (manifest : SkillManifest) (args : Option Json) : Except String Unit :=
  match host.validates (.obj manifest.inputSchema) args with
  | none => .error "INVALID_JSON_SCHEMA"
  | some false => .error "INVALID_SKILL_INPUT"
  | some true => .ok ()

def Runtime.command (entrypointPath : List Char) : Runtime → List Char
  | .node => "node \"".toList ++ entrypointPath ++ ['"']
  | .shell => "sh \"".toList ++ entrypointPath ++ ['"']

def taskEnv (skill : LoadedSkill) (run : SkillRun) (inputPath : List Char) : Sandbox.Vars :=
  [("VESPID_SKILL_ID", skill.id), ("VESPID_ORG_ID", run.tuple.organizationId.value),
    ("VESPID_USER_ID", run.userId), ("VESPID_RUN_ID", run.tuple.runId.value),
    ("VESPID_WORKFLOW_ID", run.workflowId), ("VESPID_NODE_ID", run.tuple.nodeId),
    ("VESPID_SKILL_INPUT_PATH", String.ofList inputPath)]

def taskOf (skill : LoadedSkill) (run : SkillRun) (inputPath entrypointPath : List Char) :
    ExecuteShellTaskContext where
  script := String.ofList ("cat \"".toList ++ inputPath ++ "\" | ".toList ++
    skill.manifest.runtime.command entrypointPath)
  shell := .sh
  taskEnv := taskEnv skill run inputPath
  networkMode := skill.manifest.sandbox.network
  timeoutMs := skill.manifest.sandbox.timeoutMs
  dockerImage := skill.manifest.sandbox.image
  envPassthroughAllowlist := skill.manifest.sandbox.envPassthroughAllowlist.getD []

/-- What the task's result is worth in the skill's output mode. -/
def outcome (manifest : SkillManifest) : SandboxExecuteResult → SkillResult
  | .failed error output => .failed error output
  | .succeeded output =>
    match manifest.outputMode with
    | .text => .succeeded (.task output)
    | .json =>
      match host.parse (textOf output.stdout) with
      | some value => .succeeded (.json value)
      | none => .failed "SKILL_OUTPUT_INVALID_JSON" (some output)

/-- The task of a skill whose files and input are in place. -/
def runEntrypoint (skill : LoadedSkill) (run : SkillRun) (inputPath entrypointPath : List Char) :
    SkillResult :=
  outcome host textOf skill.manifest (world.executeShellTask skill.manifest.sandbox.backend
    (run.tuple.runId.value ++ ":" ++ run.tuple.nodeId ++ ":skill:" ++ skill.id)
    (taskOf skill run inputPath entrypointPath))

/-- `executeSkill`; an error is one it throws. -/
def executeSkill (env : Environment) (skill : LoadedSkill) (args : Option Json) (run : SkillRun) :
    Except String SkillResult :=
  match checkArgs host skill.manifest args with
  | .error error => .ok (.failed error none)
  | .ok () => do
    let workdir ← resolveRunWorkdirHostPath env world.run run.tuple.input
    let skillDstDir ← skillDirectory env.cwd.toList workdir skill.id.toList
    match world.stage skill.dirPath skillDstDir with
    | .error error => return .failed error none
    | .ok () =>
      let inputPath := join [skillDstDir, "input.json".toList]
      world.writeFile inputPath (host.stringify (args.getD .null))
      let entrypointPath := resolveFrom env.cwd.toList skillDstDir skill.manifest.entrypoint.toList
      match assertSubpath env.cwd.toList (resolve env.cwd.toList skillDstDir) entrypointPath with
      | .error _ => return .failed "SKILL_ENTRYPOINT_INVALID" none
      | .ok () => return runEntrypoint host textOf world skill run inputPath entrypointPath

end run

/-! ### Where paths lead to -/

section paths
variable {cwd dir p : List Char}

theorem skillId_clean {id : String} (valid : skillIdSchema id = true) : Clean id.toList := by
  unfold skillIdSchema at valid
  cases name : id.toList with
  | nil =>
    rw [name] at valid
    cases valid
  | cons first rest =>
    rw [name] at valid
    simp only [Bool.and_eq_true, List.all_eq_true] at valid
    obtain ⟨⟨start, others⟩, -⟩ := valid
    refine clean_of_plain nofun ?_ ?_
    all_goals
      intro mem
      obtain rfl | later := List.mem_cons.mp mem
      · revert start
        decide
      · have plain := others _ later
        revert plain
        decide

/-- A path that passes the check does not lead up. -/
theorem ups_of_safe (safe : isSafeRelativePath p = true) :
    isAbsolute p = false ∧ (Route.ofMoves (moves p)).ups = 0 := by
  simp only [isSafeRelativePath, Bool.and_eq_true, Bool.not_eq_true', Bool.or_eq_false_iff,
    decide_eq_true_eq] at safe
  obtain ⟨⟨filled, relative⟩, inside, -⟩ := safe
  refine ⟨relative, ?_⟩
  by_contra up
  obtain ⟨n, ups⟩ := Nat.exists_eq_succ_of_ne_zero up
  have first : ∃ rest, normalizeString p (!isAbsolute p) = parent ++ rest := by
    unfold normalizeString
    dsimp only
    rw [relative, ups]
    simp only [Bool.not_false, if_true, List.replicate_succ, List.cons_append]
    cases List.replicate n parent ++ (Route.ofMoves (moves p)).downs.reverse with
    | nil => exact ⟨[], rfl⟩
    | cons second others => exact ⟨_, by rw [joined, List.intercalate_cons_cons, List.append_assoc]⟩
  obtain ⟨rest, starts⟩ := first
  have leads : parent.isPrefixOf (Path.normalize p) = true := by
    rw [List.isPrefixOf_iff_prefix, Path.normalize, if_neg filled]
    dsimp only
    rw [starts, if_neg (by simp [parent]), relative]
    exact ⟨rest ++ if p.getLast? = some '/' then ['/'] else [], by simp⟩
  rw [leads] at inside
  cases inside

/-- Where a safe path leads to, from a directory. -/
theorem directoryOf_entrypoint (safe : isSafeRelativePath p = true) (cwd dir : List Char) :
    resolveFrom cwd dir p = text ((Route.ofMoves (moves p)).downs ++ directoryOf cwd dir) := by
  obtain ⟨relative, ups⟩ := ups_of_safe safe
  have from_ : directoryOf cwd (if isAbsolute p ∨ dir = [] then p else dir ++ '/' :: p) =
      walk (directoryOf cwd dir) (moves p) := by
    by_cases blank : dir = []
    · subst blank
      rw [if_pos (.inr rfl), directoryOf, directoryOf, relative]
      rfl
    · have same : isAbsolute (dir ++ '/' :: p) = isAbsolute dir := by
        obtain ⟨c, rest, rfl⟩ := List.exists_cons_of_ne_nil blank
        rfl
      rw [if_neg (by simp [relative, blank]), directoryOf, same, moves_append, walk_append]
      rfl
  rw [resolveFrom, resolve_eq, from_, walk_eq, Route.target, ups, List.drop_zero]

/-- The entrypoint passes the check where it leads to a name. -/
theorem assertSubpath_entrypoint (cwd dir : List Char) (safe : isSafeRelativePath p = true)
    (filled : directoryOf cwd dir ≠ []) :
    assertSubpath cwd (resolve cwd dir) (resolveFrom cwd dir p) =
      if (Route.ofMoves (moves p)).downs ≠ [] then .ok () else .error "WORKDIR_PATH_ESCAPE" := by
  have clean : ∀ name ∈ (Route.ofMoves (moves p)).downs ++ directoryOf cwd dir, Clean name := by
    intro name mem
    obtain down | below := List.mem_append.mp mem
    · exact clean_of_mem_downs down
    · exact clean_directoryOf cwd dir name below
  rw [directoryOf_entrypoint safe, resolve_eq, assertSubpath_text (clean_directoryOf cwd dir) clean
    (by simp [filled])]
  simp

theorem directoryOf_child {name : Name} (clean : Clean name) (cwd dir : List Char) :
    directoryOf cwd (join [dir, name]) = name :: directoryOf cwd dir := by
  rw [directoryOf_join [] clean.ne_nil (isAbsolute_clean clean), List.flatMap_cons,
    List.flatMap_nil, List.append_nil, moves_clean clean]
  rfl

end paths

/-! ### What is loaded -/

section loaded
variable {host : Host} {files : SkillFiles} {cwd skillsDir : List Char} {skill other : LoadedSkill}

/-- The names from the directory of a skill to its entrypoint, innermost first. -/
def entrypointNames (skill : LoadedSkill) : List Name :=
  (Route.ofMoves (moves skill.manifest.entrypoint.toList)).downs

/-- What the loader has checked of a skill. -/
structure Checked (skillsDir : List Char) (skill : LoadedSkill) : Prop where
  id : skillIdSchema skill.id = true
  dirPath : skill.dirPath = join [skillsDir, skill.id.toList]
  safe : isSafeRelativePath skill.manifest.entrypoint.toList = true
  inside : entrypointNames skill ≠ []

theorem safe_of_manifest {json : Json} {manifest : SkillManifest}
    (parsed : skillManifestSchema json = some manifest) :
    isSafeRelativePath manifest.entrypoint.toList = true := by
  cases json with
  | obj fields =>
    simp only [skillManifestSchema, Option.bind_eq_bind, Option.bind_eq_some_iff,
      Option.some.injEq] at parsed
    obtain ⟨id, -, version, -, description, -, entrypoint, read, runtime, -, schema, -, mode, -,
      sandbox, -, rfl⟩ := parsed
    have valid := (Option.filter_eq_some_iff.mp read).2
    rw [Bool.and_eq_true] at valid
    exact valid.2
  | null | bool | num | str | arr => cases parsed

theorem loadSkill_checked {maxDocChars : Nat} {entry : Dirent}
    (loaded : loadSkill host files cwd skillsDir maxDocChars entry = some skill) :
    Checked skillsDir skill := by
  unfold loadSkill at loaded
  split at loaded
  · cases loaded
  next named =>
  simp only [Bool.or_eq_true, Bool.not_eq_true', not_or, Bool.not_eq_false] at named
  dsimp only at loaded
  split at loaded
  · cases loaded
  next =>
  simp only [Option.bind_eq_bind, Option.bind_eq_some_iff] at loaded
  obtain ⟨raw, -, json, -, manifest, parsed, loaded⟩ := loaded
  split at loaded
  · cases loaded
  next same =>
  rw [ne_eq, not_not] at same
  split at loaded
  · cases loaded
  next checked =>
  cases loaded
  have safe := safe_of_manifest parsed
  have clean := skillId_clean named.2
  have directory := directoryOf_child clean cwd skillsDir
  rw [assertSubpath_entrypoint _ _ safe (by rw [directory]; exact nofun)] at checked
  refine ⟨same ▸ named.2, by rw [same], safe, fun outside => ?_⟩
  have stays : (Route.ofMoves (moves manifest.entrypoint.toList)).downs = [] := outside
  rw [stays, if_neg (not_not.mpr rfl)] at checked
  cases checked

theorem registry_checked {maxDocChars : Option Int} {id : String}
    (loaded : (loadSkillsRegistry host files cwd skillsDir maxDocChars).lookup id = some skill) :
    skill.id = id ∧ Checked skillsDir skill := by
  unfold loadSkillsRegistry at loaded
  dsimp only at loaded
  generalize (files.readdir skillsDir).getD [] = entries at loaded
  induction entries using List.reverseRecOn with
  | nil => cases loaded
  | append_singleton entries entry ih =>
    rw [List.foldl_append, List.foldl_cons, List.foldl_nil] at loaded
    split at loaded
    · next found =>
      rw [OrderedMap.lookup_set] at loaded
      split at loaded
      · next same =>
        cases loaded
        exact ⟨same.symm, loadSkill_checked found⟩
      · exact ih loaded
    · exact ih loaded

variable {maxDocChars : Option Int} {id id' : String}

theorem Checked.directory (checked : Checked skillsDir skill) (cwd : List Char) :
    directoryOf cwd skill.dirPath = skill.id.toList :: directoryOf cwd skillsDir := by
  rw [checked.dirPath, directoryOf_child (skillId_clean checked.id)]

/-- The directory of a loaded skill is one below the directory of the skills, and of the
entrypoints of the loaded skills it holds the skill's own and no other. -/
theorem loaded_apart
    (loaded : (loadSkillsRegistry host files cwd skillsDir maxDocChars).lookup id = some skill)
    (loaded' : (loadSkillsRegistry host files cwd skillsDir maxDocChars).lookup id' = some other) :
    resolve cwd skill.dirPath = text (id.toList :: directoryOf cwd skillsDir) ∧
      (Ancestor (resolve cwd skill.dirPath)
        (resolveFrom cwd other.dirPath other.manifest.entrypoint.toList) ↔ id = id') := by
  obtain ⟨rfl, checked⟩ := registry_checked loaded
  obtain ⟨rfl, checked'⟩ := registry_checked loaded'
  have directory := checked.directory cwd
  have clean : ∀ name ∈ entrypointNames other ++ directoryOf cwd other.dirPath, Clean name := by
    intro name mem
    obtain down | below := List.mem_append.mp mem
    · exact clean_of_mem_downs down
    · exact clean_directoryOf cwd _ name below
  refine ⟨by rw [resolve_eq, directory], ?_⟩
  rw [resolve_eq, directoryOf_entrypoint checked'.safe, ← entrypointNames,
    ancestor_text (clean_directoryOf cwd _) clean (by rw [directory]; exact nofun)
      (by simp [checked'.inside]), directory, checked'.directory cwd]
  constructor
  · rintro ⟨within, -⟩
    have own : other.id.toList :: directoryOf cwd skillsDir <:+
        entrypointNames other ++ other.id.toList :: directoryOf cwd skillsDir :=
      List.suffix_append ..
    have same := (List.suffix_of_suffix_length_le within own (by simp)).eq_of_length (by simp)
    exact String.toList_inj.mp (List.cons.inj same).1
  · intro same
    rw [same]
    refine ⟨List.suffix_append .., fun all => checked'.inside ?_⟩
    exact List.self_eq_append_left.mp all

/-- The text of a manifest. -/
def helloText : String :=
  "\x7b\"id\":\"hello\",\"version\":\"1.0.0\",\"description\":\"Hello\"," ++
  "\"entrypoint\":\"bin/run.sh\",\"runtime\":\"shell\",\"inputSchema\":\x7b\x7d," ++
  "\"outputMode\":\"text\"\x7d"

def helloManifest : Json :=
  .obj [("id", .str "hello"), ("version", .str "1.0.0"), ("description", .str "Hello"),
    ("entrypoint", .str "bin/run.sh"), ("runtime", .str "shell"), ("inputSchema", .obj []),
    ("outputMode", .str "text")]

/-- Reads the manifest, and writes null. -/
def helloHost : Host where
  stringify := fun _ => "null"
  parse := fun _ => some helloManifest
  slice text count := String.ofList (text.toList.take count)
  asText := fun _ => "null"
  isUuid := isUuid
  validates := fun _ _ => some true

def helloFiles : SkillFiles where
  readdir := fun _ => some [⟨"hello", true⟩, ⟨"..", true⟩]
  readFile path := if path = "/skills/hello/skill.json".toList then some helloText else none

theorem loaded_apart_hello : ∃ skill,
    (loadSkillsRegistry helloHost helloFiles "/".toList "/skills".toList none).lookup "hello" =
      some skill ∧
    resolve "/".toList skill.dirPath = text ("hello".toList :: directoryOf "/".toList
      "/skills".toList) ∧
    (Ancestor (resolve "/".toList skill.dirPath) (resolveFrom "/".toList skill.dirPath
      skill.manifest.entrypoint.toList) ↔ "hello" = "hello") := by
  have listed : ((loadSkillsRegistry helloHost helloFiles "/".toList "/skills".toList none).lookup
      "hello").isSome = true := by decide
  obtain ⟨skill, loaded⟩ := Option.isSome_iff_exists.mp listed
  exact ⟨skill, loaded, loaded_apart loaded loaded⟩

/-! ### What is run -/

theorem skills_clean : Clean "skills".toList := ⟨rfl, by decide⟩

theorem directoryOf_staged (cwd : List Char) {names : List Name}
    (clean : ∀ name ∈ names, Clean name) (checked : Checked skillsDir skill) :
    directoryOf cwd (join [join [text names, "skills".toList], skill.id.toList]) =
      skill.id.toList :: "skills".toList :: names := by
  rw [directoryOf_child (skillId_clean checked.id), directoryOf_child skills_clean,
    directoryOf_text clean]

/-- A skill the loader has checked is staged in every directory. -/
theorem skillDirectory_checked {names : List Name} (clean : ∀ name ∈ names, Clean name)
    (checked : Checked skillsDir skill) : skillDirectory cwd (text names) skill.id.toList =
      .ok (join [join [text names, "skills".toList], skill.id.toList]) := by
  have staged := directoryOf_staged cwd clean checked
  have cleanStaged := clean_directoryOf cwd
    (join [join [text names, "skills".toList], skill.id.toList])
  rw [staged] at cleanStaged
  have below : names <:+ skill.id.toList :: "skills".toList :: names ∧
      names ≠ skill.id.toList :: "skills".toList :: names := by
    refine ⟨List.suffix_append [_, _] names, fun same => ?_⟩
    have longer := congrArg List.length same
    simp only [List.length_cons] at longer
    omega
  unfold skillDirectory
  dsimp only
  rw [resolve_eq, resolve_eq, directoryOf_text clean, staged,
    assertSubpath_text clean cleanStaged nofun, if_pos below]
  rfl

variable {textOf : Sandbox.Text → List Char} {world : SkillWorld} {env : Environment}

/-- A run of a loaded skill fails on its arguments, in staging or in its task: its entrypoint leads
to the same place among the staged files as among those of the loader. -/
theorem executeSkill_loaded {run : SkillRun} {workdir : List Char}
    (loaded : (loadSkillsRegistry host files env.cwd.toList skillsDir maxDocChars).lookup id =
      some skill)
    (returned : resolveRunWorkdirHostPath env world.run run.tuple.input = .ok workdir)
    (args : Option Json) : ∃ inner ≠ [],
      resolveFrom env.cwd.toList skill.dirPath skill.manifest.entrypoint.toList =
        text (inner ++ id.toList :: directoryOf env.cwd.toList skillsDir) ∧
      let staged := join [join [workdir, "skills".toList], id.toList]
      let inputPath := join [staged, "input.json".toList]
      executeSkill host textOf world env skill args run =
        match checkArgs host skill.manifest args with
        | .error error => .ok (.failed error none)
        | .ok () =>
          match world.stage skill.dirPath staged with
          | .error error => .ok (.failed error none)
          | .ok () => (world.writeFile inputPath (host.stringify (args.getD .null))).map fun _ =>
            runEntrypoint host textOf world skill run inputPath
              (text (inner ++ id.toList :: "skills".toList :: attemptDirectory env run.tuple)) := by
  obtain ⟨rfl, checked⟩ := registry_checked loaded
  obtain ⟨-, -, rfl⟩ := returned_iff.mp returned
  refine ⟨entrypointNames skill, checked.inside, ?_, ?_⟩
  · rw [directoryOf_entrypoint checked.safe, checked.directory, entrypointNames]
  have staged := directoryOf_staged env.cwd.toList
    (@attemptDirectory_clean env run.tuple) checked
  have entered := assertSubpath_entrypoint env.cwd.toList
    (join [join [text (attemptDirectory env run.tuple), "skills".toList], skill.id.toList])
    checked.safe (by rw [staged]; exact nofun)
  rw [← entrypointNames, if_pos checked.inside] at entered
  unfold executeSkill
  cases checkArgs host skill.manifest args with
  | error error => rfl
  | ok =>
    simp only [returned, skillDirectory_checked attemptDirectory_clean checked, bind, Except.bind]
    cases world.stage skill.dirPath (join [join [text (attemptDirectory env run.tuple),
        "skills".toList], skill.id.toList]) with
    | error error => rfl
    | ok =>
      dsimp only
      rw [directoryOf_entrypoint checked.safe, staged, ← entrypointNames] at entered ⊢
      rw [entered]
      cases world.writeFile (join [join [join [text (attemptDirectory env run.tuple),
        "skills".toList], skill.id.toList], "input.json".toList])
          (host.stringify (args.getD .null)) <;> rfl

end loaded

/-- A file system on which everything works, and a sandbox that does nothing. -/
def helloWorld : SkillWorld where
  stage := fun _ _ => .ok ()
  writeFile := fun _ _ => .ok ()
  executeShellTask := fun _ _ _ => .succeeded
    { backend := .host, exitCode := some 0, timedOut := false, stdout := [], stderr := []
      stdoutTruncated := false, stderrTruncated := false }
  run := plainFiles

def helloRun : SkillRun where
  tuple := victim
  userId := firstId.value
  workflowId := secondId.value

theorem executeSkill_loaded_hello : ∃ skill workdir,
    resolveRunWorkdirHostPath sampleEnvironment helloWorld.run helloRun.tuple.input =
      .ok workdir ∧
    ∃ inner ≠ [],
      resolveFrom sampleEnvironment.cwd.toList skill.dirPath skill.manifest.entrypoint.toList =
        text (inner ++ "hello".toList :: directoryOf sampleEnvironment.cwd.toList
          "/skills".toList) ∧
      let staged := join [join [workdir, "skills".toList], "hello".toList]
      let inputPath := join [staged, "input.json".toList]
      executeSkill helloHost (fun _ => []) helloWorld sampleEnvironment skill none helloRun =
        match checkArgs helloHost skill.manifest none with
        | .error error => .ok (.failed error none)
        | .ok () =>
          match helloWorld.stage skill.dirPath staged with
          | .error error => .ok (.failed error none)
          | .ok () => (helloWorld.writeFile inputPath "null").map fun _ =>
            runEntrypoint helloHost (fun _ => []) helloWorld skill helloRun inputPath
              (text (inner ++ "hello".toList :: "skills".toList ::
                attemptDirectory sampleEnvironment victim)) := by
  have listed : ((loadSkillsRegistry helloHost helloFiles sampleEnvironment.cwd.toList
      "/skills".toList none).lookup "hello").isSome = true := by decide
  obtain ⟨skill, loaded⟩ := Option.isSome_iff_exists.mp listed
  have admitted : Admitted sampleEnvironment victim := by decide
  have returned : resolveRunWorkdirHostPath sampleEnvironment helloWorld.run
      helloRun.tuple.input = _ := returned_of_admitted admitted
  exact ⟨skill, _, returned, executeSkill_loaded loaded returned none⟩

end Vespid.NodeAgent.Skills
