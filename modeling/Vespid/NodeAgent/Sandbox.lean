import Vespid.Gateway.Client
import Vespid.Lib.OrderedMap

/-!
# Shell tasks

An executor runs the script of a task in a child process, on the host or in a container. The child
gets the variables it may have, and its output comes in chunks until it ends.
-/

namespace Vespid.NodeAgent.Sandbox

/-! ### The variables of a task -/

abbrev Vars := List (String × String)

/-- `process.env` -/
abbrev ProcessEnv := String → Option String

/-- A value a task may get: there, and not empty. -/
def passed (processEnv : ProcessEnv) (key : String) : Option String :=
  (processEnv key).filter (· ≠ "")

def minimalKeys : List String := ["PATH", "HOME", "USER", "TMPDIR", "LANG", "LC_ALL"]

/-- Write the passed values of the keys, in order. -/
def passThrough (processEnv : ProcessEnv) (keys : List String) (env : Vars) : Vars :=
  keys.foldl (fun env key =>
    match passed processEnv key with
    | some value => OrderedMap.set env key value
    | none => env) env

def buildMinimalHostEnv (processEnv : ProcessEnv) : Vars := passThrough processEnv minimalKeys []

inductive NetworkMode where
  | none
  | enabled
  deriving DecidableEq

inductive Shell where
  | sh
  | bash
  deriving DecidableEq

structure ExecuteShellTaskContext where
  script : String
  shell : Shell
  taskEnv : Vars
  networkMode : Option NetworkMode
  timeoutMs : Option Nat
  dockerImage : Option String
  envPassthroughAllowlist : List String

/-- The keys of the allowlist that are not empty. -/
def ExecuteShellTaskContext.allowed (ctx : ExecuteShellTaskContext) : List String :=
  ctx.envPassthroughAllowlist.filter (· ≠ "")

namespace Host

def buildEnv (processEnv : ProcessEnv) (ctx : ExecuteShellTaskContext) : Vars :=
  passThrough processEnv ctx.allowed
    (OrderedMap.merge (buildMinimalHostEnv processEnv) ctx.taskEnv)

end Host

namespace Docker

def buildEnv (processEnv : ProcessEnv) (ctx : ExecuteShellTaskContext) : Vars :=
  passThrough processEnv ctx.allowed (OrderedMap.merge [] ctx.taskEnv)

end Docker

/-! ### The output of a child -/

/-- The code units of a text. -/
abbrev Text := List UInt16

structure Stream where
  text : Text
  truncated : Bool
  deriving DecidableEq

def Stream.empty : Stream := { text := [], truncated := false }

/-- A chunk of output arrives. -/
def Stream.push (maxChars : Nat) (s : Stream) (chunk : Text) : Stream :=
  if s.truncated then s
  else
    let text := s.text ++ chunk
    if text.length > maxChars then { text := text.take maxChars, truncated := true }
    else { text, truncated := false }

def truncateString (input : Text) (maxChars : Nat) : Stream :=
  if input.length ≤ maxChars then { text := input, truncated := false }
  else { text := input.take maxChars, truncated := true }

/-- What the executor sees of a child, and its own timer. -/
inductive ChildEvent where
  | stdout (chunk : Text)
  | stderr (chunk : Text)
  | timeout
  /-- The exit code, unless a signal ended the child. -/
  | exit (code : Option Int)
  /-- The child could not be started. -/
  | error
  deriving DecidableEq

/-- How a child ended: its exit code, if it has one. -/
def ChildEvent.ending : ChildEvent → Option (Option Int)
  | .exit code => some code
  | .error => some none
  | _ => none

structure Child where
  stdout : Stream
  stderr : Stream
  timedOut : Bool
  ended : Option (Option Int)

def Child.started : Child :=
  { stdout := .empty, stderr := .empty, timedOut := false, ended := none }

/-- Once a child has ended its output is read at once. -/
def Child.take (maxChars : Nat) (child : Child) (event : ChildEvent) : Child :=
  if child.ended.isSome then child
  else match event with
    | .stdout chunk => { child with stdout := child.stdout.push maxChars chunk }
    | .stderr chunk => { child with stderr := child.stderr.push maxChars chunk }
    | .timeout => { child with timedOut := true }
    | .exit code => { child with ended := some code }
    | .error => { child with ended := some none }

inductive Backend where
  | host
  | docker
  deriving DecidableEq

structure Output where
  backend : Backend
  exitCode : Option Int
  timedOut : Bool
  stdout : Text
  stderr : Text
  stdoutTruncated : Bool
  stderrTruncated : Bool
  deriving DecidableEq

inductive SandboxExecuteResult where
  | succeeded (output : Output)
  | failed (error : String) (output : Option Output)
  deriving DecidableEq

/-- The error of a child that ended without a code. -/
def Backend.failure : Backend → String
  | .host => RemoteExecError.nodeExecutionFailed
  | .docker => "DOCKER_FAILED"

/-- The error of a child that ended with a code. -/
def Backend.exitFailure : Backend → String
  | .host => "HOST_EXIT_CODE:"
  | .docker => "DOCKER_EXIT_CODE:"

/-- What a task comes to whose child has ended, given its output. -/
def result (output : Output) : SandboxExecuteResult :=
  if output.timedOut then .failed RemoteExecError.nodeExecutionTimeout (some output)
  else match output.exitCode with
    | some code =>
      if code = 0 then .succeeded output
      else .failed (output.backend.exitFailure ++ toString code) (some output)
    | none => .failed output.backend.failure (some output)

/-- The end of `executeShellTask`. -/
def Child.result (backend : Backend) (maxChars : Nat) (child : Child) :
    Option SandboxExecuteResult :=
  child.ended.map fun exitCode =>
    let stdout := truncateString child.stdout.text maxChars
    let stderr := truncateString child.stderr.text maxChars
    Sandbox.result
      { backend, exitCode, timedOut := child.timedOut, stdout := stdout.text, stderr := stderr.text,
        stdoutTruncated := stdout.truncated || child.stdout.truncated,
        stderrTruncated := stderr.truncated || child.stderr.truncated }

/-! ### Tasks -/

structure Limits where
  timeoutMs : Nat
  outputMaxChars : Nat
  memoryMb : Nat
  cpus : String
  pids : Nat

structure Machine where
  processEnv : ProcessEnv
  hostLimits : Limits
  dockerLimits : Limits
  /-- Host user and group, where the platform tells them. -/
  user : Option (Nat × Nat)

def Shell.command : Shell → String
  | .sh => "sh"
  | .bash => "bash"

/-- The child process of a task. -/
structure Spawn where
  command : String
  args : List String
  cwd : Option String
  env : Option Vars
  timeoutMs : Nat
  deriving DecidableEq

def buildDockerRunArgs (machine : Machine) (containerName image workdirHostPath : String)
    (ctx : ExecuteShellTaskContext) (env : Vars) (networkMode : NetworkMode) : List String :=
  ["run", "--rm", "--init", "--name", containerName, "--read-only", "--tmpfs",
    "/tmp:rw,nosuid,nodev,size=64m", "--cap-drop", "ALL", "--security-opt", "no-new-privileges",
    "--memory", toString machine.dockerLimits.memoryMb ++ "m", "--cpus", machine.dockerLimits.cpus,
    "--pids-limit", toString machine.dockerLimits.pids, "-v", workdirHostPath ++ ":/work:rw", "-w",
    "/work"] ++
  (if networkMode = .none then ["--network", "none"] else []) ++
  (match machine.user with
    | some (uid, gid) => ["--user", toString uid ++ ":" ++ toString gid]
    | none => ["--user", "1000:1000"]) ++
  env.flatMap (fun entry => ["-e", entry.1 ++ "=" ++ entry.2]) ++
  [image, ctx.shell.command, "-lc", ctx.script]

/-- `executeShellTask` of the host, up to its child; the directory is the task's or the run's. -/
def Host.executeShellTask (machine : Machine) (ctx : ExecuteShellTaskContext) (cwd : String) :
    Except String Spawn :=
  if ctx.networkMode = some .none then .error "HOST_NETWORK_MODE_UNSUPPORTED"
  else .ok
    { command := ctx.shell.command, args := ["-lc", ctx.script], cwd := some cwd,
      env := some (Host.buildEnv machine.processEnv ctx), timeoutMs := ctx.timeoutMs.getD 30000 }

/-- `executeShellTask` of the containers, up to its child. -/
def Docker.executeShellTask (machine : Machine) (ctx : ExecuteShellTaskContext)
    (containerName workdirHostPath : String) : Spawn :=
  let image := ctx.dockerImage.getD
    ((machine.processEnv "VESPID_AGENT_DOCKER_IMAGE").getD "node:24-alpine")
  let networkMode := ctx.networkMode.getD
    (if machine.processEnv "VESPID_AGENT_DOCKER_NETWORK_DEFAULT" = some "enabled" then .enabled
      else .none)
  { command := "docker"
    args := buildDockerRunArgs machine containerName image workdirHostPath ctx
      (Docker.buildEnv machine.processEnv ctx) networkMode
    cwd := none, env := none, timeoutMs := ctx.timeoutMs.getD machine.dockerLimits.timeoutMs }

/-! ### Which variables a task has -/

section vars
variable {processEnv other : ProcessEnv}

theorem passThrough_cons (key : String) (rest : List String) (env : Vars) :
    passThrough processEnv (key :: rest) env = passThrough processEnv rest
      (match passed processEnv key with
        | some value => OrderedMap.set env key value
        | none => env) := rfl

theorem lookup_passThrough (keys : List String) (env : Vars) (key : String) :
    (passThrough processEnv keys env).lookup key =
      if key ∈ keys then (passed processEnv key).or (env.lookup key) else env.lookup key := by
  induction keys generalizing env with
  | nil => rfl
  | cons first rest ih =>
    rw [passThrough_cons, ih]
    cases value : passed processEnv first with
    | none =>
      by_cases same : key = first
      · subst same
        simp [value]
      · simp [same]
    | some value' =>
      by_cases same : key = first
      · subst same
        simp [value]
      · simp [same, OrderedMap.lookup_set]

/-- Spreading an object over another: its own properties win. -/
theorem lookup_merge_or (base overrides : Vars) (key : String) :
    (OrderedMap.merge base overrides).lookup key =
      ((OrderedMap.merge [] overrides).lookup key).or (base.lookup key) := by
  induction overrides generalizing base with
  | nil => rfl
  | cons entry rest ih =>
    show (OrderedMap.merge (OrderedMap.set base entry.1 entry.2) rest).lookup key =
      ((OrderedMap.merge (OrderedMap.set [] entry.1 entry.2) rest).lookup key).or (base.lookup key)
    rw [ih, ih (OrderedMap.set [] entry.1 entry.2), OrderedMap.lookup_set, OrderedMap.lookup_set,
      Option.or_assoc]
    split <;> simp

theorem passThrough_congr {keys : List String} (same : ∀ key ∈ keys, processEnv key = other key)
    (env : Vars) : passThrough processEnv keys env = passThrough other keys env := by
  induction keys generalizing env with
  | nil => rfl
  | cons key rest ih =>
    have here : passed processEnv key = passed other key := by
      unfold passed
      rw [same key List.mem_cons_self]
    rw [passThrough_cons, passThrough_cons, here]
    exact ih (fun key mem => same key (List.mem_cons_of_mem _ mem)) _

/-- The variables of a task: of the executor's own those it is allowed, before those of the task,
and on the host a few more behind them. -/
theorem lookup_buildEnv (processEnv : ProcessEnv) (ctx : ExecuteShellTaskContext) (key : String) :
    (Host.buildEnv processEnv ctx).lookup key =
        (if key ∈ ctx.allowed then passed processEnv key else none).or
          (((OrderedMap.merge [] ctx.taskEnv).lookup key).or
            (if key ∈ minimalKeys then passed processEnv key else none)) ∧
      (Docker.buildEnv processEnv ctx).lookup key =
        (if key ∈ ctx.allowed then passed processEnv key else none).or
          ((OrderedMap.merge [] ctx.taskEnv).lookup key) := by
  constructor
  · rw [Host.buildEnv, lookup_passThrough, lookup_merge_or, buildMinimalHostEnv,
      lookup_passThrough]
    split <;> simp
  · rw [Docker.buildEnv, lookup_passThrough]
    split <;> simp

end vars

/-- A task that may have the variable `TOKEN`, and sets one itself. -/
def tokenTask : ExecuteShellTaskContext where
  script := "make"
  shell := .sh
  taskEnv := [("MODE", "test")]
  networkMode := some .enabled
  timeoutMs := none
  dockerImage := none
  envPassthroughAllowlist := ["TOKEN"]

def tokenMachine : Machine where
  processEnv key := if key = "TOKEN" then some "t" else if key = "SECRET" then some "s" else none
  hostLimits := { timeoutMs := 0, outputMaxChars := 65536, memoryMb := 0, cpus := "", pids := 0 }
  dockerLimits :=
    { timeoutMs := 30000, outputMaxChars := 65536, memoryMb := 256, cpus := "1", pids := 256 }
  user := none

section output
variable {maxChars : Nat}

/-- The start of an output that fits. -/
def captured (maxChars : Nat) (output : Text) : Stream :=
  { text := output.take maxChars, truncated := decide (maxChars < output.length) }

theorem push_captured (output chunk : Text) :
    (captured maxChars output).push maxChars chunk = captured maxChars (output ++ chunk) := by
  unfold Stream.push captured
  by_cases long : maxChars < output.length
  · have longer : maxChars < (output ++ chunk).length := by
      rw [List.length_append]
      omega
    simp only [long, longer, decide_true, ↓reduceIte, Stream.mk.injEq, and_true]
    rw [List.take_append_of_le_length (Nat.le_of_lt long)]
  · have whole : output.take maxChars = output := List.take_of_length_le (by omega)
    simp only [long, decide_false, Bool.false_eq_true, ↓reduceIte, whole]
    by_cases full : maxChars < (output ++ chunk).length
    · simp only [gt_iff_lt, full, ↓reduceIte, decide_true]
    · have fits : (output ++ chunk).take maxChars = output ++ chunk :=
        List.take_of_length_le (by omega)
      simp only [gt_iff_lt, full, ↓reduceIte, decide_false, fits]

theorem truncate_captured (output : Text) :
    truncateString (captured maxChars output).text maxChars =
      { text := output.take maxChars, truncated := false } :=
  if_pos (List.length_take_le maxChars output)

def stdoutOf (events : List ChildEvent) : Text :=
  events.flatMap fun
    | .stdout chunk => chunk
    | _ => []

def stderrOf (events : List ChildEvent) : Text :=
  events.flatMap fun
    | .stderr chunk => chunk
    | _ => []

/-- A child after events that did not end it. -/
def running (maxChars : Nat) (events : List ChildEvent) : Child where
  stdout := captured maxChars (stdoutOf events)
  stderr := captured maxChars (stderrOf events)
  timedOut := decide (.timeout ∈ events)
  ended := none

theorem running_nil (maxChars : Nat) : Child.started = running maxChars [] := by
  simp [Child.started, running, captured, stdoutOf, stderrOf, Stream.empty]

theorem take_running {event : ChildEvent} (goes : event.ending = none)
    (before : List ChildEvent) :
    (running maxChars before).take maxChars event = running maxChars (before ++ [event]) := by
  cases event with
  | stdout chunk =>
    simp [Child.take, running, stdoutOf, stderrOf, push_captured]
  | stderr chunk =>
    simp [Child.take, running, stdoutOf, stderrOf, push_captured]
  | timeout => simp [Child.take, running, stdoutOf, stderrOf]
  | exit code => cases goes
  | error => cases goes

/-- A child that has ended changes no more. -/
theorem foldl_ended {child : Child} (ended : child.ended.isSome = true)
    (events : List ChildEvent) : events.foldl (Child.take maxChars) child = child := by
  induction events with
  | nil => rfl
  | cons event rest ih =>
    have same : child.take maxChars event = child := if_pos ended
    rw [List.foldl_cons, same]
    exact ih

/-- The events before the first that ends the child. -/
def beforeEnd (events : List ChildEvent) : List ChildEvent :=
  events.takeWhile fun event => event.ending.isNone

theorem foldl_running (events before : List ChildEvent) :
    events.foldl (Child.take maxChars) (running maxChars before) =
      { running maxChars (before ++ beforeEnd events) with
        ended := events.findSome? ChildEvent.ending } := by
  induction events generalizing before with
  | nil => simp [beforeEnd, running]
  | cons event rest ih =>
    cases ends : event.ending with
    | none =>
      rw [List.foldl_cons, take_running ends, ih]
      simp [beforeEnd, ends]
    | some code =>
      have ended : (running maxChars before).take maxChars event =
          { running maxChars before with ended := some code } := by
        cases event <;> cases ends <;> rfl
      rw [List.foldl_cons, ended, foldl_ended rfl]
      simp [beforeEnd, ends]

/-- A task reports when its child has ended, and what it reports is a matter of the whole output
before that, however it came in chunks and whatever came between them. -/
theorem result_of_output (backend : Backend) (maxChars : Nat) (events : List ChildEvent) :
    (events.foldl (Child.take maxChars) .started).result backend maxChars =
      (events.findSome? ChildEvent.ending).map fun exitCode =>
        let stdout := stdoutOf (beforeEnd events)
        let stderr := stderrOf (beforeEnd events)
        result
          { backend, exitCode, timedOut := decide (.timeout ∈ beforeEnd events),
            stdout := stdout.take maxChars, stderr := stderr.take maxChars,
            stdoutTruncated := decide (maxChars < stdout.length),
            stderrTruncated := decide (maxChars < stderr.length) } := by
  rw [running_nil maxChars, foldl_running, List.nil_append]
  simp only [Child.result, running, truncate_captured, Bool.false_or]
  rfl

end output

end Vespid.NodeAgent.Sandbox
