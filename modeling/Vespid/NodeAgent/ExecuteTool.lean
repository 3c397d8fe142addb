import Vespid.Lib.Protocol

/-!
# Tool calls on an executor

An executor gets the workspace of a call into a directory of its cache, lets the call's tasks
work in that directory and uploads a snapshot of it as the next version. The calls it has got
run at the same time, over one file system. What an archive contains and what tasks do to a
directory is left to parameters and choices.
-/

namespace Vespid.NodeAgent

open Interleaving

/-- `tar` and `zstd`: what a directory contains, and what extracting an archive into it and
packing it give. -/
structure Archiver where
  Contents : Type
  Archive : Type
  empty : Contents
  extractInto : Contents → Archive → Contents
  pack : Contents → Archive

/-- A tool call that a model asks for in its answer. -/
inductive BridgeToolCall where
  | connectorAction
  | agentExecute

/-- What a call is for, by its kind and payload. -/
inductive ToolPayload where
  | invalid (ofAgentExecute : Bool)
  | agentExecuteWithoutTask
  | agentExecute
  | agentRun
  | connectorAction
  deriving DecidableEq

def ToolPayload.isAgentExecute : ToolPayload → Bool
  | invalid ofAgentExecute => ofAgentExecute
  | agentExecuteWithoutTask | agentExecute => true
  | agentRun | connectorAction => false

/-- A call as its executor gets it: `version` is what it starts from, and `uploadVersion` what
it is to be uploaded as. -/
structure IncomingCall where
  toolPolicy : Bool
  hasSecret : Bool
  payload : ToolPayload
  workspaceId : String
  version : Nat
  hasDownloadUrl : Bool
  uploadVersion : Nat
  deriving DecidableEq

inductive NodeOp where
  | existsExtracted (workspaceId : String) (version : Nat)
  | mkdirExtracted (workspaceId : String) (version : Nat)
  | existsSnapshot (workspaceId : String) (version : Nat)
  | downloadToFile (workspaceId : String) (version : Nat)
  | extractSnapshot (workspaceId : String) (version : Nat)
  | executeShellTask (workspaceId : String) (version : Nat)
  | executeEnginePrompt (workspaceId : String) (version : Nat)
  | executeAction
  | packSnapshot (workspaceId : String) (version uploadVersion : Nat)
  | uploadFile (workspaceId : String) (uploadVersion : Nat)

/-- Whether it succeeded, but for an engine, which answers with the tool calls it wants. -/
abbrev NodeOp.Reply : NodeOp → Type
  | existsExtracted .. | existsSnapshot .. => Bool
  | mkdirExtracted .. => Unit
  | downloadToFile .. | extractSnapshot .. | executeShellTask .. | executeAction
  | packSnapshot .. | uploadFile .. => Bool
  | executeEnginePrompt .. => Option (List BridgeToolCall)

abbrev NodeOps : Interface where
  Op := NodeOp
  Reply := NodeOp.Reply

abbrev NodeProgram := Program NodeOps

abbrev await (op : NodeOp) : NodeProgram op.Reply := Program.issue (I := NodeOps) op

/-! ### The program of a call -/

/-- The snapshot file, downloaded where it is not there yet. -/
def fetchSnapshot (call : IncomingCall) : NodeProgram Bool := do
  let there : Bool ← await (.existsSnapshot call.workspaceId call.version)
  if there then return true
  else await (.downloadToFile call.workspaceId call.version)

def ensureWorkspaceExtracted (call : IncomingCall) : NodeProgram (Except String Unit) := do
  let found : Bool ← await (.existsExtracted call.workspaceId call.version)
  if found then return .ok ()
  else do
    await (.mkdirExtracted call.workspaceId call.version)
    if call.version = 0 ∧ call.hasDownloadUrl = false then return .ok ()
    else if call.hasDownloadUrl = false then return .error "WORKSPACE_DOWNLOAD_URL_REQUIRED"
    else do
      let fetched ← fetchSnapshot call
      if fetched then do
        let extracted : Bool ← await (.extractSnapshot call.workspaceId call.version)
        if extracted then return .ok () else return .error "COMMAND_FAILED"
      else return .error "WORKSPACE_DOWNLOAD_FAILED"

def snapshotAndUploadWorkspace (call : IncomingCall) : NodeProgram Bool := do
  let packed : Bool ←
    await (.packSnapshot call.workspaceId call.version call.uploadVersion)
  if packed then await (.uploadFile call.workspaceId call.uploadVersion)
  else return false

/-- The tool calls a model has asked for, one after the other. -/
def runToolCalls (call : IncomingCall) : List BridgeToolCall → NodeProgram Unit
  | [] => return ()
  | .connectorAction :: rest => do
    let _ : Bool ← await .executeAction
    runToolCalls call rest
  | .agentExecute :: rest => do
    let _ : Bool ← await (.executeShellTask call.workspaceId call.version)
    runToolCalls call rest

/-- The tasks of a call, and whether a snapshot is taken afterwards. -/
def runTasks (call : IncomingCall) : NodeProgram Bool :=
  match call.payload with
  | .invalid _ => return false
  | .agentExecuteWithoutTask => return true
  | .agentExecute => do
    let _ : Bool ← await (.executeShellTask call.workspaceId call.version)
    return true
  | .agentRun => do
    let answer : Option (List BridgeToolCall) ←
      await (.executeEnginePrompt call.workspaceId call.version)
    match answer with
    | none => return false
    | some [] => return true
    | some (wanted :: more) => do
      runToolCalls call (wanted :: more)
      let _ : Option (List BridgeToolCall) ←
        await (.executeEnginePrompt call.workspaceId call.version)
      return true
  | .connectorAction => do
    let _ : Bool ← await .executeAction
    return true

/-- Whether the call ends with an uploaded snapshot. -/
def executeTool (call : IncomingCall) : NodeProgram Bool :=
  if !call.toolPolicy then return false
  else if call.payload.isAgentExecute && call.hasSecret then
    return false
  else do
    let workspace ← ensureWorkspaceExtracted call
    match workspace with
    | .error _ => return false
    | .ok () =>
      let snapshot ← runTasks call
      if snapshot then snapshotAndUploadWorkspace call else return false

/-! ### The file system -/

/-- What has been done to a directory of the cache since it was created. -/
inductive DirectoryState where
  | created
  | filled
  | changed
  deriving DecidableEq

variable (tools : Archiver)

structure Directory where
  contents : tools.Contents
  state : DirectoryState

/-- The directories and snapshot files, by workspace and version. -/
structure CacheFiles where
  extracted : String × Nat → Option (Directory tools)
  snapshot : String × Nat → Option tools.Archive

/-- What the operations that depend on the world do. -/
inductive NodeChoice where
  | none
  /-- a download that is refused, that leaves part of the file, or that is complete -/
  | refused
  | torn (left : tools.Archive)
  | done
  /-- what was extracted before it failed -/
  | broken (left : tools.Contents)
  /-- a task, with what it leaves in the directory -/
  | task (left : tools.Contents) (succeeded : Bool)
  | engine (left : tools.Contents) (answer : Option (List BridgeToolCall))

variable {tools}

namespace CacheFiles

def setExtracted (files : CacheFiles tools) (key : String × Nat) (directory : Directory tools) :
    CacheFiles tools :=
  { files with extracted := Function.update files.extracted key (some directory) }

def setSnapshot (files : CacheFiles tools) (key : String × Nat) (archive : tools.Archive) :
    CacheFiles tools :=
  { files with snapshot := Function.update files.snapshot key (some archive) }

/-- `mkdir` with `recursive`, which leaves a directory that is there as it is. -/
def mkdir (files : CacheFiles tools) (key : String × Nat) (filled : Bool) : CacheFiles tools :=
  match files.extracted key with
  | some _ => files
  | none => files.setExtracted key
      { contents := tools.empty, state := if filled then .filled else .created }

/-- A task works in its directory, and may leave it as it was. -/
def work [DecidableEq tools.Contents] (files : CacheFiles tools) (key : String × Nat)
    (left : tools.Contents) : CacheFiles tools :=
  match files.extracted key with
  | some directory =>
    if left = directory.contents then files
    else files.setExtracted key { contents := left, state := .changed }
  | none => files

end CacheFiles

variable [DecidableEq tools.Contents] (committed : String × Nat → Option tools.Archive)

/-- Nothing is committed as version zero, whose directory is empty from the start. -/
def startsEmpty (key : String × Nat) : Bool := key.2 = 0 && (committed key).isNone

def performNode (op : NodeOp) (files : CacheFiles tools) (choice : NodeChoice tools) :
    Option (op.Reply × CacheFiles tools) :=
  match op, choice with
  | .existsExtracted workspaceId version, .none =>
    some ((files.extracted (workspaceId, version)).isSome, files)
  | .mkdirExtracted workspaceId version, .none =>
    some ((), files.mkdir (workspaceId, version) (startsEmpty committed (workspaceId, version)))
  | .existsSnapshot workspaceId version, .none =>
    some ((files.snapshot (workspaceId, version)).isSome, files)
  | .downloadToFile .., .refused => some (false, files)
  | .downloadToFile workspaceId version, .torn left =>
    some (false, files.setSnapshot (workspaceId, version) left)
  | .downloadToFile workspaceId version, .done =>
    -- the object under the version's key
    (committed (workspaceId, version)).map fun archive =>
      (true, files.setSnapshot (workspaceId, version) archive)
  | .extractSnapshot workspaceId version, .broken left =>
    (files.extracted (workspaceId, version)).map fun _ =>
      (false, files.setExtracted (workspaceId, version) { contents := left, state := .created })
  | .extractSnapshot workspaceId version, .done =>
    (files.extracted (workspaceId, version)).bind fun directory =>
      (files.snapshot (workspaceId, version)).map fun archive =>
        (true, files.setExtracted (workspaceId, version)
          { contents := tools.extractInto directory.contents archive, state := .filled })
  | .executeShellTask workspaceId version, .task left succeeded =>
    some (succeeded, files.work (workspaceId, version) left)
  | .executeEnginePrompt workspaceId version, .engine left answer =>
    some (answer, files.work (workspaceId, version) left)
  | .executeAction, .done => some (true, files)
  | .executeAction, .refused => some (false, files)
  | .packSnapshot .., .refused => some (false, files)
  | .packSnapshot workspaceId _ uploadVersion, .torn left =>
    some (false, files.setSnapshot (workspaceId, uploadVersion) left)
  | .packSnapshot workspaceId version uploadVersion, .done =>
    (files.extracted (workspaceId, version)).map fun directory =>
      (true, files.setSnapshot (workspaceId, uploadVersion) (tools.pack directory.contents))
  | .uploadFile .., .done => some (true, files)
  | .uploadFile .., .refused => some (false, files)
  | _, _ => none

/-- An executor with its calls. The brain presigns a download exactly for versions that have an
object. -/
abbrev nodeCalls : System NodeOps where
  Store := CacheFiles tools
  Launch := IncomingCall
  Loop := Empty
  Outcome := Bool
  Choice := NodeChoice tools
  Tick := Empty
  perform := performNode committed
  launch call files :=
    if call.hasDownloadUrl = (committed (call.workspaceId, call.version)).isSome then some files
    else none
  entry call := .inr <$> executeTool call
  body _ loop := nomatch loop
  finish _ _ files := files
  tick t _ := nomatch t

end Vespid.NodeAgent
