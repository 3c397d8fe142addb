import Vespid.Brain.Invoke
import Vespid.Lib.Exclusive
import Vespid.Lib.Protocol

/-!
# The versions of a workspace

Any number of brains invoke tools on one workspace: its row, the objects under its keys, the
executors that have got a call and the replies they write. An executor goes on whether or not
a brain still waits for it.
-/

namespace Vespid.Brain

open Interleaving

structure LockedRow where
  row : WorkspaceRow
  lockToken : Option String
  lockExpiresAt : Option Nat

/-- How far an executor is with its call. -/
inductive ExecutorProgress where
  | sent
  | started
  | uploaded
  deriving DecidableEq

/-- A call on its executor's stream. Once it has started, `source` is the object it was given,
by its key and the entry of the call that uploaded it; a first version starts from nothing. -/
structure ExecutorCall where
  invoke : InvokeTool
  progress : ExecutorProgress
  source : Option (String × Nat)

structure Commit where
  version : Nat
  objectKey : String
  /-- The entry of the call whose invocation has committed. -/
  requester : Nat
  deriving DecidableEq

/-- The workspace's row, its objects and the replies, each with the entry of the call it comes
from; the calls on the executors' streams and the commits so far. -/
structure WorkspaceStore where
  now : Nat
  row : Option LockedRow
  objects : String → Option Nat
  replies : String → Option (ToolReply × Nat)
  sent : Nat
  calls : Nat → Option ExecutorCall
  commits : List Commit

namespace WorkspaceStore

def empty : WorkspaceStore :=
  { now := 0, row := none, objects := fun _ => none, replies := fun _ => none, sent := 0
    calls := fun _ => none, commits := [] }

def currentRow (st : WorkspaceStore) : Option WorkspaceRow := st.row.map (·.row)

def currentVersion (st : WorkspaceStore) : Nat := st.currentRow.elim 0 (·.currentVersion)

def currentObjectKey (st : WorkspaceStore) : String := st.currentRow.elim "" (·.currentObjectKey)

/-- Insert the row; the owner's index admits one only. -/
def create (st : WorkspaceStore) (id : String) : Option (WorkspaceRow × WorkspaceStore) :=
  match st.row with
  | some _ => none
  | none =>
    let row : WorkspaceRow :=
      { id, currentVersion := 0, currentObjectKey := "", currentEtag := none }
    some (row, { st with row := some { row, lockToken := none, lockExpiresAt := none } })

def tryLock (st : WorkspaceStore) (workspaceId lockToken : String) (lockTtlSec : Nat) :
    Bool × WorkspaceStore :=
  match st.row with
  | some locked =>
    if locked.row.id = workspaceId ∧ locked.lockExpiresAt.all (· < st.now) then
      (true, { st with row := some { locked with
        lockToken := some lockToken, lockExpiresAt := some (st.now + max 1 lockTtlSec * 1000) } })
    else (false, st)
  | none => (false, st)

def releaseLock (st : WorkspaceStore) (workspaceId lockToken : String) : WorkspaceStore :=
  match st.row with
  | some locked =>
    if locked.row.id = workspaceId ∧ locked.lockToken = some lockToken then
      { st with row := some { locked with lockToken := none, lockExpiresAt := none } }
    else st
  | none => st

/-- The update is conditional on the version, not on the lock. -/
def commit (st : WorkspaceStore) (requester : Nat) (workspaceId : String)
    (expectedCurrentVersion : Nat) (nextObjectKey : String) (nextEtag : Option String) :
    Bool × WorkspaceStore :=
  match st.row with
  | some locked =>
    if locked.row.id = workspaceId ∧ locked.row.currentVersion = expectedCurrentVersion then
      (true, { st with
        row := some
          { row := { id := locked.row.id, currentVersion := expectedCurrentVersion + 1
                     currentObjectKey := nextObjectKey, currentEtag := nextEtag }
            lockToken := none, lockExpiresAt := none }
        commits := st.commits ++ [{ version := expectedCurrentVersion + 1
                                    objectKey := nextObjectKey, requester }] })
    else (false, st)
  | none => (false, st)

/-- The call is on its executor's stream. -/
def send (st : WorkspaceStore) (invoke : InvokeTool) : WorkspaceStore :=
  { st with sent := st.sent + 1
            calls := Function.update st.calls st.sent
              (some { invoke, progress := .sent, source := none }) }

/-- The executor of call `entry` gets its workspace. -/
def start (st : WorkspaceStore) (entry : Nat) : Option WorkspaceStore :=
  match st.calls entry with
  | some { invoke, progress := .sent, .. } =>
    match invoke.downloadKey with
    | none =>
      some { st with
        calls := Function.update st.calls entry
          (some { invoke, progress := .started, source := none }) }
    | some key => (st.objects key).map fun uploader =>
      { st with
        calls := Function.update st.calls entry
          (some { invoke, progress := .started, source := some (key, uploader) }) }
  | _ => none

/-- It uploads what it has made of the workspace. -/
def upload (st : WorkspaceStore) (entry : Nat) : Option WorkspaceStore :=
  match st.calls entry with
  | some { invoke, progress := .started, source } =>
    some { st with objects := Function.update st.objects invoke.uploadKey (some entry)
                   calls := Function.update st.calls entry
                     (some { invoke, progress := .uploaded, source }) }
  | _ => none

/-- Its reply is stored; the pointer to the workspace is there once it has uploaded it. -/
def reply (st : WorkspaceStore) (entry : Nat) (status : ReplyStatus) (uploaded : Bool) :
    Option WorkspaceStore :=
  match st.calls entry with
  | some { invoke, progress, .. } =>
    if uploaded ∧ progress ≠ .uploaded then none
    else
      let workspace : WorkspacePointer :=
        { workspaceId := invoke.workspaceId, version := invoke.uploadVersion
          objectKey := some invoke.uploadKey, etag := none }
      let reply : ToolReply :=
        { status, output := none, error := none
          workspace := if uploaded then some workspace else none }
      some { st with
        replies := Function.update st.replies invoke.requestId (some (reply, entry)) }
  | none => none

end WorkspaceStore

inductive WorkspaceTick where
  | advance (ms : Nat)
  | start (entry : Nat)
  | upload (entry : Nat)
  | reply (entry : Nat) (status : ReplyStatus) (uploaded : Bool)
  | expireReply (requestId : String)

def performWorkspace (op : BrainOp) (st : WorkspaceStore)
    (answer : (op : BrainOp) → op.Reply) : Option (op.Reply × WorkspaceStore) :=
  match op with
  | .getExecutionWorkspaceByOwner .. => some (st.currentRow, st)
  | .createExecutionWorkspace organizationId owner =>
    let row : WorkspaceRow := answer (.createExecutionWorkspace organizationId owner)
    st.create row.id
  | .tryLockExecutionWorkspace workspaceId lockToken lockTtlSec =>
    some (st.tryLock workspaceId lockToken lockTtlSec)
  | .executorInvoke _ _ invoke => some (st.sent, st.send invoke)
  | .waitForToolReply requestId timeoutMs =>
    -- the wait may run out at any time, also where the reply has just come
    let taken : Option ToolReply := answer (.waitForToolReply requestId timeoutMs)
    match taken, st.replies requestId with
    | none, _ => some ((none : Option ToolReply), st)
    | some _, some (reply, _) => some (some reply, st)
    | some _, none => none
  | .commitExecutionWorkspaceVersion requester workspaceId expected nextObjectKey nextEtag =>
    some (st.commit requester workspaceId expected nextObjectKey nextEtag)
  | .releaseExecutionWorkspaceLock workspaceId lockToken =>
    some ((), st.releaseLock workspaceId lockToken)
  | op => some (answer op, st)

/-- Brains that invoke tools on one workspace, that of `owner`. -/
abbrev workspaceBrains (organizationId : String) (owner : WorkspaceOwner) : System BrainOps where
  Store := WorkspaceStore
  Launch := BrainEnv × ToolCall
  Loop := Empty
  Outcome := ToolResult
  Choice := (op : BrainOp) → op.Reply
  Tick := WorkspaceTick
  perform := performWorkspace
  launch l st :=
    if l.2.organizationId = organizationId ∧ l.2.workspaceOwner = owner then some st else none
  entry l := .inr <$> invokeToolOnExecutor l.1 l.2
  body _ loop := nomatch loop
  finish _ _ st := st
  tick
    | .advance ms, st => some { st with now := st.now + ms }
    | .start entry, st => st.start entry
    | .upload entry, st => st.upload entry
    | .reply entry status uploaded, st => st.reply entry status uploaded
    | .expireReply requestId, st =>
      some { st with replies := Function.update st.replies requestId none }

/-! ### How far an invocation is -/

inductive CallStage where
  | begun (call : ToolCall)
  | read (call : ToolCall) (row : WorkspaceRow)
  | waiting (call : ToolCall) (row : WorkspaceRow) (entry : Nat)
  | replied (call : ToolCall) (row : WorkspaceRow) (entry : Nat) (reply : ToolReply)
  | closed

namespace CallStage

/-- The row the invocation goes by. -/
def row? : CallStage → Option WorkspaceRow
  | read _ row | waiting _ row _ | replied _ row _ _ => some row
  | _ => none

/-- The entry of its call, from when that was sent until it is settled. -/
def entry? : CallStage → Option Nat
  | waiting _ _ entry | replied _ _ entry _ => some entry
  | _ => none

def permits (stage : CallStage) : BrainOp → Prop
  | .getExecutionWorkspaceByOwner .. | .createExecutionWorkspace .. => ∃ call, stage = begun call
  | .executorInvoke _ _ invoke => ∃ call row, stage = read call row ∧ invoke = invokeMessage call row
  | .waitForToolReply .. => ∃ call row entry, stage = waiting call row entry
  | .commitExecutionWorkspaceVersion requester workspaceId expected nextObjectKey _ =>
    ∃ call row reply workspace, stage = replied call row requester reply ∧
      reply.workspace = some workspace ∧ workspaceId = row.id ∧ expected = row.currentVersion ∧
      nextObjectKey = workspace.objectKey.getD
        (buildWorkspaceObjectKey call.organizationId row.id (row.currentVersion + 1))
  | _ => True

def observe : CallStage → (op : BrainOp) → op.Reply → CallStage
  | begun call, .getExecutionWorkspaceByOwner .., row =>
    match (row : Option WorkspaceRow) with
    | none => begun call
    | some row => read call row
  | begun call, .createExecutionWorkspace .., row => read call row
  | read call row, .executorInvoke .., entry => waiting call row entry
  | waiting call row entry, .waitForToolReply .., reply =>
    match (reply : Option ToolReply) with
    | none => closed
    | some reply => replied call row entry reply
  | replied .., .commitExecutionWorkspaceVersion .., _ => closed
  | stage, _, _ => stage

end CallStage

def callProtocol : Protocol BrainOps CallStage where
  permits := CallStage.permits
  expects _ _ := True
  observe := CallStage.observe

/-! ### The program keeps to it -/

/-- Operations that have nothing to do with the versions. -/
def unversioned : BrainOp → Prop
  | .getExecutionWorkspaceByOwner .. | .createExecutionWorkspace .. | .executorInvoke ..
  | .waitForToolReply .. | .commitExecutionWorkspaceVersion .. => False
  | _ => True

variable {stage : CallStage}

theorem observe_unversioned {op : BrainOp} (apart : unversioned op) (reply : op.Reply) :
    stage.observe op reply = stage := by
  cases op <;> first | exact False.elim apart | (cases stage <;> rfl)

theorem permits_unversioned {op : BrainOp} (apart : unversioned op) : stage.permits op := by
  cases op <;> first | exact False.elim apart | trivial

theorem wp_unversioned {α : Type} {p : BrainProgram α} (only : p.Only unversioned) :
    p.wp callProtocol (fun _ after => after = stage) stage := by
  induction p with
  | done value => rfl
  | call op next ih =>
    refine ⟨permits_unversioned only.1, fun reply _ => ?_⟩
    have same : callProtocol.observe stage op reply = stage := observe_unversioned only.1 reply
    rw [same]
    exact ih reply (only.2 reply)

theorem unversioned_of_selecting {op : BrainOp} (selects : selecting op) : unversioned op := by
  cases op <;> first | exact False.elim selects | trivial

theorem settleReply_follows (call : ToolCall) (row : WorkspaceRow) (entry : Nat)
    (reply : ToolReply) : (settleReply call row entry reply).wp callProtocol (fun _ _ => True)
      (.replied call row entry reply) := by
  unfold settleReply
  split
  · trivial
  · rename_i workspace there
    refine ⟨⟨call, row, reply, workspace, rfl, there, rfl, rfl, rfl⟩, fun committed _ => ?_⟩
    cases committed <;> trivial

theorem callLocked_follows (env : BrainEnv) (call : ToolCall) (row : WorkspaceRow)
    (executor : SelectedExecutor) : (callLocked env call row executor).wp callProtocol
      (fun _ _ => True) (.read call row) := by
  unfold callLocked
  split
  · trivial
  · refine ⟨⟨call, row, rfl, rfl⟩, fun entry _ => ⟨⟨call, row, entry, rfl⟩, fun reply _ => ?_⟩⟩
    cases reply with
    | none => trivial
    | some reply => exact settleReply_follows call row entry reply

theorem workspaceOfOwner_follows (call : ToolCall) : (workspaceOfOwner call).wp callProtocol
    (fun row after => after = .read call row) (.begun call) := by
  refine ⟨⟨call, rfl⟩, fun row _ => ?_⟩
  cases row with
  | none => exact ⟨⟨call, rfl⟩, fun _ _ => rfl⟩
  | some row => rfl

theorem callOnWorkspace_follows (env : BrainEnv) (call : ToolCall) (executor : SelectedExecutor) :
    (callOnWorkspace env call executor).wp callProtocol (fun _ _ => True) (.begun call) := by
  refine Program.wp_seq (workspaceOfOwner_follows call) ?_
  rintro row after rfl
  simp only [await, Program.issue_eq, Program.call_bind, Program.done_bind]
  refine ⟨trivial, fun got _ => ?_⟩
  cases got with
  | false => trivial
  | true =>
    refine Program.wp_seq (callLocked_follows env call row executor) fun result after _ => ?_
    obtain ⟨result, toRelease⟩ := result
    cases toRelease with
    | false => trivial
    | true => exact ⟨trivial, fun _ _ => trivial⟩

theorem invokeToolOnExecutor_versions (env : BrainEnv) (call : ToolCall) :
    (invokeToolOnExecutor env call).wp callProtocol (fun _ _ => True) (.begun call) := by
  simp only [invokeToolOnExecutor, await, Program.issue_eq, Program.call_bind, Program.done_bind,
    Program.wp_call]
  refine ⟨trivial, fun orgMaxInFlight _ => ?_⟩
  refine Program.wp_seq (wp_unversioned (Program.only_mono (fun _ => unversioned_of_selecting)
    (selectExecutorForTool_selecting _))) ?_
  rintro selected after rfl
  cases selected with
  | error error => trivial
  | ok executor =>
    refine Program.wp_seq (callOnWorkspace_follows env call executor) fun result after _ => ?_
    exact ⟨trivial, fun _ _ => ⟨trivial, fun _ _ => trivial⟩⟩

def callCertified (organizationId : String) (owner : WorkspaceOwner) :
    Certified (workspaceBrains organizationId owner) callProtocol where
  start l := .begun l.2
  looping _ loop _ := nomatch loop
  ended _ _ _ := True
  entry_follows l := Program.wp_seq (invokeToolOnExecutor_versions l.1 l.2) fun _ _ _ => trivial
  body_follows _ loop := nomatch loop
  replies _ _ _ _ _ _ := trivial

end Vespid.Brain
