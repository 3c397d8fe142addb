import Vespid.Lib.Exceptions

/-!
# The loops of brains and edges

Both loops handle the records of a batch one after the other, each in a `try` whose `finally`
acknowledges the record. There is no `catch`, so what a handler throws ends the loop. A record is
given with the path its handler takes and the outcomes of the operations on it.
-/

namespace Vespid.Gateway

open Exceptions

/-! ### The brain -/

/-- `invokeToolOnExecutor`: what comes before an executor is selected, and what is done under its
reservation. -/
structure ToolPath where
  select : List Operation
  selected : Bool
  body : List Operation
  unlock : Option Operation
  releaseCapacity : Operation

def ToolPath.code (path : ToolPath) : Code :=
  .seq (.calls path.select) <|
    if path.selected then
      .tryFinally (.calls path.body) <|
        .seq (path.unlock.elim .skip fun unlock => .tryCatch (.call unlock) .skip)
          (.call path.releaseCapacity)
    else .skip

/-- `executeWorkflowDispatchInternal`: the secrets, and the tool call there may be. -/
structure DispatchPath where
  secrets : List Operation
  tool : Option ToolPath
  setResult : Operation
  setReply : Operation
  addContinuation : Option Operation

def DispatchPath.execute (path : DispatchPath) : Code :=
  .seq (.calls path.secrets) (path.tool.elim .skip ToolPath.code)

def DispatchPath.runAsync (path : DispatchPath) : Code :=
  .seq (.tryCatch path.execute .skip) <| .seq (.call path.setResult) <| .seq (.call path.setReply) <|
    path.addContinuation.elim .skip fun add => .tryCatch (.call add) .skip

structure SendPath where
  setLock : Operation
  locked : Bool
  body : List Operation
  releaseCapacity : Option Operation
  delLock : Operation

inductive BrainRecord where
  | invalid
  | workflowDispatch (async : Bool) (path : DispatchPath)
  | sessionSend (path : SendPath)
  | sessionTurnEvent (body : List Operation)
  | sessionReset (body : List Operation)
  | sessionCancel (body : List Operation)
  | other

def handleWorkflowDispatch (async : Bool) (path : DispatchPath) : Code :=
  if async then .detach path.runAsync
  else .seq path.execute (.seq (.call path.setResult) (.call path.setReply))

def handleSessionSend (path : SendPath) : Code :=
  .seq (.call path.setLock) <|
    if path.locked then
      .tryFinally (.calls path.body) <|
        .seq (path.releaseCapacity.elim .skip .call) (.tryCatch (.call path.delLock) .skip)
    else .skip

def BrainRecord.code : BrainRecord → Code
  | invalid | other => .skip
  | workflowDispatch async path => handleWorkflowDispatch async path
  | sessionSend path => handleSessionSend path
  | sessionTurnEvent body | sessionReset body | sessionCancel body => .calls body

/-! ### An edge -/

/-- Handing a command to an executor; `safeWsSend` does not throw. -/
inductive CommandPath where
  | offline (setReply : Operation)
  | sent
  | failed (delRoute setReply : Operation)

def CommandPath.code : CommandPath → Code
  | offline setReply => .call setReply
  | sent => .skip
  | failed delRoute setReply => .seq (.tryCatch (.call delRoute) .skip) (.call setReply)

/-- `sendSessionReply` -/
structure ReplyPath where
  enabled : Bool
  getAccount : Operation
  available : Bool
  posts : List Operation
  save : List Operation

def attempts : List Operation → Code
  | [] => .skip
  | post :: rest => .seq (.tryCatch (.call post) .skip) (attempts rest)

def sendSessionReply (path : ReplyPath) : Code :=
  if path.enabled then
    .seq (.call path.getAccount) <|
      if path.available then .seq (attempts path.posts) (.calls path.save) else .skip
  else .skip

inductive EdgeRecord where
  | invalid
  | executorInvoke (path : CommandPath)
  | executorSession (path : CommandPath)
  | clientBroadcast
  | sessionState
  | sessionError
  | channelOutbound (path : ReplyPath)
  | workflowReply (setReply : Operation)

def EdgeRecord.code : EdgeRecord → Code
  | invalid | clientBroadcast | sessionState | sessionError => .skip
  | executorInvoke path | executorSession path => path.code
  | channelOutbound path => sendSessionReply path
  | workflowReply setReply => .call setReply

/-- One record of a loop. -/
def iteration (handler : Code) (xack : Operation) : Code :=
  .tryFinally handler (.tryCatch (.call xack) .skip)

/-- A record as it is read, with what acknowledging it will do. -/
structure Read (Record : Type) where
  record : Record
  xack : Operation

def brainLoop (batches : List (List (Read BrainRecord))) : List (Read BrainRecord) × Bool :=
  handleBatches (fun read => (iteration read.record.code read.xack).throws) batches

/-- `startEdgeCommandLoop` -/
def edgeLoop (batches : List (List (Read EdgeRecord))) : List (Read EdgeRecord) × Bool :=
  handleBatches (fun read => (iteration read.record.code read.xack).throws) batches

/-! ### Which failures stay inside a handler -/

def Succeed (ops : List Operation) : Prop := ∀ op ∈ ops, op.throws = false

/-- The selection succeeds, and so do what is done under the reservation and its release; the
unlock may fail. -/
def ToolPath.Contained (path : ToolPath) : Prop :=
  Succeed path.select ∧
    (path.selected = true → Succeed path.body ∧ path.releaseCapacity.throws = false)

/-- No operation outside of a `catch` throws. A dispatch that is not awaited contains all it does. -/
def BrainRecord.Contained : BrainRecord → Prop
  | invalid | other => True
  | workflowDispatch async path => async = true ∨
    (Succeed path.secrets ∧ (∀ tool ∈ path.tool, tool.Contained) ∧
      path.setResult.throws = false ∧ path.setReply.throws = false)
  | sessionSend path => path.setLock.throws = false ∧
    (path.locked = true → Succeed path.body ∧ ∀ op ∈ path.releaseCapacity, op.throws = false)
  | sessionTurnEvent body | sessionReset body | sessionCancel body => Succeed body

def CommandPath.Contained : CommandPath → Prop
  | sent => True
  | offline setReply | failed _ setReply => setReply.throws = false

def EdgeRecord.Contained : EdgeRecord → Prop
  | invalid | clientBroadcast | sessionState | sessionError => True
  | executorInvoke path | executorSession path => path.Contained
  | channelOutbound path => path.enabled = true → path.getAccount.throws = false ∧
    (path.available = true → Succeed path.save)
  | workflowReply setReply => setReply.throws = false

theorem throws_calls_iff (ops : List Operation) : (Code.calls ops).throws = false ↔ Succeed ops := by
  simp [Succeed]

theorem throws_attempts (posts : List Operation) : (attempts posts).throws = false := by
  induction posts with
  | nil => rfl
  | cons post rest ih => simp [attempts, ih]

theorem throws_tool (path : ToolPath) : path.code.throws = false ↔ path.Contained := by
  unfold ToolPath.code ToolPath.Contained
  rw [Code.throws_seq, Bool.or_eq_false_iff, throws_calls_iff]
  refine and_congr_right fun _ => ?_
  cases path.selected with
  | false => simp
  | true =>
    have unlocks : (path.unlock.elim Code.skip fun unlock =>
        .tryCatch (.call unlock) .skip).throws = false := by
      cases path.unlock <;> simp
    rw [if_pos rfl, Code.throws_tryFinally, Code.throws_seq, unlocks, Bool.or_eq_false_iff,
      throws_calls_iff]
    simp

theorem throws_brain (record : BrainRecord) : record.code.throws = false ↔ record.Contained := by
  cases record with
  | invalid | other => simp [BrainRecord.code, BrainRecord.Contained]
  | sessionTurnEvent body | sessionReset body | sessionCancel body => exact throws_calls_iff body
  | workflowDispatch async path =>
    unfold BrainRecord.code handleWorkflowDispatch BrainRecord.Contained
    cases async with
    | true => simp
    | false =>
      have tool : (path.tool.elim Code.skip ToolPath.code).throws = false ↔
          ∀ tool ∈ path.tool, tool.Contained := by
        cases path.tool with
        | none => simp
        | some tool => simpa using throws_tool tool
      simp only [Bool.false_eq_true, if_false, false_or, DispatchPath.execute, Code.throws_seq,
        Bool.or_eq_false_iff, throws_calls_iff, tool, Code.throws_call, and_assoc]
  | sessionSend path =>
    unfold BrainRecord.code handleSessionSend BrainRecord.Contained
    rw [Code.throws_seq, Bool.or_eq_false_iff, Code.throws_call]
    refine and_congr_right fun _ => ?_
    cases path.locked with
    | false => simp
    | true =>
      rw [if_pos rfl, Code.throws_tryFinally, Code.throws_seq, Bool.or_eq_false_iff,
        throws_calls_iff]
      cases path.releaseCapacity <;> simp

theorem throws_edge (record : EdgeRecord) : record.code.throws = false ↔ record.Contained := by
  cases record with
  | invalid | clientBroadcast | sessionState | sessionError =>
    simp [EdgeRecord.code, EdgeRecord.Contained]
  | executorInvoke path | executorSession path =>
    cases path <;> simp [EdgeRecord.code, CommandPath.code, EdgeRecord.Contained,
      CommandPath.Contained]
  | workflowReply setReply => simp [EdgeRecord.code, EdgeRecord.Contained]
  | channelOutbound path =>
    obtain ⟨enabled, getAccount, available, posts, save⟩ := path
    simp only [EdgeRecord.code, sendSessionReply, EdgeRecord.Contained]
    cases enabled with
    | false => simp
    | true =>
      cases available with
      | false => simp
      | true => simp [throws_attempts, Succeed]

theorem throws_iteration (handler : Code) (xack : Operation) :
    (iteration handler xack).throws = handler.throws := by
  simp [iteration]

/-- A record is acknowledged although its handler throws. -/
theorem acknowledged (handler : Code) (xack : Operation) :
    xack ∈ (iteration handler xack).run.1 := by
  apply Code.run_tryFinally
  obtain ⟨name, throws⟩ := xack
  cases throws <;> simp [Code.run]

/-- The loops handle all their records exactly where no handler but that of the last record
throws. -/
theorem loops_go_on_iff (toBrain : List (List (Read BrainRecord)))
    (toEdge : List (List (Read EdgeRecord))) :
    ((brainLoop toBrain).1 = toBrain.flatten ↔
      ∀ read ∈ toBrain.flatten.dropLast, read.record.Contained) ∧
    ((edgeLoop toEdge).1 = toEdge.flatten ↔
      ∀ read ∈ toEdge.flatten.dropLast, read.record.Contained) := by
  refine ⟨?_, ?_⟩
  · unfold brainLoop
    rw [handleBatches_flatten, handleBatch_all_iff]
    simp only [throws_iteration, throws_brain]
  · unfold edgeLoop
    rw [handleBatches_flatten, handleBatch_all_iff]
    simp only [throws_iteration, throws_edge]

/-- One reply that Redis does not take ends the edge's loop. -/
theorem loop_ends : ¬∀ batches : List (List (Read EdgeRecord)),
    (edgeLoop batches).1 = batches.flatten := by
  intro goesOn
  have stopped := goesOn [[
    { record := .workflowReply { name := "redis.set", throws := true }
      xack := { name := "redis.xack", throws := false } },
    { record := .clientBroadcast, xack := { name := "redis.xack", throws := false } }]]
  exact absurd (congrArg List.length stopped) (by decide)

end Vespid.Gateway
