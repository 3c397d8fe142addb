import Mathlib.Data.List.Range
import Vespid.Brain.InFlight
import Vespid.Brain.Workspaces

/-!
# The commits of a workspace are a linear history

The commit is conditional on the version, so versions follow each other without a gap. That
each version keeps the object its own call has uploaded takes more: uploads are not stopped by
anything, and replies are found by a request id.
-/

namespace Vespid.Brain

open Interleaving

/-- What the commits of a workspace are to be. -/
structure LinearHistory (st : WorkspaceStore) : Prop where
  /-- Versions are 1, 2, 3, and so on. -/
  versions : st.commits.map (·.version) = List.range' 1 st.currentVersion
  /-- The call that was committed started from the version before. -/
  startedFrom : ∀ c ∈ st.commits, ∃ call, st.calls c.requester = some call ∧
    ((c.version = 1 ∧ call.source = none) ∨
      ∃ b ∈ st.commits, b.version + 1 = c.version ∧ call.source = some (b.objectKey, b.requester))
  /-- Under the key of a version is what the call that was committed has uploaded. -/
  intact : ∀ c ∈ st.commits, st.objects c.objectKey = some c.requester ∧
    ∃ call, st.calls c.requester = some call ∧ call.progress = .uploaded ∧
      call.invoke.uploadKey = c.objectKey

variable {organizationId : String} {owner : WorkspaceOwner}

abbrev callers (s : (workspaceBrains organizationId owner).State) :
    Nat → Option ((BrainEnv × ToolCall) × CallStage) :=
  (callCertified organizationId owner).crew s

/-- Nothing has been committed under the key the executor uploads to, and no other invocation
under way has an upload there. -/
def UploadsApart (s : (workspaceBrains organizationId owner).State) (entry : Nat) : Prop :=
  ∀ call, s.store.calls entry = some call →
    (∀ c ∈ s.store.commits, c.objectKey ≠ call.invoke.uploadKey) ∧
    ∀ id l stage e other, callers s id = some (l, stage) → stage.entry? = some e → e ≠ entry →
      s.store.calls e = some other → other.progress = .uploaded →
      other.invoke.uploadKey ≠ call.invoke.uploadKey

/-- Executors upload apart from each other, and an invocation takes no reply but its own. -/
structure CallsApart (s : (workspaceBrains organizationId owner).State)
    (a : (workspaceBrains organizationId owner).Action) : Prop where
  uploads : ∀ entry, a = .tick (.upload entry) → UploadsApart s entry
  replies : ∀ stage requestId timeoutMs, (callCertified organizationId owner).issued s a =
    some (stage, .waitForToolReply requestId timeoutMs) →
    ∀ reply author, s.store.replies requestId = some (reply, author) → stage.entry? = some author

/-! ### What an operation of a call does -/

/-- Nothing but locks and the clock has changed. -/
structure SameVersions (st st' : WorkspaceStore) : Prop where
  row : st'.currentRow = st.currentRow
  objects : st'.objects = st.objects
  replies : st'.replies = st.replies
  sent : st'.sent = st.sent
  calls : st'.calls = st.calls
  commits : st'.commits = st.commits

theorem SameVersions.rfl {st : WorkspaceStore} : SameVersions st st :=
  ⟨.refl _, .refl _, .refl _, .refl _, .refl _, .refl _⟩

inductive Called (st : WorkspaceStore) : CallStage → BrainOp → WorkspaceStore → CallStage → Prop where
  | same {stage : CallStage} {op : BrainOp} {st' : WorkspaceStore} (same : SameVersions st st') :
      Called st stage op st' stage
  | closed {stage : CallStage} {op : BrainOp} : Called st stage op st .closed
  | read {call : ToolCall} {op : BrainOp} {row : WorkspaceRow} (there : st.currentRow = some row) :
      Called st (.begun call) op st (.read call row)
  | created {call : ToolCall} {op : BrainOp} {id : String} {row : WorkspaceRow}
      {st' : WorkspaceStore} (created : st.create id = some (row, st')) :
      Called st (.begun call) op st' (.read call row)
  | sent {call : ToolCall} {op : BrainOp} {row : WorkspaceRow} :
      Called st (.read call row) op (st.send (invokeMessage call row)) (.waiting call row st.sent)
  | replied {call : ToolCall} {row : WorkspaceRow} {entry author timeoutMs : Nat}
      {requestId : String} {reply : ToolReply} (there : st.replies requestId = some (reply, author)) :
      Called st (.waiting call row entry) (.waitForToolReply requestId timeoutMs) st
        (.replied call row entry reply)
  | committed {call : ToolCall} {op : BrainOp} {row : WorkspaceRow} {entry : Nat}
      {reply : ToolReply} {workspace : WorkspacePointer} {etag : Option String}
      {st' : WorkspaceStore} (there : reply.workspace = some workspace)
      (committed : st.commit entry row.id row.currentVersion (workspace.objectKey.getD
        (buildWorkspaceObjectKey call.organizationId row.id (row.currentVersion + 1))) etag =
          (true, st')) : Called st (.replied call row entry reply) op st' .closed

variable {st st' : WorkspaceStore} {stage : CallStage} {answer : (op : BrainOp) → op.Reply}

theorem tryLock_same (workspaceId lockToken : String) (lockTtlSec : Nat) :
    SameVersions st (st.tryLock workspaceId lockToken lockTtlSec).2 := by
  unfold WorkspaceStore.tryLock
  split
  · rename_i locked there
    split
    · exact ⟨by simp [WorkspaceStore.currentRow, there], rfl, rfl, rfl, rfl, rfl⟩
    · exact .rfl
  · exact .rfl

theorem releaseLock_same (workspaceId lockToken : String) :
    SameVersions st (st.releaseLock workspaceId lockToken) := by
  unfold WorkspaceStore.releaseLock
  split
  · rename_i locked there
    split
    · exact ⟨by simp [WorkspaceStore.currentRow, there], rfl, rfl, rfl, rfl, rfl⟩
    · exact .rfl
  · exact .rfl

theorem commit_refused {requester expected : Nat} {workspaceId key : String} {etag : Option String}
    (refused : st.commit requester workspaceId expected key etag = (false, st')) : st' = st := by
  unfold WorkspaceStore.commit at refused
  split at refused
  · split at refused
    · cases refused
    · exact (Prod.mk.inj refused).2.symm
  · exact (Prod.mk.inj refused).2.symm

theorem commit_done {requester expected : Nat} {workspaceId key : String} {etag : Option String}
    (done : st.commit requester workspaceId expected key etag = (true, st')) :
    st.currentVersion = expected ∧ st'.currentVersion = expected + 1 ∧
      st'.currentObjectKey = key ∧ st'.objects = st.objects ∧ st'.replies = st.replies ∧
      st'.sent = st.sent ∧ st'.calls = st.calls ∧ st'.commits = st.commits ++
        [{ version := expected + 1, objectKey := key, requester }] := by
  unfold WorkspaceStore.commit at done
  split at done
  · rename_i locked there
    split at done
    · rename_i fits
      obtain ⟨-, rfl⟩ := Prod.mk.inj done
      refine ⟨?_, rfl, rfl, rfl, rfl, rfl, rfl, rfl⟩
      simp [WorkspaceStore.currentVersion, WorkspaceStore.currentRow, there, fits.2]
    · cases done
  · cases done

theorem called_of_perform {op : BrainOp} {reply : op.Reply} (permitted : stage.permits op)
    (performed : performWorkspace op st answer = some (reply, st')) :
    Called st stage op st' (stage.observe op reply) := by
  by_cases apart : unversioned op
  · rw [observe_unversioned apart]
    refine .same ?_
    cases op <;> first
      | exact False.elim apart
      | (obtain ⟨-, rfl⟩ := Prod.mk.inj (Option.some.inj performed); exact .rfl)
      | (have performed := (Prod.mk.inj (Option.some.inj performed)).2
         subst performed
         exact releaseLock_same _ _)
      | (have performed := congrArg Prod.snd (Option.some.inj performed)
         subst performed
         exact tryLock_same _ _ _)
  · cases op <;> first | exact (apart trivial).elim | skip
    case getExecutionWorkspaceByOwner =>
      obtain ⟨call, rfl⟩ := permitted
      obtain ⟨rfl, rfl⟩ := Prod.mk.inj (Option.some.inj performed)
      cases there : st.currentRow with
      | none =>
        simp only [CallStage.observe]
        exact .same .rfl
      | some row =>
        simp only [CallStage.observe]
        exact .read there
    case createExecutionWorkspace =>
      obtain ⟨call, rfl⟩ := permitted
      exact .created performed
    case executorInvoke =>
      obtain ⟨call, row, rfl, rfl⟩ := permitted
      obtain ⟨rfl, rfl⟩ := Prod.mk.inj (Option.some.inj performed)
      exact .sent
    case waitForToolReply =>
      obtain ⟨call, row, entry, rfl⟩ := permitted
      simp only [performWorkspace] at performed
      split at performed
      · obtain ⟨rfl, rfl⟩ := Prod.mk.inj (Option.some.inj performed)
        exact .closed
      · rename_i there
        obtain ⟨rfl, rfl⟩ := Prod.mk.inj (Option.some.inj performed)
        exact .replied there
      · cases performed
    case commitExecutionWorkspaceVersion =>
      obtain ⟨call, row, told, workspace, rfl, there, rfl, rfl, rfl⟩ := permitted
      have performed := Option.some.inj performed
      cases reply with
      | true => exact .committed there performed
      | false =>
        have same := commit_refused performed
        subst same
        exact .closed

/-! ### The invariant -/

/-- A version and key the workspace has had. -/
def HeldAt (commits : List Commit) (version : Nat) (key : String) : Prop :=
  (version = 0 ∧ key = "") ∨ ∃ c ∈ commits, c.version = version ∧ c.objectKey = key

/-- A call for a version the workspace has had, whose executor started from its object. -/
structure CallFormed (commits : List Commit) (call : ExecutorCall) : Prop where
  held : HeldAt commits call.invoke.version call.invoke.objectKey
  downloads : call.invoke.downloadKey =
    if call.invoke.objectKey ≠ "" then some call.invoke.objectKey else none
  key : call.invoke.uploadKey ≠ ""
  source : call.progress ≠ .sent → (call.invoke.version = 0 ∧ call.source = none) ∨
    ∃ c ∈ commits, c.version = call.invoke.version ∧ call.source = some (c.objectKey, c.requester)

/-- Call `entry` was sent for `row`; what it has uploaded is still there. -/
def UnderWay (st : WorkspaceStore) (call : ToolCall) (row : WorkspaceRow) (entry : Nat)
    (sent : ExecutorCall) : Prop :=
  st.calls entry = some sent ∧ sent.invoke = invokeMessage call row ∧
    (sent.progress = .uploaded → st.objects sent.invoke.uploadKey = some entry)

/-- What is true of an invocation. -/
def StageOk (st : WorkspaceStore) : CallStage → Prop
  | .begun _ | .closed => True
  | .read _ row => HeldAt st.commits row.currentVersion row.currentObjectKey
  | .waiting call row entry => ∃ sent, UnderWay st call row entry sent
  | .replied call row entry reply => ∃ sent, UnderWay st call row entry sent ∧
      ∀ workspace, reply.workspace = some workspace →
        sent.progress = .uploaded ∧ workspace.objectKey = some sent.invoke.uploadKey

/-- What is true of a commit. -/
def CommitOk (st : WorkspaceStore) (c : Commit) : Prop :=
  st.objects c.objectKey = some c.requester ∧ ∃ call, st.calls c.requester = some call ∧
    call.progress = .uploaded ∧ call.invoke.version + 1 = c.version ∧
    call.invoke.uploadKey = c.objectKey

structure StoreOk (st : WorkspaceStore) : Prop where
  versions : st.commits.map (·.version) = List.range' 1 st.currentVersion
  current : HeldAt st.commits st.currentVersion st.currentObjectKey
  committed : ∀ c ∈ st.commits, CommitOk st c
  below : ∀ entry call, st.calls entry = some call → entry < st.sent
  formed : ∀ entry call, st.calls entry = some call → CallFormed st.commits call
  replies : ∀ requestId reply author, st.replies requestId = some (reply, author) →
    ∃ call, st.calls author = some call ∧ ∀ workspace, reply.workspace = some workspace →
      call.progress = .uploaded ∧ workspace.objectKey = some call.invoke.uploadKey

theorem HeldAt.mono {commits commits' : List Commit} {version : Nat} {key : String}
    (more : ∀ c ∈ commits, c ∈ commits') (held : HeldAt commits version key) :
    HeldAt commits' version key := by
  rcases held with first | ⟨c, mem, facts⟩
  · exact .inl first
  · exact .inr ⟨c, more c mem, facts⟩

theorem CallFormed.mono {commits commits' : List Commit} {call : ExecutorCall}
    (more : ∀ c ∈ commits, c ∈ commits') (formed : CallFormed commits call) :
    CallFormed commits' call := by
  refine ⟨formed.held.mono more, formed.downloads, formed.key, fun begun => ?_⟩
  rcases formed.source begun with first | ⟨c, mem, facts⟩
  · exact .inl first
  · exact .inr ⟨c, more c mem, facts⟩

theorem uploadKey_ne (call : ToolCall) (row : WorkspaceRow) :
    (invokeMessage call row).uploadKey ≠ "" := by
  have named (organizationId workspaceId : String) (version : Nat) :
      buildWorkspaceObjectKey organizationId workspaceId version ≠ "" := by
    unfold buildWorkspaceObjectKey
    simp
  exact named _ _ _

theorem commit_key_ne (ok : StoreOk st) {c : Commit} (mem : c ∈ st.commits) : c.objectKey ≠ "" := by
  obtain ⟨-, call, there, -, -, same⟩ := ok.committed c mem
  rw [← same]
  exact (ok.formed _ _ there).key

/-! ### What keeps it -/

theorem StoreOk.same (ok : StoreOk st) (same : SameVersions st st') : StoreOk st' := by
  obtain ⟨row, objects, replies, sent, calls, commits⟩ := same
  have version : st'.currentVersion = st.currentVersion := by
    simp [WorkspaceStore.currentVersion, row]
  have key : st'.currentObjectKey = st.currentObjectKey := by
    simp [WorkspaceStore.currentObjectKey, row]
  refine ⟨?_, ?_, ?_, ?_, ?_, ?_⟩
  · rw [commits, version]
    exact ok.versions
  · rw [commits, version, key]
    exact ok.current
  · unfold CommitOk
    rw [commits, objects, calls]
    exact ok.committed
  · rw [calls, sent]
    exact ok.below
  · rw [calls, commits]
    exact ok.formed
  · rw [replies, calls]
    exact ok.replies

theorem StageOk.same (ok : StageOk st stage) (same : SameVersions st st') : StageOk st' stage := by
  obtain ⟨-, objects, -, -, calls, commits⟩ := same
  cases stage <;> simp only [StageOk, UnderWay, objects, calls, commits] at ok ⊢ <;> exact ok

/-- The row is inserted before there is anything else. -/
theorem StoreOk.create {id : String} {row : WorkspaceRow} (ok : StoreOk st)
    (created : st.create id = some (row, st')) :
    StoreOk st' ∧ HeldAt st'.commits row.currentVersion row.currentObjectKey ∧
      ∀ stage, StageOk st stage → StageOk st' stage := by
  unfold WorkspaceStore.create at created
  split at created
  · cases created
  · rename_i none
    obtain ⟨rfl, rfl⟩ := Prod.mk.inj (Option.some.inj created)
    have version : st.currentVersion = 0 := by
      simp [WorkspaceStore.currentVersion, WorkspaceStore.currentRow, none]
    have versions := ok.versions
    rw [version] at versions
    refine ⟨⟨versions, .inl ⟨rfl, rfl⟩, ok.committed, ok.below, ok.formed, ok.replies⟩,
      .inl ⟨rfl, rfl⟩, fun stage other => ?_⟩
    cases stage <;> exact other

/-- Call `entry` becomes `call`, and the objects may change. -/
def WorkspaceStore.setCall (st : WorkspaceStore) (entry : Nat) (call : ExecutorCall)
    (objects : String → Option Nat) : WorkspaceStore :=
  { st with objects, calls := Function.update st.calls entry (some call) }

/-- The executor goes on with its call. -/
theorem StoreOk.setCall {entry : Nat} {call call' : ExecutorCall}
    {objects : String → Option Nat} (ok : StoreOk st) (there : st.calls entry = some call)
    (invoke : call'.invoke = call.invoke)
    (progress : call.progress = .uploaded → call'.progress = .uploaded)
    (formed : CallFormed st.commits call')
    (kept : ∀ c ∈ st.commits, objects c.objectKey = st.objects c.objectKey) :
    StoreOk (st.setCall entry call' objects) := by
  have still (e : Nat) (c : ExecutorCall) (at_ : st.calls e = some c) :
      ∃ c', (st.setCall entry call' objects).calls e = some c' ∧ c'.invoke = c.invoke ∧
        (c.progress = .uploaded → c'.progress = .uploaded) := by
    by_cases same : e = entry
    · subst same
      obtain rfl := Option.some.inj (there.symm.trans at_)
      exact ⟨call', by simp [WorkspaceStore.setCall], invoke, progress⟩
    · exact ⟨c, by simpa [WorkspaceStore.setCall, same] using at_, rfl, fun done => done⟩
  refine ⟨ok.versions, ok.current, ?_, ?_, ?_, ?_⟩
  · intro c mem
    obtain ⟨stored, own, at_, done, version, key⟩ := ok.committed c mem
    obtain ⟨own', at', same, done'⟩ := still _ _ at_
    exact ⟨(kept c mem).trans stored, own', at', done' done, by rw [same]; exact version,
      by rw [same]; exact key⟩
  · intro e c at_
    rcases update_cases at_ with ⟨same, -⟩ | ⟨-, at_⟩
    · rw [same]
      exact ok.below _ _ there
    · exact ok.below _ _ at_
  · intro e c at_
    rcases update_cases at_ with ⟨-, new⟩ | ⟨-, at_⟩
    · rw [← Option.some.inj new]
      exact formed
    · exact ok.formed _ _ at_
  · intro requestId reply author stored
    obtain ⟨own, at_, points⟩ := ok.replies _ _ _ stored
    obtain ⟨own', at', same, done'⟩ := still _ _ at_
    refine ⟨own', at', fun workspace present => ?_⟩
    obtain ⟨done, key⟩ := points workspace present
    exact ⟨done' done, by rw [same]; exact key⟩

theorem StageOk.setCall {entry : Nat} {call' : ExecutorCall}
    {objects : String → Option Nat} (ok : StageOk st stage)
    (fresh : ∀ call row sent, stage.entry? = some entry → UnderWay st call row entry sent →
      sent.progress ≠ .uploaded ∧ UnderWay (st.setCall entry call' objects) call row entry call')
    (others : ∀ e sent, stage.entry? = some e → e ≠ entry → st.calls e = some sent →
      sent.progress = .uploaded →
      objects sent.invoke.uploadKey = st.objects sent.invoke.uploadKey) :
    StageOk (st.setCall entry call' objects) stage := by
  have underWay (call : ToolCall) (row : WorkspaceRow) (e : Nat) (sent : ExecutorCall)
      (at_ : stage.entry? = some e) (way : UnderWay st call row e sent) :
      ∃ sent', UnderWay (st.setCall entry call' objects) call row e sent' ∧
        (sent.progress = .uploaded → sent' = sent) := by
    by_cases same : e = entry
    · subst same
      obtain ⟨pending, way'⟩ := fresh call row sent at_ way
      exact ⟨call', way', fun done => (pending done).elim⟩
    · obtain ⟨there, invoke, kept⟩ := way
      refine ⟨sent, ⟨by simpa [WorkspaceStore.setCall, same] using there, invoke, fun done => ?_⟩,
        fun _ => rfl⟩
      exact (others e sent at_ same there done).trans (kept done)
  cases stage with
  | begun call => trivial
  | closed => trivial
  | read call row => exact ok
  | waiting call row e =>
    obtain ⟨sent, way⟩ := ok
    obtain ⟨sent', way', -⟩ := underWay call row e sent rfl way
    exact ⟨sent', way'⟩
  | replied call row e reply =>
    obtain ⟨sent, way, points⟩ := ok
    obtain ⟨sent', way', same⟩ := underWay call row e sent rfl way
    refine ⟨sent', way', fun workspace present => ?_⟩
    obtain ⟨done, key⟩ := points workspace present
    rw [same done]
    exact ⟨done, key⟩

/-! ### Executors -/

variable {entry : Nat}

theorem start_cases (started : st.start entry = some st') : ∃ call source,
    st.calls entry = some call ∧ call.progress = .sent ∧
      st' = st.setCall entry { call with progress := .started, source } st.objects ∧
      ((call.invoke.downloadKey = none ∧ source = none) ∨ ∃ key uploader,
        call.invoke.downloadKey = some key ∧ st.objects key = some uploader ∧
          source = some (key, uploader)) := by
  unfold WorkspaceStore.start at started
  split at started
  · rename_i invoke source there
    split at started
    · rename_i nothing
      obtain rfl := Option.some.inj started
      exact ⟨_, none, there, rfl, rfl, .inl ⟨nothing, rfl⟩⟩
    · rename_i key downloads
      obtain ⟨uploader, found, rfl⟩ := Option.map_eq_some_iff.mp started
      exact ⟨_, some (key, uploader), there, rfl, rfl, .inr ⟨key, uploader, downloads, found, rfl⟩⟩
  · cases started

theorem upload_cases (uploaded : st.upload entry = some st') : ∃ call,
    st.calls entry = some call ∧ call.progress = .started ∧
      st' = st.setCall entry { call with progress := .uploaded }
        (Function.update st.objects call.invoke.uploadKey (some entry)) := by
  unfold WorkspaceStore.upload at uploaded
  split at uploaded
  · rename_i invoke source there
    obtain rfl := Option.some.inj uploaded
    exact ⟨_, there, rfl, rfl⟩
  · cases uploaded

theorem reply_cases {status : ReplyStatus} {uploaded : Bool}
    (replied : st.reply entry status uploaded = some st') : ∃ call reply,
    st.calls entry = some call ∧
      st' = { st with
        replies := Function.update st.replies call.invoke.requestId (some (reply, entry)) } ∧
      ∀ workspace, reply.workspace = some workspace →
        call.progress = .uploaded ∧ workspace.objectKey = some call.invoke.uploadKey := by
  unfold WorkspaceStore.reply at replied
  split at replied
  · rename_i invoke progress source there
    split at replied
    · cases replied
    · rename_i allowed
      obtain rfl := Option.some.inj replied
      refine ⟨_, _, there, rfl, ?_⟩
      intro workspace present
      cases uploaded with
      | false => cases present
      | true =>
        obtain rfl := Option.some.inj present
        exact ⟨by simpa using allowed, rfl⟩
  · cases replied

theorem storeOk_start (ok : StoreOk st) (started : st.start entry = some st') : StoreOk st' := by
  obtain ⟨call, source, there, pending, rfl, from_⟩ := start_cases started
  have formed := ok.formed _ _ there
  refine ok.setCall there rfl (by simp [pending]) ⟨formed.held, formed.downloads, formed.key, ?_⟩
    fun _ _ => rfl
  intro _
  have downloads := formed.downloads
  rcases from_ with ⟨nothing, rfl⟩ | ⟨key, uploader, some_, found, rfl⟩
  · have blank : call.invoke.objectKey = "" := by
      by_contra filled
      rw [if_pos filled, nothing] at downloads
      cases downloads
    rcases formed.held with ⟨first, -⟩ | ⟨c, mem, -, same⟩
    · exact .inl ⟨first, rfl⟩
    · exact (commit_key_ne ok mem (same.trans blank)).elim
  · have filled : call.invoke.objectKey ≠ "" := by
      intro blank
      rw [if_neg (by simpa using blank), some_] at downloads
      cases downloads
    rw [if_pos filled, some_] at downloads
    obtain rfl := Option.some.inj downloads
    rcases formed.held with ⟨-, blank⟩ | ⟨c, mem, version, same⟩
    · exact (filled blank).elim
    · refine .inr ⟨c, mem, version, ?_⟩
      have stored := (ok.committed c mem).1
      rw [same, found] at stored
      rw [same, Option.some.inj stored]

theorem stageOk_start (ok : StageOk st stage) (started : st.start entry = some st') :
    StageOk st' stage := by
  obtain ⟨call, source, there, pending, rfl, -⟩ := start_cases started
  refine ok.setCall (fun owner row sent _ way => ?_) fun _ _ _ _ _ _ => rfl
  obtain rfl := Option.some.inj (there.symm.trans way.1)
  exact ⟨by simp [pending], by simp [WorkspaceStore.setCall], way.2.1, fun done => nomatch done⟩

theorem storeOk_upload (ok : StoreOk st) (uploaded : st.upload entry = some st')
    (apart : ∀ call, st.calls entry = some call →
      ∀ c ∈ st.commits, c.objectKey ≠ call.invoke.uploadKey) : StoreOk st' := by
  obtain ⟨call, there, begun, rfl⟩ := upload_cases uploaded
  have formed := ok.formed _ _ there
  refine ok.setCall there rfl (fun _ => rfl)
    ⟨formed.held, formed.downloads, formed.key, fun _ => formed.source (by simp [begun])⟩ ?_
  intro c mem
  exact Function.update_of_ne (apart call there c mem) ..

theorem stageOk_upload (ok : StageOk st stage) (uploaded : st.upload entry = some st')
    (apart : ∀ call, st.calls entry = some call → ∀ e other, stage.entry? = some e → e ≠ entry →
      st.calls e = some other → other.progress = .uploaded →
      other.invoke.uploadKey ≠ call.invoke.uploadKey) : StageOk st' stage := by
  obtain ⟨call, there, begun, rfl⟩ := upload_cases uploaded
  refine ok.setCall (fun owner row sent _ way => ?_) fun e other at_ different there' done => ?_
  · obtain rfl := Option.some.inj (there.symm.trans way.1)
    exact ⟨by simp [begun], by simp [WorkspaceStore.setCall], way.2.1,
      fun _ => by simp [WorkspaceStore.setCall]⟩
  · exact Function.update_of_ne (apart call there e other at_ different there' done) ..

theorem storeOk_reply {status : ReplyStatus} {uploaded : Bool} (ok : StoreOk st)
    (replied : st.reply entry status uploaded = some st') : StoreOk st' := by
  obtain ⟨call, reply, there, rfl, points⟩ := reply_cases replied
  refine ⟨ok.versions, ok.current, ok.committed, ok.below, ok.formed, ?_⟩
  intro requestId stored author at_
  by_cases same : requestId = call.invoke.requestId
  · subst same
    simp only [Function.update_self, Option.some.injEq, Prod.mk.injEq] at at_
    obtain ⟨rfl, rfl⟩ := at_
    exact ⟨call, there, points⟩
  · simp only [ne_eq, same, not_false_eq_true, Function.update_of_ne] at at_
    exact ok.replies _ _ _ at_

theorem storeOk_expire (ok : StoreOk st) (requestId : String) :
    StoreOk { st with replies := Function.update st.replies requestId none } := by
  refine ⟨ok.versions, ok.current, ok.committed, ok.below, ok.formed, ?_⟩
  intro other reply author at_
  by_cases same : other = requestId
  · subst same
    simp at at_
  · simp only [ne_eq, same, not_false_eq_true, Function.update_of_ne] at at_
    exact ok.replies _ _ _ at_

/-- Replies are no part of what is true of an invocation. -/
theorem stageOk_replies (replies : String → Option (ToolReply × Nat)) (now : Nat) :
    StageOk { st with replies, now } stage ↔ StageOk st stage := by
  cases stage <;> rfl

/-! ### Sending and committing -/

theorem send_calls_old (ok : StoreOk st) (invoke : InvokeTool) {call : ExecutorCall}
    (there : st.calls entry = some call) : (st.send invoke).calls entry = some call := by
  have below := ok.below _ _ there
  simp only [WorkspaceStore.send]
  rw [Function.update_of_ne (by omega)]
  exact there

theorem storeOk_send (ok : StoreOk st) {call : ToolCall} {row : WorkspaceRow}
    (held : HeldAt st.commits row.currentVersion row.currentObjectKey) :
    StoreOk (st.send (invokeMessage call row)) := by
  have old {e : Nat} {c : ExecutorCall} (there : st.calls e = some c) :=
    send_calls_old ok (invokeMessage call row) there
  refine ⟨ok.versions, ok.current, ?_, ?_, ?_, ?_⟩
  · intro c mem
    obtain ⟨stored, own, there, facts⟩ := ok.committed c mem
    exact ⟨stored, own, old there, facts⟩
  · intro e c at_
    rcases update_cases at_ with ⟨rfl, -⟩ | ⟨-, at_⟩
    · exact Nat.lt_succ_self _
    · exact Nat.lt_succ_of_lt (ok.below _ _ at_)
  · intro e c at_
    rcases update_cases at_ with ⟨-, new⟩ | ⟨-, at_⟩
    · rw [← Option.some.inj new]
      exact ⟨held, rfl, uploadKey_ne call row, fun begun => (begun rfl).elim⟩
    · exact ok.formed _ _ at_
  · intro requestId reply author stored
    obtain ⟨own, there, points⟩ := ok.replies _ _ _ stored
    exact ⟨own, old there, points⟩

theorem stageOk_send (storeOk : StoreOk st) (ok : StageOk st stage) (invoke : InvokeTool) :
    StageOk (st.send invoke) stage := by
  have old {e : Nat} {c : ExecutorCall} (there : st.calls e = some c) :=
    send_calls_old storeOk invoke there
  cases stage with
  | waiting call row e =>
    obtain ⟨sent, there, kept⟩ := ok
    exact ⟨sent, old there, kept⟩
  | replied call row e reply =>
    obtain ⟨sent, ⟨there, kept⟩, points⟩ := ok
    exact ⟨sent, ⟨old there, kept⟩, points⟩
  | _ => exact ok

/-- A commit adds the version that follows, with what its call has uploaded. -/
theorem storeOk_commit (ok : StoreOk st) {call : ToolCall} {row : WorkspaceRow} {reply : ToolReply}
    {workspace : WorkspacePointer} {etag : Option String}
    (here : StageOk st (.replied call row entry reply)) (there : reply.workspace = some workspace)
    (committed : st.commit entry row.id row.currentVersion (workspace.objectKey.getD
      (buildWorkspaceObjectKey call.organizationId row.id (row.currentVersion + 1))) etag =
        (true, st')) : StoreOk st' ∧ (∀ stage, StageOk st stage → StageOk st' stage) := by
  obtain ⟨sent, ⟨at_, invoke, kept⟩, points⟩ := here
  obtain ⟨done, key⟩ := points workspace there
  rw [key, Option.getD_some] at committed
  obtain ⟨fits, version, objectKey, objects, replies, sentSame, calls, commits⟩ :=
    commit_done committed
  have more : ∀ c ∈ st.commits, c ∈ st'.commits := by
    intro c mem
    rw [commits]
    exact List.mem_append_left _ mem
  refine ⟨⟨?_, ?_, ?_, ?_, ?_, ?_⟩, ?_⟩
  · rw [commits, version, List.map_append, ok.versions, fits, List.map_singleton,
      List.range'_1_concat]
    simp [Nat.add_comm]
  · rw [version, objectKey, commits]
    exact .inr ⟨_, List.mem_append_right _ (List.mem_singleton_self _), rfl, rfl⟩
  · intro c mem
    unfold CommitOk
    rw [objects, calls]
    rw [commits] at mem
    rcases List.mem_append.mp mem with mem | mem
    · exact ok.committed c mem
    · obtain rfl := List.mem_singleton.mp mem
      exact ⟨kept done, sent, at_, done, by rw [invoke]; rfl, rfl⟩
  · rw [calls, sentSame]
    exact ok.below
  · rw [calls]
    intro e c at_
    exact (ok.formed e c at_).mono more
  · rw [replies, calls]
    exact ok.replies
  · intro stage ok
    cases stage with
    | read call row => exact HeldAt.mono more ok
    | waiting call row e => simpa only [StageOk, UnderWay, calls, objects] using ok
    | replied call row e reply => simpa only [StageOk, UnderWay, calls, objects] using ok
    | _ => trivial

/-! ### Whole runs -/

/-- The store and every invocation are as they are to be. -/
def AllOk (s : (workspaceBrains organizationId owner).State) : Prop :=
  StoreOk s.store ∧ ∀ id l stage, callers s id = some (l, stage) → StageOk s.store stage

variable (organizationId owner)

def noCalls : (workspaceBrains organizationId owner).State :=
  { store := .empty, process := fun _ => none }

variable {organizationId owner}

theorem storeOk_empty : StoreOk .empty := by
  refine ⟨rfl, .inl ⟨rfl, rfl⟩, fun _ mem => (List.not_mem_nil mem).elim, ?_, ?_, ?_⟩
  · intro _ _ at_
    cases at_
  · intro _ _ at_
    cases at_
  · intro _ _ _ at_
    cases at_

/-- What an operation does, given that replies are the invocation's own. -/
theorem called_ok {op : BrainOp} {stage' : CallStage} (ok : StoreOk st) (here : StageOk st stage)
    (own : ∀ requestId timeoutMs, op = .waitForToolReply requestId timeoutMs →
      ∀ reply author, st.replies requestId = some (reply, author) → stage.entry? = some author)
    (called : Called st stage op st' stage') :
    StoreOk st' ∧ StageOk st' stage' ∧ ∀ stage, StageOk st stage → StageOk st' stage := by
  cases called with
  | same same => exact ⟨ok.same same, here.same same, fun _ other => other.same same⟩
  | closed => exact ⟨ok, trivial, fun _ other => other⟩
  | read there =>
    have current := ok.current
    simp only [WorkspaceStore.currentVersion, WorkspaceStore.currentObjectKey, there] at current
    exact ⟨ok, current, fun _ other => other⟩
  | created created =>
    exact ok.create created
  | sent =>
    refine ⟨storeOk_send ok here, ⟨_, Function.update_self .., rfl, ?_⟩,
      fun _ other => stageOk_send ok other _⟩
    intro done
    cases done
  | replied there =>
    have mine := own _ _ rfl _ _ there
    obtain ⟨sent, way⟩ := here
    obtain ⟨call, at_, points⟩ := ok.replies _ _ _ there
    obtain rfl := Option.some.inj mine
    obtain rfl := Option.some.inj (way.1.symm.trans at_)
    exact ⟨ok, ⟨sent, way, points⟩, fun _ other => other⟩
  | committed there committed =>
    obtain ⟨ok', others⟩ := storeOk_commit ok here there committed
    exact ⟨ok', trivial, others⟩

theorem allOk_run {s : (workspaceBrains organizationId owner).State}
    (run : System.Steps CallsApart (noCalls organizationId owner) s) : AllOk s := by
  refine ((callCertified organizationId owner).invariant AllOk (fun _ => rfl)
    ⟨storeOk_empty, ?_⟩ ?_ run).2
  · intro _ _ _ none
    cases none
  rintro t a u all ⟨ok, stages⟩ apart stepped
  have happened := Certified.happened all stepped
  unfold AllOk callers
  generalize (callCertified organizationId owner).crew u = crew at happened ⊢
  generalize u.store = store at happened ⊢
  cases happened with
  | launch free started =>
    simp only [workspaceBrains, Option.ite_none_right_eq_some, Option.some.injEq] at started
    obtain ⟨-, rfl⟩ := started
    refine ⟨ok, fun i l' stage there => ?_⟩
    rcases update_cases there with ⟨-, new⟩ | ⟨-, there⟩
    · obtain ⟨rfl, rfl⟩ := Prod.mk.inj (Option.some.inj new)
      trivial
    · exact stages i l' stage there
  | call here issues permitted performed =>
    rename_i id choice l g op reply
    have own : ∀ requestId timeoutMs, op = .waitForToolReply requestId timeoutMs →
        ∀ reply author, t.store.replies requestId = some (reply, author) →
          g.entry? = some author := by
      rintro requestId timeoutMs rfl
      exact apart.replies _ _ _ issues
    obtain ⟨ok', here', others⟩ :=
      called_ok ok (stages _ _ _ here) own (called_of_perform permitted performed)
    refine ⟨ok', fun i l' stage there => ?_⟩
    rcases update_cases there with ⟨-, new⟩ | ⟨-, there⟩
    · obtain ⟨rfl, rfl⟩ := Prod.mk.inj (Option.some.inj new)
      exact here'
    · exact others stage (stages i l' stage there)
  | loop => exact ⟨ok, stages⟩
  | finish here ended =>
    refine ⟨ok, fun i l' stage there => ?_⟩
    rcases update_cases there with ⟨-, new⟩ | ⟨-, there⟩
    · cases new
    · exact stages i l' stage there
  | tick ticked =>
    rename_i tick
    cases tick with
    | advance ms =>
      obtain rfl := Option.some.inj ticked
      exact ⟨ok.same ⟨rfl, rfl, rfl, rfl, rfl, rfl⟩,
        fun i l stage there => (stages i l stage there).same ⟨rfl, rfl, rfl, rfl, rfl, rfl⟩⟩
    | start entry =>
      exact ⟨storeOk_start ok ticked, fun i l stage there =>
        stageOk_start (stages i l stage there) ticked⟩
    | upload entry =>
      have apart := apart.uploads entry rfl
      refine ⟨storeOk_upload ok ticked fun call at_ => (apart call at_).1, ?_⟩
      intro i l stage there
      exact stageOk_upload (stages i l stage there) ticked fun call at_ e other entered =>
        (apart call at_).2 i l stage e other there entered
    | reply entry status uploaded =>
      refine ⟨storeOk_reply ok ticked, fun i l stage there => ?_⟩
      obtain ⟨call, reply, -, rfl, -⟩ := reply_cases ticked
      exact (stageOk_replies _ _).mpr (stages i l stage there)
    | expireReply requestId =>
      obtain rfl := Option.some.inj ticked
      exact ⟨storeOk_expire ok requestId, fun i l stage there =>
        (stageOk_replies _ _).mpr (stages i l stage there)⟩

/-- While calls keep apart, the workspace's commits are a linear history of intact objects. -/
theorem commits_linear {s : (workspaceBrains organizationId owner).State}
    (run : System.Steps CallsApart (noCalls organizationId owner) s) : LinearHistory s.store := by
  have ok := (allOk_run run).1
  refine ⟨ok.versions, fun c mem => ?_, fun c mem => ?_⟩
  · obtain ⟨-, call, there, done, version, -⟩ := ok.committed c mem
    refine ⟨call, there, ?_⟩
    rcases (ok.formed _ _ there).source (by simp [done]) with ⟨first, nothing⟩ | ⟨b, mem', same, from_⟩
    · exact .inl ⟨by omega, nothing⟩
    · exact .inr ⟨b, mem', by omega, from_⟩
  · obtain ⟨stored, call, there, done, -, key⟩ := ok.committed c mem
    exact ⟨stored, call, there, done, key⟩

/-! ### A commit, and an upload that comes too late -/

namespace Sample

abbrev Callers : Type := (workspaceBrains "org" call.workspaceOwner).State

/-- The reply is taken where it is there. -/
def taking : (op : BrainOp) → op.Reply
  | .waitForToolReply .. =>
    some { status := .succeeded, output := none, error := none, workspace := none }
  | op => answers op

/-- A call that creates the workspace, as far as waiting for its reply. -/
def firstCall : List (workspaceBrains "org" call.workspaceOwner).Action :=
  .launch 0 (env, call) :: List.replicate 8 (.call 0 answers)

/-- A later call, whose executor uploads and replies, and whose invocation commits. -/
def laterCall : List (workspaceBrains "org" call.workspaceOwner).Action :=
  .launch 1 (env, { call with lockBytes := "later", requestBytes := "later" }) ::
    List.replicate 7 (.call 1 answers) ++
    [.tick (.start 1), .tick (.upload 1), .tick (.reply 1 .succeeded true)] ++
    List.replicate 2 (.call 1 taking)

/-- The first version's key. -/
def firstKey : String := buildWorkspaceObjectKey "org" "ws" 1

def outcome (s : Callers) : List Commit × Option Nat := (s.store.commits, s.store.objects firstKey)

/-- Only the first call uploads, and replies are taken by the calls they come from. -/
def oneCall (s : Callers) (a : (workspaceBrains "org" call.workspaceOwner).Action) : Prop :=
  (match a with
    | .tick (.upload entry) => entry = 0 ∧ s.store.sent = 1 ∧ s.store.commits = []
    | _ => True) ∧
  match (callCertified "org" call.workspaceOwner).issued s a with
  | some (stage, .waitForToolReply requestId _) =>
    (s.store.replies requestId).all fun stored => stage.entry? = some stored.2
  | _ => True

instance (s : Callers) (a : (workspaceBrains "org" call.workspaceOwner).Action) :
    Decidable (oneCall s a) :=
  @instDecidableAnd _ _ (by split <;> infer_instance) (by split <;> infer_instance)

theorem apart_of_oneCall {s : Callers} {a : (workspaceBrains "org" call.workspaceOwner).Action}
    (ok : StoreOk s.store) (one : oneCall s a) : CallsApart s a := by
  refine ⟨?_, ?_⟩
  · rintro entry rfl call there
    obtain ⟨⟨rfl, sent, nothing⟩, -⟩ := one
    refine ⟨fun c mem => ?_, fun id l stage e other here at_ different there' => ?_⟩
    · rw [nothing] at mem
      cases mem
    · have below := ok.below _ _ there'
      omega
  · intro stage requestId timeoutMs issues reply author stored
    have own := one.2
    rw [issues] at own
    simpa [stored] using own

theorem apart_run {s : Callers} (run : System.Steps oneCall (noCalls "org" call.workspaceOwner) s) :
    System.Steps CallsApart (noCalls "org" call.workspaceOwner) s := by
  induction run with
  | refl => exact .refl
  | tail _ meets stepped ih => exact ih.tail (apart_of_oneCall (allOk_run ih).1 meets) stepped

end Sample

theorem commits_linear_first : ∃ s : Sample.Callers,
    Sample.outcome s = ([{ version := 1, objectKey := Sample.firstKey, requester := 0 }], some 0) ∧
      LinearHistory s.store := by
  have ran : (System.exec Sample.oneCall (noCalls "org" Sample.call.workspaceOwner)
      (Sample.firstCall ++ [.tick (.start 0), .tick (.upload 0), .tick (.reply 0 .succeeded true)] ++
        List.replicate 2 (.call 0 Sample.taking))).map Sample.outcome =
      some ([{ version := 1, objectKey := Sample.firstKey, requester := 0 }], some 0) := by
    decide +kernel
  obtain ⟨s, run, same⟩ := Option.map_eq_some_iff.mp ran
  exact ⟨s, same, commits_linear (Sample.apart_run (System.steps_of_exec run))⟩

/-- The executor of a call the brain has given up uploads over the version a later call has
committed. -/
theorem committed_object_replaced : ¬∀ (organizationId : String) (owner : WorkspaceOwner)
    (s : (workspaceBrains organizationId owner).State),
    System.Steps (fun _ _ => True) (noCalls organizationId owner) s → LinearHistory s.store := by
  intro claim
  have ran : (System.exec (fun _ _ => True) (noCalls "org" Sample.call.workspaceOwner)
      (Sample.firstCall ++ [.tick (.start 0)] ++ List.replicate 2 (.call 0 Sample.answers) ++
        Sample.laterCall ++ [.tick (.upload 0)])).map Sample.outcome =
      some ([{ version := 1, objectKey := Sample.firstKey, requester := 1 }], some 0) := by
    decide +kernel
  obtain ⟨s, run, same⟩ := Option.map_eq_some_iff.mp ran
  obtain ⟨commits, stored⟩ := Prod.mk.inj same
  have linear := claim "org" Sample.call.workspaceOwner s (System.steps_of_exec run)
  have intact := (linear.intact { version := 1, objectKey := Sample.firstKey, requester := 1 }
    (by rw [commits]; exact List.mem_singleton_self _)).1
  rw [stored] at intact
  cases intact

end Vespid.Brain
