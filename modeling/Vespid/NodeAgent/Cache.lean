import Vespid.Lib.Exclusive
import Vespid.NodeAgent.ExecuteTool

/-!
# The workspace cache of an executor

A directory of the cache may be found by a call that did not fill it. It then is what the call
is to start from if it has been filled completely and no task has changed it.
-/

namespace Vespid.NodeAgent

open Interleaving

def IncomingCall.key (call : IncomingCall) : String × Nat := (call.workspaceId, call.version)

/-- How far a call is with its workspace. -/
inductive CacheStage where
  | begun (call : IncomingCall)
  | missing (call : IncomingCall)
  | made (call : IncomingCall)
  | fetched (call : IncomingCall)
  | extracted (call : IncomingCall)
  | closed
  deriving DecidableEq

namespace CacheStage

/-- The directory the call is filling. -/
def fills : CacheStage → Option (String × Nat)
  | made call | fetched call => some call.key
  | _ => none

def permits (stage : CacheStage) : NodeOp → Prop
  | .existsExtracted workspaceId version =>
    ∃ call, stage = begun call ∧ call.key = (workspaceId, version)
  | .mkdirExtracted workspaceId version =>
    ∃ call, stage = missing call ∧ call.key = (workspaceId, version)
  | .existsSnapshot .. => ∃ call, stage = made call
  | .downloadToFile .. => ∃ call, stage = made call
  | .extractSnapshot workspaceId version =>
    ∃ call, stage = fetched call ∧ call.key = (workspaceId, version)
  | .executeShellTask workspaceId version | .executeEnginePrompt workspaceId version =>
    ∃ call, stage = extracted call ∧ call.key = (workspaceId, version)
  | .packSnapshot .. => ∃ call, stage = extracted call
  | _ => True

def observe : CacheStage → (op : NodeOp) → op.Reply → CacheStage
  | begun call, .existsExtracted .., found => if found then extracted call else missing call
  | missing call, .mkdirExtracted .., _ =>
    if call.version = 0 ∧ call.hasDownloadUrl = false then extracted call else made call
  | made call, .existsSnapshot .., there => if there then fetched call else made call
  | made call, .downloadToFile .., done => if done then fetched call else closed
  | fetched call, .extractSnapshot .., done => if done then extracted call else closed
  | stage, _, _ => stage

end CacheStage

def cacheProtocol : Protocol NodeOps CacheStage where
  permits := CacheStage.permits
  expects _ _ := True
  observe := CacheStage.observe

/-! ### The program keeps to it -/

theorem ensureWorkspaceExtracted_follows (call : IncomingCall) :
    (ensureWorkspaceExtracted call).wp cacheProtocol
      (fun workspace after => workspace = .ok () → after = .extracted call) (.begun call) := by
  simp only [ensureWorkspaceExtracted, await, Program.issue_eq, Program.call_bind,
    Program.done_bind, Program.wp_call]
  refine ⟨⟨call, rfl, rfl⟩, fun found _ => ?_⟩
  cases found with
  | true => exact fun _ => rfl
  | false =>
    refine ⟨⟨call, rfl, rfl⟩, fun _ _ => ?_⟩
    by_cases blank : call.version = 0 ∧ call.hasDownloadUrl = false
    · rw [if_pos blank]
      exact fun _ => if_pos blank
    · have made : cacheProtocol.observe (.missing call)
          (.mkdirExtracted call.workspaceId call.version) () = .made call := if_neg blank
      rw [if_neg blank]
      change Program.wp _ _ _ (cacheProtocol.observe (.missing call)
        (.mkdirExtracted call.workspaceId call.version) ())
      rw [made]
      split
      · exact fun same => (by cases same)
      · have fetch : (fetchSnapshot call).wp cacheProtocol
            (fun fetched after => fetched = true → after = .fetched call) (.made call) := by
          simp only [fetchSnapshot, await, Program.issue_eq, Program.call_bind, Program.done_bind,
            Program.wp_call]
          refine ⟨⟨call, rfl⟩, fun there _ => ?_⟩
          cases there with
          | true => exact fun _ => rfl
          | false =>
            refine ⟨⟨call, rfl⟩, fun done _ same => ?_⟩
            exact if_pos same
        refine Program.wp_seq fetch fun fetched after got => ?_
        cases fetched with
        | false => exact fun same => (by cases same)
        | true =>
          obtain rfl := got rfl
          refine ⟨⟨call, rfl, rfl⟩, fun done _ => ?_⟩
          cases done with
          | true => exact fun _ => rfl
          | false => exact fun same => (by cases same)

theorem runToolCalls_follows (call : IncomingCall) (calls : List BridgeToolCall) :
    (runToolCalls call calls).wp cacheProtocol (fun _ after => after = .extracted call)
      (.extracted call) := by
  induction calls with
  | nil => rfl
  | cons wanted rest ih =>
    cases wanted with
    | connectorAction => exact ⟨trivial, fun _ _ => ih⟩
    | agentExecute => exact ⟨⟨call, rfl, rfl⟩, fun _ _ => ih⟩

theorem runTasks_follows (call : IncomingCall) : (runTasks call).wp cacheProtocol
    (fun _ after => after = .extracted call) (.extracted call) := by
  unfold runTasks
  cases call.payload with
  | invalid _ => rfl
  | agentExecuteWithoutTask => rfl
  | agentExecute => exact ⟨⟨call, rfl, rfl⟩, fun _ _ => rfl⟩
  | agentRun =>
    simp only [await, Program.issue_eq, Program.call_bind, Program.done_bind, Program.wp_call]
    refine ⟨⟨call, rfl, rfl⟩, fun answer _ => ?_⟩
    cases answer with
    | none => rfl
    | some calls =>
      cases calls with
      | nil => rfl
      | cons wanted more =>
        refine Program.wp_seq (runToolCalls_follows call (wanted :: more)) ?_
        rintro - after rfl
        exact ⟨⟨call, rfl, rfl⟩, fun _ _ => rfl⟩
  | connectorAction => exact ⟨trivial, fun _ _ => rfl⟩

theorem snapshotAndUpload_follows (call : IncomingCall) :
    (snapshotAndUploadWorkspace call).wp cacheProtocol (fun _ _ => True) (.extracted call) := by
  refine ⟨⟨call, rfl⟩, fun packed _ => ?_⟩
  cases packed with
  | true => exact ⟨trivial, fun _ _ => trivial⟩
  | false => trivial

theorem executeTool_follows (call : IncomingCall) :
    (executeTool call).wp cacheProtocol (fun _ _ => True) (.begun call) := by
  unfold executeTool
  split
  · trivial
  split
  · trivial
  refine Program.wp_seq (ensureWorkspaceExtracted_follows call) fun workspace after got => ?_
  cases workspace with
  | error error => trivial
  | ok =>
    obtain rfl := got rfl
    refine Program.wp_seq (runTasks_follows call) ?_
    rintro snapshot after rfl
    cases snapshot with
    | true => exact snapshotAndUpload_follows call
    | false => trivial

variable {tools : Archiver} [DecidableEq tools.Contents]
  (committed : String × Nat → Option tools.Archive)

def cacheCertified : Certified (nodeCalls committed) cacheProtocol where
  start := .begun
  looping _ loop _ := nomatch loop
  ended _ _ _ := True
  entry_follows call := Program.wp_seq (executeTool_follows call) fun _ _ _ => trivial
  body_follows _ loop := nomatch loop
  replies _ _ _ _ _ _ := trivial

/-! ### What an operation of a call does -/

namespace CacheStage

/-- The call, until it has got its workspace or failed to. -/
def call? : CacheStage → Option IncomingCall
  | begun call | missing call | made call | fetched call | extracted call => some call
  | closed => none

end CacheStage

/-- The operations calls perform, by stage. -/
inductive Cached (files : CacheFiles tools) :
    CacheStage → NodeOp → CacheFiles tools → CacheStage → Prop where
  | apart {stage : CacheStage} {op : NodeOp} {files' : CacheFiles tools}
      (same : files'.extracted = files.extracted) : Cached files stage op files' stage
  | found {call : IncomingCall} (there : (files.extracted call.key).isSome) :
      Cached files (.begun call) (.existsExtracted call.workspaceId call.version) files
        (.extracted call)
  | missing {call : IncomingCall} {op : NodeOp} : Cached files (.begun call) op files (.missing call)
  | mkdir {call : IncomingCall} : Cached files (.missing call)
      (.mkdirExtracted call.workspaceId call.version)
      (files.mkdir call.key (startsEmpty committed call.key))
      (if call.version = 0 ∧ call.hasDownloadUrl = false then .extracted call else .made call)
  | fetched {call : IncomingCall} {op : NodeOp} {files' : CacheFiles tools}
      (same : files'.extracted = files.extracted) : Cached files (.made call) op files' (.fetched call)
  | refused {call : IncomingCall} {op : NodeOp} {files' : CacheFiles tools}
      (same : files'.extracted = files.extracted) : Cached files (.made call) op files' .closed
  | broken {call : IncomingCall} {op : NodeOp} {left : tools.Contents} :
      Cached files (.fetched call) op
        (files.setExtracted call.key { contents := left, state := .created }) .closed
  | extracted {call : IncomingCall} {directory : Directory tools} {archive : tools.Archive}
      (there : files.extracted call.key = some directory)
      (from_ : files.snapshot call.key = some archive) :
      Cached files (.fetched call) (.extractSnapshot call.workspaceId call.version)
        (files.setExtracted call.key
          { contents := tools.extractInto directory.contents archive, state := .filled })
        (.extracted call)
  | worked {call : IncomingCall} {op : NodeOp} {left : tools.Contents} :
      Cached files (.extracted call) op (files.work call.key left) (.extracted call)

variable {committed} {files files' : CacheFiles tools} {choice : NodeChoice tools} {stage : CacheStage}

theorem cached_of_perform {op : NodeOp} {reply : op.Reply} (permitted : stage.permits op)
    (performed : performNode committed op files choice = some (reply, files')) :
    Cached committed files stage op files' (stage.observe op reply) := by
  cases op <;> cases choice <;> simp only [performNode, reduceCtorEq] at performed
  case existsExtracted =>
    obtain ⟨call, rfl, key⟩ := permitted
    obtain ⟨rfl, rfl⟩ := Prod.mk.inj (Option.some.inj performed)
    obtain ⟨rfl, rfl⟩ := Prod.mk.inj key
    by_cases there : (files.extracted call.key).isSome
    · have observed : CacheStage.observe (.begun call)
          (.existsExtracted call.workspaceId call.version)
          (files.extracted (call.workspaceId, call.version)).isSome = .extracted call := if_pos there
      rw [observed]
      exact .found there
    · have observed : CacheStage.observe (.begun call)
          (.existsExtracted call.workspaceId call.version)
          (files.extracted (call.workspaceId, call.version)).isSome = .missing call := if_neg there
      rw [observed]
      exact .missing
  case mkdirExtracted =>
    obtain ⟨call, rfl, key⟩ := permitted
    obtain ⟨-, rfl⟩ := Prod.mk.inj (Option.some.inj performed)
    obtain ⟨rfl, rfl⟩ := Prod.mk.inj key
    exact .mkdir
  case existsSnapshot =>
    obtain ⟨call, rfl⟩ := permitted
    obtain ⟨-, rfl⟩ := Prod.mk.inj (Option.some.inj performed)
    cases reply with
    | true => exact .fetched rfl
    | false => exact .apart rfl
  case downloadToFile.refused =>
    obtain ⟨call, rfl⟩ := permitted
    obtain ⟨rfl, rfl⟩ := Prod.mk.inj (Option.some.inj performed)
    exact .refused rfl
  case downloadToFile.torn =>
    obtain ⟨call, rfl⟩ := permitted
    obtain ⟨rfl, rfl⟩ := Prod.mk.inj (Option.some.inj performed)
    exact .refused rfl
  case downloadToFile.done =>
    obtain ⟨call, rfl⟩ := permitted
    obtain ⟨archive, -, same⟩ := Option.map_eq_some_iff.mp performed
    obtain ⟨rfl, rfl⟩ := Prod.mk.inj same
    exact .fetched rfl
  case extractSnapshot.broken =>
    obtain ⟨call, rfl, key⟩ := permitted
    obtain ⟨directory, -, same⟩ := Option.map_eq_some_iff.mp performed
    obtain ⟨rfl, rfl⟩ := Prod.mk.inj same
    rw [← key]
    exact .broken
  case extractSnapshot.done =>
    obtain ⟨call, rfl, key⟩ := permitted
    obtain ⟨directory, there, performed⟩ := Option.bind_eq_some_iff.mp performed
    obtain ⟨archive, from_, same⟩ := Option.map_eq_some_iff.mp performed
    obtain ⟨rfl, rfl⟩ := Prod.mk.inj same
    obtain ⟨rfl, rfl⟩ := Prod.mk.inj key
    exact .extracted there from_
  case executeShellTask =>
    obtain ⟨call, rfl, key⟩ := permitted
    obtain ⟨-, rfl⟩ := Prod.mk.inj (Option.some.inj performed)
    rw [← key]
    exact .worked
  case executeEnginePrompt =>
    obtain ⟨call, rfl, key⟩ := permitted
    obtain ⟨-, rfl⟩ := Prod.mk.inj (Option.some.inj performed)
    rw [← key]
    exact .worked
  all_goals
    have still : stage.observe _ reply = stage := by cases stage <;> rfl
    first
      | (obtain ⟨-, rfl⟩ := Prod.mk.inj (Option.some.inj performed)
         rw [still]
         exact .apart rfl)
      | (obtain ⟨directory, -, same⟩ := Option.map_eq_some_iff.mp performed
         obtain ⟨-, rfl⟩ := Prod.mk.inj same
         rw [still]
         exact .apart rfl)

/-! ### Coherence -/

variable (committed)

/-- What a call for the version is to start from. -/
def expected (key : String × Nat) : tools.Contents :=
  match committed key with
  | none => tools.empty
  | some archive => tools.extractInto tools.empty archive

/-- A call finds only directories that were filled and have not been changed since, fills only
the directory it has created, and extracts only the object of its version. -/
def CleanOp (files : CacheFiles tools) : NodeOp → Prop
  | .existsExtracted workspaceId version =>
    ∀ directory ∈ files.extracted (workspaceId, version), directory.state = .filled
  | .mkdirExtracted workspaceId version => (files.extracted (workspaceId, version)).isNone
  | .extractSnapshot workspaceId version =>
    ∀ archive ∈ files.snapshot (workspaceId, version), committed (workspaceId, version) = some archive
  | _ => True

instance [DecidableEq tools.Archive] (files : CacheFiles tools) (op : NodeOp) :
    Decidable (CleanOp committed files op) := by
  cases op <;> unfold CleanOp <;> infer_instance

def CleanCache (s : (nodeCalls committed).State) (a : (nodeCalls committed).Action) : Prop :=
  ∀ q ∈ (cacheCertified committed).issued s a, CleanOp committed s.store q.2

instance [DecidableEq tools.Archive] (s : (nodeCalls committed).State)
    (a : (nodeCalls committed).Action) : Decidable (CleanCache committed s a) := inferInstanceAs (Decidable (∀ q ∈ _, _))

abbrev runningCalls (s : (nodeCalls committed).State) : Nat → Option (IncomingCall × CacheStage) :=
  (cacheCertified committed).crew s

/-- The step by which a call gets its workspace. -/
def GetsWorkspace (s s' : (nodeCalls committed).State) (id : Nat) (call : IncomingCall) : Prop :=
  (∀ l, runningCalls committed s id ≠ some (l, .extracted call)) ∧
    ∃ l, runningCalls committed s' id = some (l, .extracted call)

def emptyCache : (nodeCalls committed).State :=
  { store := { extracted := fun _ => none, snapshot := fun _ => none }, process := fun _ => none }

/-- A directory that is being filled is still empty. -/
def beingFilled : Directory tools := { contents := tools.empty, state := .created }

structure CacheOk (files : CacheFiles tools) (crew : Nat → Option (IncomingCall × CacheStage)) :
    Prop where
  filled : ∀ key directory, files.extracted key = some directory → directory.state = .filled →
    directory.contents = expected committed key
  filling : ∀ id l stage key, crew id = some (l, stage) → stage.fills = some key →
    files.extracted key = some beingFilled
  single : ∀ i j l l' stage stage' key, crew i = some (l, stage) → crew j = some (l', stage') →
    stage.fills = some key → stage'.fills = some key → i = j
  working : ∀ id l call, crew id = some (l, .extracted call) →
    ∃ directory, files.extracted call.key = some directory ∧ directory.state ≠ .created
  presigned : ∀ id l stage call, crew id = some (l, stage) → stage.call? = some call →
    call.hasDownloadUrl = (committed call.key).isSome

variable {committed} {crew : Nat → Option (IncomingCall × CacheStage)} {id : Nat}
  {l : IncomingCall} {key : String × Nat}

omit [DecidableEq tools.Contents] in
/-- A call goes on, and the directory `key` may change with it. -/
theorem CacheOk.goesOn {stage' : CacheStage} (ok : CacheOk committed files crew)
    (here : crew id = some (l, stage))
    (elsewhere : ∀ k, k ≠ key → files'.extracted k = files.extracted k)
    (filled : ∀ directory, files'.extracted key = some directory → directory.state = .filled →
      directory.contents = expected committed key)
    (fillers : ∀ i l r, i ≠ id → crew i = some (l, r) → r.fills = some key →
      files'.extracted key = files.extracted key)
    (workers : ∀ i l call, i ≠ id → crew i = some (l, .extracted call) → call.key = key →
      ∃ directory, files'.extracted key = some directory ∧ directory.state ≠ .created)
    (fills : ∀ k, stage'.fills = some k → files'.extracted k = some beingFilled ∧
      ∀ i l r, i ≠ id → crew i = some (l, r) → r.fills ≠ some k)
    (works : ∀ call, stage' = .extracted call →
      ∃ directory, files'.extracted call.key = some directory ∧ directory.state ≠ .created)
    (same : ∀ call, stage'.call? = some call → stage.call? = some call) :
    CacheOk committed files' (Function.update crew id (some (l, stage'))) := by
  have old {i : Nat} {l' : IncomingCall} {r : CacheStage}
      (there : Function.update crew id (some (l, stage')) i = some (l', r)) :
      (i = id ∧ r = stage') ∨ (i ≠ id ∧ crew i = some (l', r)) := by
    rcases update_cases there with ⟨same, new⟩ | other
    · exact .inl ⟨same, (Prod.mk.inj (Option.some.inj new)).2.symm⟩
    · exact .inr other
  refine ⟨fun k directory there state => ?_, fun i l' r k there holds => ?_,
    fun i j l₁ l₂ r r' k there there' holds holds' => ?_, fun i l' call there => ?_,
    fun i l' r call there its => ?_⟩
  · by_cases this : k = key
    · subst this
      exact filled directory there state
    · rw [elsewhere k this] at there
      exact ok.filled k directory there state
  · rcases old there with ⟨-, rfl⟩ | ⟨other, there⟩
    · exact (fills k holds).1
    · by_cases this : k = key
      · subst this
        rw [fillers i l' r other there holds]
        exact ok.filling i l' r k there holds
      · rw [elsewhere k this]
        exact ok.filling i l' r k there holds
  · rcases old there with ⟨first, rfl⟩ | ⟨other, standing⟩
    · rcases old there' with ⟨second, -⟩ | ⟨other', standing'⟩
      · exact first.trans second.symm
      · exact ((fills k holds).2 j l₂ r' other' standing' holds').elim
    · rcases old there' with ⟨-, rfl⟩ | ⟨other', standing'⟩
      · exact ((fills k holds').2 i l₁ r other standing holds).elim
      · exact ok.single i j l₁ l₂ r r' k standing standing' holds holds'
  · rcases old there with ⟨-, same⟩ | ⟨other, there⟩
    · exact works call same.symm
    · by_cases this : call.key = key
      · rw [this]
        exact workers i l' call other there this
      · rw [elsewhere _ this]
        exact ok.working i l' call there
  · rcases old there with ⟨-, rfl⟩ | ⟨-, there⟩
    · exact ok.presigned id l stage call here (same call its)
    · exact ok.presigned i l' r call there its

omit [DecidableEq tools.Contents] in
/-- A call goes on and leaves the directories as they are. -/
theorem CacheOk.goesOn_apart {stage' : CacheStage} (ok : CacheOk committed files crew)
    (here : crew id = some (l, stage)) (unchanged : files'.extracted = files.extracted)
    (fills : ∀ k, stage'.fills = some k → stage.fills = some k)
    (works : ∀ call, stage' = .extracted call →
      ∃ directory, files.extracted call.key = some directory ∧ directory.state ≠ .created)
    (same : ∀ call, stage'.call? = some call → stage.call? = some call) :
    CacheOk committed files' (Function.update crew id (some (l, stage'))) := by
  have elsewhere : ∀ k, k ≠ l.key → files'.extracted k = files.extracted k :=
    fun _ _ => by rw [unchanged]
  refine ok.goesOn here elsewhere ?_ ?_ ?_ ?_ ?_ same
  · rw [unchanged]
    exact ok.filled l.key
  · intro _ _ _ _ _ _
    rw [unchanged]
  · intro i l' call _ there this
    rw [unchanged, ← this]
    exact ok.working i l' call there
  · intro k holds
    rw [unchanged]
    refine ⟨ok.filling id l stage k here (fills k holds), fun i l' r other there too => ?_⟩
    exact other (ok.single i id l' l r stage k there here too (fills k holds))
  · rw [unchanged]
    exact works

omit [DecidableEq tools.Contents] in
theorem setExtracted_other {directory : Directory tools} {k : String × Nat} (other : k ≠ key) :
    (files.setExtracted key directory).extracted k = files.extracted k :=
  Function.update_of_ne other ..

omit [DecidableEq tools.Contents] in
@[simp] theorem setExtracted_self (directory : Directory tools) :
    (files.setExtracted key directory).extracted key = some directory := Function.update_self ..

omit [DecidableEq tools.Contents] in
theorem CacheOk.settles {call : IncomingCall} {stage' : CacheStage} {directory : Directory tools}
    (ok : CacheOk committed files crew) (here : crew id = some (l, .fetched call))
    (filled : directory.state = .filled → directory.contents = expected committed call.key)
    (next : stage' = .closed ∨ (stage' = .extracted call ∧ directory.state = .filled)) :
    CacheOk committed (files.setExtracted call.key directory)
      (Function.update crew id (some (l, stage'))) := by
  have filling := ok.filling id l _ call.key here rfl
  have notFills : stage'.fills = none := by rcases next with rfl | ⟨rfl, -⟩ <;> rfl
  refine ok.goesOn here (fun _ => setExtracted_other) ?_ ?_ ?_ ?_ ?_ ?_
  · intro d there state
    rw [setExtracted_self] at there
    obtain rfl := Option.some.inj there
    exact filled state
  · intro i l' r other there holds
    exact (other (ok.single i id l' l r _ _ there here holds rfl)).elim
  · intro i l' call' _ there this
    obtain ⟨d, found, state⟩ := ok.working i l' call' there
    rw [this, filling] at found
    obtain rfl := Option.some.inj found
    exact (state rfl).elim
  · intro k holds
    rw [notFills] at holds
    cases holds
  · rintro call' rfl
    rcases next with same | ⟨same, state⟩
    · cases same
    · cases same
      exact ⟨directory, setExtracted_self directory, by simp [state]⟩
  · rintro call' its
    rcases next with rfl | ⟨rfl, -⟩
    · cases its
    · exact its

omit [DecidableEq tools.Contents] in
theorem mkdir_new {filled : Bool} (none_ : files.extracted key = none) :
    files.mkdir key filled = files.setExtracted key
      { contents := tools.empty, state := if filled then .filled else .created } := by
  simp [CacheFiles.mkdir, none_]

omit [DecidableEq tools.Contents] in
theorem CacheOk.starts {call : IncomingCall} (ok : CacheOk committed files crew)
    (here : crew id = some (l, .missing call)) : startsEmpty committed call.key = true ↔
      call.version = 0 ∧ call.hasDownloadUrl = false := by
  have version : call.key.2 = call.version := rfl
  rw [ok.presigned id l _ call here rfl]
  cases known : committed call.key <;> simp [startsEmpty, version, known]

omit [DecidableEq tools.Contents] in
/-- The directory a call creates is empty, and complete where it starts from nothing. -/
theorem CacheOk.creates {call : IncomingCall} (ok : CacheOk committed files crew)
    (here : crew id = some (l, .missing call)) (none_ : files.extracted call.key = none) :
    CacheOk committed (files.mkdir call.key (startsEmpty committed call.key))
      (Function.update crew id (some (l,
        if call.version = 0 ∧ call.hasDownloadUrl = false then .extracted call else .made call))) := by
  have starts := ok.starts here
  rw [mkdir_new none_]
  have nobody (i : Nat) (l' : IncomingCall) (r : CacheStage) (there : crew i = some (l', r)) :
      r.fills ≠ some call.key := by
    intro holds
    have found := ok.filling i l' r _ there holds
    rw [none_] at found
    cases found
  refine ok.goesOn here (fun _ => setExtracted_other) ?_ ?_ ?_ ?_ ?_ ?_
  · intro d there state
    rw [setExtracted_self] at there
    obtain rfl := Option.some.inj there
    have blank : startsEmpty committed call.key = true := by
      by_contra not
      simp [not] at state
    have unknown : committed call.key = none := by
      simp only [startsEmpty, Bool.and_eq_true, Option.isNone_iff_eq_none] at blank
      exact blank.2
    simp [expected, unknown]
  · intro i l' r _ there holds
    exact (nobody i l' r there holds).elim
  · intro i l' call' _ there this
    obtain ⟨d, found, -⟩ := ok.working i l' call' there
    rw [this, none_] at found
    cases found
  · intro k holds
    by_cases blank : call.version = 0 ∧ call.hasDownloadUrl = false
    · rw [if_pos blank] at holds
      cases holds
    · rw [if_neg blank] at holds
      obtain rfl := Option.some.inj holds
      have not : startsEmpty committed call.key ≠ true := fun yes => blank (starts.mp yes)
      refine ⟨?_, fun i l' r _ there => nobody i l' r there⟩
      rw [setExtracted_self]
      simp [not, beingFilled]
  · intro call' same
    by_cases blank : call.version = 0 ∧ call.hasDownloadUrl = false
    · rw [if_pos blank] at same
      cases same
      exact ⟨_, setExtracted_self _, by simp [starts.mpr blank]⟩
    · rw [if_neg blank] at same
      cases same
  · intro call' its
    split at its <;> exact its

theorem CacheOk.works {call : IncomingCall} {left : tools.Contents}
    (ok : CacheOk committed files crew) (here : crew id = some (l, .extracted call)) :
    CacheOk committed (files.work call.key left)
      (Function.update crew id (some (l, .extracted call))) := by
  obtain ⟨directory, there, state⟩ := ok.working id l call here
  by_cases same : left = directory.contents
  · have unchanged : files.work call.key left = files := by simp [CacheFiles.work, there, same]
    rw [unchanged]
    refine ok.goesOn_apart here rfl (fun _ holds => holds) ?_ fun _ its => its
    rintro call' ⟨⟩
    exact ⟨directory, there, state⟩
  · have changed : files.work call.key left =
        files.setExtracted call.key { contents := left, state := .changed } := by
      simp [CacheFiles.work, there, same]
    rw [changed]
    refine ok.goesOn here (fun _ => setExtracted_other) ?_ ?_ ?_ (fun _ holds => nomatch holds) ?_
      fun _ its => its
    · intro d found filled
      rw [setExtracted_self] at found
      obtain rfl := Option.some.inj found
      cases filled
    · intro i l' r _ there' holds
      have filling := ok.filling i l' r _ there' holds
      rw [there] at filling
      obtain rfl := Option.some.inj filling
      exact (state rfl).elim
    · intro i l' call' _ _ _
      exact ⟨_, setExtracted_self _, by simp⟩
    · rintro call' ⟨⟩
      exact ⟨_, setExtracted_self _, by simp⟩

/-! ### Whole runs -/

/-- What one operation does, where it is a clean one. -/
theorem CacheOk.step {op : NodeOp} {stage' : CacheStage} (ok : CacheOk committed files crew)
    (here : crew id = some (l, stage)) (clean : CleanOp committed files op)
    (cached : Cached committed files stage op files' stage') :
    CacheOk committed files' (Function.update crew id (some (l, stage'))) := by
  cases cached with
  | apart same =>
    refine ok.goesOn_apart here same (fun _ holds => holds) ?_ fun _ its => its
    rintro call rfl
    exact ok.working id l call here
  | found there =>
    rename_i call
    refine ok.goesOn_apart here rfl (fun _ holds => nomatch holds) ?_ fun _ its => its
    rintro call' ⟨⟩
    obtain ⟨directory, found⟩ := Option.isSome_iff_exists.mp there
    have state : directory.state = .filled := clean directory found
    exact ⟨directory, found, by simp [state]⟩
  | missing =>
    exact ok.goesOn_apart here rfl (fun _ holds => nomatch holds) (fun _ same => nomatch same)
      fun _ its => its
  | mkdir => exact ok.creates here (Option.isNone_iff_eq_none.mp clean)
  | fetched same =>
    exact ok.goesOn_apart here same (fun _ holds => holds) (fun _ same => nomatch same)
      fun _ its => its
  | refused same =>
    exact ok.goesOn_apart here same (fun _ holds => nomatch holds) (fun _ same => nomatch same)
      fun _ its => nomatch its
  | broken => exact ok.settles here (fun state => nomatch state) (.inl rfl)
  | extracted there from_ =>
    rename_i call directory archive
    refine ok.settles here (fun _ => ?_) (.inr ⟨rfl, rfl⟩)
    have filling := ok.filling id l _ call.key here rfl
    rw [there] at filling
    obtain rfl := Option.some.inj filling
    have object : committed call.key = some archive := clean archive from_
    simp [expected, object, beingFilled]
  | worked => exact ok.works here

/-- By the operation that gives a call its workspace, or before it, the directory is complete. -/
theorem CacheOk.gets {op : NodeOp} {stage' : CacheStage} {call : IncomingCall}
    (ok : CacheOk committed files crew) (here : crew id = some (l, stage))
    (clean : CleanOp committed files op) (cached : Cached committed files stage op files' stage')
    (before : stage ≠ .extracted call) (after : stage' = .extracted call) :
    ∃ directory, files'.extracted call.key = some directory ∧ directory.state = .filled := by
  cases cached with
  | apart => exact (before after).elim
  | found there =>
    cases after
    obtain ⟨directory, found⟩ := Option.isSome_iff_exists.mp there
    exact ⟨directory, found, clean directory found⟩
  | mkdir =>
    split at after
    · rename_i blank
      cases after
      have none_ : files.extracted call.key = none := Option.isNone_iff_eq_none.mp clean
      rw [mkdir_new none_, (ok.starts here).mpr blank]
      exact ⟨_, setExtracted_self _, rfl⟩
    · cases after
  | extracted =>
    cases after
    exact ⟨_, setExtracted_self _, rfl⟩
  | worked => exact (before after).elim
  | _ => cases after

theorem cacheOk_step {t u : (nodeCalls committed).State} {a : (nodeCalls committed).Action}
    (all : (cacheCertified committed).AllFollow t)
    (ok : CacheOk committed t.store (runningCalls committed t)) (clean : CleanCache committed t a)
    (stepped : System.Stepped t a u) : CacheOk committed u.store (runningCalls committed u) := by
  have happened := Certified.happened all stepped
  unfold runningCalls at ok ⊢
  generalize (cacheCertified committed).crew u = crew at happened ⊢
  generalize u.store = store at happened ⊢
  cases happened with
  | launch free started =>
    rename_i id call
    simp only [nodeCalls, Option.ite_none_right_eq_some, Option.some.injEq] at started
    obtain ⟨presigned, rfl⟩ := started
    refine ⟨ok.filled, fun i l stage key there holds => ?_,
      fun i j l l' stage stage' key there there' holds holds' => ?_, fun i l call there => ?_,
      fun i l stage call' there its => ?_⟩
    · rcases update_cases there with ⟨-, new⟩ | ⟨-, there⟩
      · cases new
        cases holds
      · exact ok.filling i l stage key there holds
    · rcases update_cases there with ⟨-, new⟩ | ⟨-, there⟩
      · cases new
        cases holds
      · rcases update_cases there' with ⟨-, new⟩ | ⟨-, there'⟩
        · cases new
          cases holds'
        · exact ok.single i j l l' stage stage' key there there' holds holds'
    · rcases update_cases there with ⟨-, new⟩ | ⟨-, there⟩
      · cases new
      · exact ok.working i l call there
    · rcases update_cases there with ⟨-, new⟩ | ⟨-, there⟩
      · cases new
        obtain rfl := Option.some.inj its
        exact presigned
      · exact ok.presigned i l stage call' there its
  | call here issues permitted performed =>
    exact ok.step here (clean _ issues) (cached_of_perform permitted performed)
  | loop => exact ok
  | finish here ended =>
    rename_i id l g outcome
    refine ⟨ok.filled, fun i l stage key there holds => ?_,
      fun i j l l' stage stage' key there there' holds holds' => ?_, fun i l call there => ?_,
      fun i l stage call' there its => ?_⟩
    · rcases update_cases there with ⟨-, new⟩ | ⟨-, there⟩
      · cases new
      · exact ok.filling i l stage key there holds
    · rcases update_cases there with ⟨-, new⟩ | ⟨-, there⟩
      · cases new
      · rcases update_cases there' with ⟨-, new⟩ | ⟨-, there'⟩
        · cases new
        · exact ok.single i j l l' stage stage' key there there' holds holds'
    · rcases update_cases there with ⟨-, new⟩ | ⟨-, there⟩
      · cases new
      · exact ok.working i l call there
    · rcases update_cases there with ⟨-, new⟩ | ⟨-, there⟩
      · cases new
      · exact ok.presigned i l stage call' there its
  | tick ticked => rename_i none; cases none

theorem cacheOk_run {s : (nodeCalls committed).State}
    (run : System.Steps (CleanCache committed) (emptyCache committed) s) :
    (cacheCertified committed).AllFollow s ∧ CacheOk committed s.store (runningCalls committed s) := by
  refine (cacheCertified committed).invariant
    (fun s => CacheOk committed s.store (runningCalls committed s)) (fun _ => rfl) ?_
    (fun t a u all ok clean stepped => cacheOk_step all ok clean stepped) run
  refine ⟨fun _ _ there => ?_, fun _ _ _ _ there => ?_, fun _ _ _ _ _ _ _ there => ?_,
    fun _ _ _ there => ?_, fun _ _ _ _ there => ?_⟩ <;> cases there

/-- In a run of clean operations, every call starts from the object of its version. -/
theorem cache_coherent {t u : (nodeCalls committed).State} {a : (nodeCalls committed).Action}
    {call : IncomingCall} (run : System.Steps (CleanCache committed) (emptyCache committed) t)
    (clean : CleanCache committed t a) (stepped : System.step t a = some u)
    (gets : GetsWorkspace committed t u id call) :
    ∃ directory, u.store.extracted call.key = some directory ∧
      directory.contents = expected committed call.key := by
  obtain ⟨all, ok⟩ := cacheOk_run run
  obtain ⟨before, l, after⟩ := gets
  have done := System.step_cases stepped
  have ok' := cacheOk_step all ok clean done
  suffices filled : ∃ directory, u.store.extracted call.key = some directory ∧
      directory.state = .filled by
    obtain ⟨directory, there, state⟩ := filled
    exact ⟨directory, there, ok'.filled _ _ there state⟩
  have happened := Certified.happened all done
  clear stepped done
  unfold runningCalls at ok after before
  generalize (cacheCertified committed).crew u = crew at happened after
  generalize u.store = store at happened ⊢
  cases happened with
  | launch free started =>
    rcases update_cases after with ⟨-, new⟩ | ⟨-, still⟩
    · cases new
    · exact (before l still).elim
  | call here issues permitted performed =>
    rcases update_cases after with ⟨same, new⟩ | ⟨-, still⟩
    · subst same
      obtain ⟨rfl, observed⟩ := Prod.mk.inj (Option.some.inj new)
      refine ok.gets here (clean _ issues) (cached_of_perform permitted performed) ?_ observed
      rintro rfl
      exact before _ here
    · exact (before l still).elim
  | loop => exact (before l after).elim
  | finish here ended =>
    rcases update_cases after with ⟨-, new⟩ | ⟨-, still⟩
    · cases new
    · exact (before l still).elim
  | tick ticked => rename_i none; cases none

/-! ### A directory that an earlier call has changed -/

theorem getsWorkspace_of_stages {t u : (nodeCalls committed).State} {call : IncomingCall}
    (before : (runningCalls committed t id).map (·.2) ≠ some (.extracted call))
    (after : (runningCalls committed u id).map (·.2) = some (.extracted call)) :
    GetsWorkspace committed t u id call := by
  refine ⟨fun l here => before (by rw [here]; rfl), ?_⟩
  obtain ⟨⟨l, stage⟩, here, same⟩ := Option.map_eq_some_iff.mp after
  obtain rfl : stage = _ := same
  exact ⟨l, here⟩

namespace Sample

/-- Archives are what they contain. -/
abbrev copies : Archiver :=
  { Contents := Nat, Archive := Nat, empty := 0, extractInto := fun _ archive => archive
    pack := fun contents => contents }

def objects (key : String × Nat) : Option copies.Archive :=
  if key.2 = 0 then none else some (7 : Nat)

def shellCall (version : Nat) : IncomingCall :=
  { toolPolicy := true, hasSecret := false, payload := .agentExecute, workspaceId := "ws", version
    hasDownloadUrl := version ≠ 0, uploadVersion := version + 1 }

abbrev Calls : System NodeOps := @nodeCalls copies inferInstance objects

/-- A call that starts from nothing, whose task writes into its directory, and whose upload
fails. -/
def failedUpload : List Calls.Action :=
  [.launch 0 (shellCall 0), .call 0 .none, .call 0 .none, .call 0 (.task (5 : Nat) true),
    .call 0 .done, .call 0 .refused, .finish 0]

/-- A call for a version that is not in the cache, as far as its download. -/
def downloads : List Calls.Action :=
  [.launch 1 (shellCall 1), .call 1 .none, .call 1 .none, .call 1 .none, .call 1 .done]

/-- A run and the step after it, which all meet `C`. -/
def lastStep (C : Calls.State → Calls.Action → Prop) [∀ s a, Decidable (C s a)]
    (actions : List Calls.Action) (last : Calls.Action) : Option (Calls.State × Calls.State) :=
  (System.exec C (emptyCache objects) actions).bind fun t =>
    if C t last then (System.step t last).map fun u => (t, u) else none

/-- The stage of a call before and after, and what is in the directory of a version. -/
def look (id version : Nat) (s : Calls.State × Calls.State) :
    Option CacheStage × Option CacheStage × Option Nat :=
  ((runningCalls objects s.1 id).map (·.2), (runningCalls objects s.2 id).map (·.2),
    (s.2.store.extracted ("ws", version)).map (·.contents))

end Sample

theorem cache_coherent_download : ∃ t u : Sample.Calls.State,
    GetsWorkspace Sample.objects t u 1 (Sample.shellCall 1) ∧
      ∃ directory, u.store.extracted ("ws", 1) = some directory ∧
        directory.contents = expected Sample.objects ("ws", 1) := by
  have ran : (Sample.lastStep (CleanCache Sample.objects) Sample.downloads (.call 1 .done)).map
      (Sample.look 1 1) = some (some (.fetched (Sample.shellCall 1)),
        some (.extracted (Sample.shellCall 1)), some 7) := by decide +kernel
  obtain ⟨⟨t, u⟩, last, looks⟩ := Option.map_eq_some_iff.mp ran
  obtain ⟨before, looks⟩ := Prod.mk.inj looks
  obtain ⟨after, -⟩ := Prod.mk.inj looks
  obtain ⟨t', run, last⟩ := Option.bind_eq_some_iff.mp last
  split at last
  · rename_i clean
    obtain ⟨u', stepped, same⟩ := Option.map_eq_some_iff.mp last
    obtain ⟨rfl, rfl⟩ := Prod.mk.inj same
    have gets : GetsWorkspace Sample.objects t' u' 1 (Sample.shellCall 1) :=
      getsWorkspace_of_stages (by rw [before]; simp) after
    exact ⟨t', u', gets, cache_coherent (System.steps_of_exec run) clean stepped gets⟩
  · cases last

/-- A call for the same version finds the directory as a task of an earlier one has left it. -/
theorem cache_incoherent : ¬∀ (tools : Archiver) (_ : DecidableEq tools.Contents)
    (committed : String × Nat → Option tools.Archive) (t u : (nodeCalls committed).State)
    (a : (nodeCalls committed).Action) (id : Nat) (call : IncomingCall),
    System.Steps (fun _ _ => True) (emptyCache committed) t → System.step t a = some u →
      GetsWorkspace committed t u id call → ∃ directory, u.store.extracted call.key = some directory ∧
        directory.contents = expected committed call.key := by
  intro claim
  have ran : (Sample.lastStep (fun _ _ => True)
      (Sample.failedUpload ++ [.launch 1 (Sample.shellCall 0)]) (.call 1 .none)).map
      (Sample.look 1 0) = some (some (.begun (Sample.shellCall 0)),
        some (.extracted (Sample.shellCall 0)), some 5) := by decide +kernel
  obtain ⟨⟨t, u⟩, last, looks⟩ := Option.map_eq_some_iff.mp ran
  obtain ⟨before, looks⟩ := Prod.mk.inj looks
  obtain ⟨after, found⟩ := Prod.mk.inj looks
  obtain ⟨t', run, last⟩ := Option.bind_eq_some_iff.mp last
  rw [if_pos trivial] at last
  obtain ⟨u', stepped, same⟩ := Option.map_eq_some_iff.mp last
  obtain ⟨rfl, rfl⟩ := Prod.mk.inj same
  have gets : GetsWorkspace Sample.objects t' u' 1 (Sample.shellCall 0) :=
    getsWorkspace_of_stages (by rw [before]; simp) after
  obtain ⟨directory, there, contents⟩ :=
    claim _ _ _ t' u' _ 1 _ (System.steps_of_exec run) stepped gets
  have there : u'.store.extracted ("ws", 0) = some directory := there
  rw [there] at found
  have found : directory.contents = 5 := Option.some.inj found
  rw [found] at contents
  exact absurd contents (by decide)

end Vespid.NodeAgent
