import Vespid.Api.Invitations
import Vespid.Db.Listings

/-!
# What a share lets its user read

A workflow share gives one user the workflow, and of its runs those he requested himself. The routes
of a share look it up by its id and the user of the request each time, and leave out revoked ones.
-/

namespace Vespid.Api.SharedRuns

open Db.WorkflowShares Db.Listings Invitations

/-- A row of `workflow_runs`. -/
structure Run where
  id : Nat
  organizationId : Nat
  workflowId : Nat
  requestedByUserId : Nat
  createdAt : Nat
  deriving DecidableEq

/-- A row of `workflow_run_events`. -/
structure RunEvent where
  id : Nat
  organizationId : Nat
  workflowId : Nat
  runId : Nat
  createdAt : Nat
  deriving DecidableEq

/-- The tables, and the next id of a run or an event. -/
structure Office where
  desk : Desk
  runs : List Run
  events : List RunEvent
  nextId : Nat

/-! ### The reads of a share -/

section reads
variable (s : Office) (shareId userId : Nat)

/-- The share of the id that is the user's and not revoked. -/
def grants (share : WorkflowShare) : Bool :=
  share.id = shareId && share.userId = userId && share.revokedAt.isNone

def getSharedWorkflowByShareForUser : Option (WorkflowShare × Workflow) :=
  (s.desk.shares.shares.filter (grants shareId userId)).findSome? fun share =>
    (s.desk.shares.getWorkflowById share.organizationId share.workflowId).map fun workflow =>
      (share, workflow)

/-- The join of a run with the share, and the condition on who requested it. -/
def Office.shows (run : Run) : Bool :=
  s.desk.shares.shares.any (fun share => grants shareId userId share &&
    run.workflowId = share.workflowId && run.organizationId = share.organizationId) &&
  run.requestedByUserId = userId

def listWorkflowRunsForShareUser (limit : Nat) (cursor : Option Stamp) : List Run × Option Stamp :=
  withNextCursor (fun run => ⟨run.createdAt, run.id⟩)
    (select (fun run => ⟨run.createdAt, run.id⟩) olderThan (s.shows shareId userId) cursor
      (min 200 (max 1 limit)) s.runs)

def getWorkflowRunByIdForShareUser (runId : Nat) : Option Run :=
  s.runs.find? fun run => s.shows shareId userId run && run.id = runId

def listWorkflowRunEventsForShareUser (runId limit : Nat) (cursor : Option Stamp) :
    List RunEvent × Option Stamp :=
  withNextCursor (fun event => ⟨event.createdAt, event.id⟩)
    (select (fun event => ⟨event.createdAt, event.id⟩) newerThan
      (fun event => s.runs.any fun run => s.shows shareId userId run && run.id = runId &&
        event.runId = run.id && event.workflowId = run.workflowId &&
        event.organizationId = run.organizationId)
      cursor (min 500 (max 1 limit)) s.events)

end reads

/-! ### What happens -/

inductive Action where
  | desk (event : Event)
  /-- A run of a member, a trigger or the scheduler. -/
  | createRun (workflow : Workflow) (userId : Nat)
  | createRunByShare (shareId userId : Nat)
  | deleteRun (runId : Nat)
  | appendEvent (run : Run)

def Office.addRun (s : Office) (workflow : Workflow) (userId : Nat) : Office :=
  { s with
    runs := { id := s.nextId, organizationId := workflow.organizationId, workflowId := workflow.id,
              requestedByUserId := userId, createdAt := s.desk.now } :: s.runs
    nextId := s.nextId + 1 }

def act (users : Addresses) (s : Office) : Action → Office
  | .desk event => { s with desk := step users s.desk event }
  | .createRun workflow userId => s.addRun workflow userId
  | .createRunByShare shareId userId =>
    match getSharedWorkflowByShareForUser s shareId userId with
    | none => s
    | some (_, workflow) => s.addRun workflow userId
  | .deleteRun runId => { s with runs := s.runs.filter (·.id ≠ runId) }
  | .appendEvent run =>
    { s with
      events := { id := s.nextId, organizationId := run.organizationId,
                  workflowId := run.workflowId, runId := run.id, createdAt := s.desk.now } ::
                s.events
      nextId := s.nextId + 1 }

def emptyOffice : Office := { desk := emptyDesk, runs := [], events := [], nextId := 0 }

/-- The states of the tables, whatever happens. -/
abbrev Reached (users : Addresses) (s t : Office) : Prop :=
  History.Reached (act users) (fun _ _ => True) s t

/-! ### Where a share comes from -/

/-- The user accepted an invitation to the workflow that was for his address. -/
structure Accepted (users : Addresses) (rows : List ShareInvitation) (share : WorkflowShare)
    (row : ShareInvitation) : Prop where
  mem : row ∈ rows
  source : share.sourceInvitationId = some row.id
  organizationId : row.organizationId = share.organizationId
  workflowId : row.workflowId = share.workflowId
  status : row.status = .accepted
  acceptedBy : row.acceptedByUserId = some share.userId
  addressed : users.toLowerCase row.email = users.toLowerCase (users.emailOf share.userId)

/-- The ids of shares are their own, and each share has an accepted invitation. -/
structure ShareInv (users : Addresses) (t : Shares) : Prop where
  ids : (t.shares.map (·.id)).Nodup
  below : ∀ share ∈ t.shares, share.id < t.nextId
  sourced : ∀ share ∈ t.shares, ∃ row, Accepted users t.invitations share row

section inv
variable {users : Addresses} {t : Shares}

/-- More invitations and ids, the same shares. -/
theorem shareInv_more (inv : ShareInv users t) {workflows : List Workflow}
    {invitations : List ShareInvitation} {nextId : Nat} (more : t.nextId ≤ nextId)
    (kept : ∀ row ∈ t.invitations, row.status = .accepted → row ∈ invitations) :
    ShareInv users { t with workflows, invitations, nextId } where
  ids := inv.ids
  below share mem := Nat.lt_of_lt_of_le (inv.below share mem) more
  sourced share mem := by
    obtain ⟨row, accepted⟩ := inv.sourced share mem
    exact ⟨row, { accepted with mem := kept row accepted.mem accepted.status }⟩

/-- An update of pending invitations leaves the accepted ones alone. -/
theorem mem_updatePending {organizationId invitationId : Nat}
    {change : ShareInvitation → ShareInvitation} {row : ShareInvitation}
    (mem : row ∈ t.invitations) (accepted : row.status = .accepted) :
    row ∈ t.invitations.map fun row =>
      if Shares.isPending organizationId invitationId row then change row else row := by
  refine List.mem_map.mpr ⟨row, mem, ?_⟩
  rw [if_neg (by simp [Shares.isPending, accepted])]

theorem shareInv_update (inv : ShareInv users t) {organizationId invitationId : Nat}
    {change : ShareInvitation → ShareInvitation} {after : Shares}
    (done : t.updatePending organizationId invitationId change = some after) :
    ShareInv users after := by
  obtain rfl := updatePending_ok done
  exact shareInv_more inv le_rfl fun row mem accepted => mem_updatePending mem accepted

/-- Shares that are revoked keep their ids and invitations. -/
theorem shareInv_revoke (inv : ShareInv users t) {change : WorkflowShare → WorkflowShare}
    (keeps : ∀ share, ∃ revokedAt, change share = { share with revokedAt }) :
    ShareInv users { t with shares := t.shares.map change } where
  ids := by
    have same : (t.shares.map change).map (·.id) = t.shares.map (·.id) := by
      rw [List.map_map]
      refine List.map_congr_left fun share _ => ?_
      obtain ⟨revokedAt, is⟩ := keeps share
      simp only [Function.comp, is]
    rw [same]
    exact inv.ids
  below share mem := by
    obtain ⟨before, there, rfl⟩ := List.mem_map.mp mem
    obtain ⟨revokedAt, is⟩ := keeps before
    rw [is]
    exact inv.below before there
  sourced share mem := by
    obtain ⟨before, there, rfl⟩ := List.mem_map.mp mem
    obtain ⟨revokedAt, is⟩ := keeps before
    obtain ⟨row, accepted⟩ := inv.sourced before there
    rw [is]
    exact ⟨row, { accepted with }⟩

theorem shareInv_accept (inv : ShareInv users t) {now organizationId token userId : Nat}
    {after : Shares} (done : t.acceptWorkflowShareInvitation users.toLowerCase now organizationId
      token userId (users.emailOf userId) = .ok after) : ShareInv users after := by
  obtain ⟨row, mem, -, pending, addressed, accepted, marked, created⟩ := acceptShare_addressed done
  unfold Shares.markWorkflowShareInvitationAccepted at marked
  have updated := shareInv_update inv marked
  have revoked : ShareInv users (accepted.revokeActiveWorkflowSharesForUser now row.organizationId
      row.workflowId userId) := by
    refine shareInv_revoke updated fun share => ?_
    split
    · exact ⟨_, rfl⟩
    · exact ⟨_, rfl⟩
  obtain rfl := updatePending_ok marked
  obtain ⟨-, rfl⟩ := createWorkflowShare_ok created
  refine ⟨List.nodup_cons.mpr ⟨fun again => ?_, revoked.ids⟩, fun share there => ?_,
    fun share there => ?_⟩
  · obtain ⟨share, there, same⟩ := List.mem_map.mp again
    exact absurd same (Nat.ne_of_lt (revoked.below share there))
  · rcases List.mem_cons.mp there with rfl | old
    · exact Nat.lt_succ_self _
    · exact Nat.lt_succ_of_lt (revoked.below share old)
  · rcases List.mem_cons.mp there with rfl | old
    · refine ⟨{ row with status := .accepted, acceptedByUserId := some userId }, ?_, rfl, rfl, rfl,
        rfl, rfl, addressed⟩
      refine List.mem_map.mpr ⟨row, mem, ?_⟩
      rw [if_pos (by simp [Shares.isPending, pending])]
    · exact revoked.sourced share old

theorem shareInv_step {s : Desk} (inv : ShareInv users s.shares) (e : Event) :
    ShareInv users (step users s e).shares := by
  have members (result) : (s.withMembers result).shares = s.shares := by
    cases result <;> rfl
  cases e with
  | createOrganization slug owner =>
    rw [step, members]
    exact inv
  | publishWorkflow organizationId =>
    exact shareInv_more inv (Nat.le_succ _) fun _ mem _ => mem
  | invite organizationId email roleKey =>
    rw [step, members]
    exact inv
  | accept token userId =>
    rw [step, members]
    exact inv
  | inviteToWorkflow workflow email ttlHours =>
    simp only [step]
    split
    · cases created : inviteToWorkflow users s workflow email ttlHours with
      | error error => exact inv
      | ok after =>
        unfold inviteToWorkflow Shares.createWorkflowShareInvitation at created
        split at created
        · cases created
        · cases created
          exact shareInv_more inv (Nat.le_succ _) fun _ mem _ => List.mem_cons_of_mem _ mem
    · exact inv
  | acceptShare organizationId token userId =>
    simp only [step]
    cases done : acceptShare users s organizationId token userId with
    | error error => exact inv
    | ok after => exact shareInv_accept inv done
  | revokeInvitation organizationId invitationId =>
    simp only [step]
    cases done : s.shares.revokeWorkflowShareInvitation organizationId invitationId with
    | none => exact inv
    | some after =>
      unfold Shares.revokeWorkflowShareInvitation at done
      exact shareInv_update inv done
  | revokeShare organizationId workflowId shareId =>
    refine shareInv_revoke inv fun share => ?_
    split
    · exact ⟨_, rfl⟩
    · exact ⟨_, rfl⟩
  | wait milliseconds => exact inv

/-- Only an event at the desk changes the desk. -/
theorem desk_act (users : Addresses) (s : Office) (a : Action) :
    (act users s a).desk = s.desk ∨ ∃ e, (act users s a).desk = step users s.desk e := by
  cases a with
  | desk event => exact .inr ⟨event, rfl⟩
  | createRun workflow userId => exact .inl rfl
  | createRunByShare shareId userId =>
    left
    simp only [act]
    split <;> rfl
  | deleteRun runId => exact .inl rfl
  | appendEvent run => exact .inl rfl

/-- What the events at the desk keep, every action keeps. -/
theorem desk_invariant (Inv : Desk → Prop) (kept : ∀ d e, Inv d → Inv (step users d e))
    {s t : Office} (reached : Reached users s t) (first : Inv s.desk) : Inv t.desk := by
  refine reached.invariant (fun s => Inv s.desk) (fun s a inv _ => ?_) first
  obtain same | ⟨e, same⟩ := desk_act users s a
  · rw [same]
    exact inv
  · rw [same]
    exact kept s.desk e inv

theorem shareInv_reached {s : Office} (reached : Reached users emptyOffice s) :
    ShareInv users s.desk.shares := by
  refine desk_invariant (fun d => ShareInv users d.shares) (fun d e inv => shareInv_step inv e)
    reached ?_
  constructor <;> simp [emptyOffice, emptyDesk]

end inv

/-! ### What the reads return -/

section read
variable {s : Office} {shareId userId : Nat}

theorem grants_iff {share : WorkflowShare} : grants shareId userId share = true ↔
    share.id = shareId ∧ share.userId = userId ∧ share.revokedAt = none := by
  simp [grants, and_assoc]

theorem shows_iff {run : Run} : s.shows shareId userId run = true ↔
    (∃ share ∈ s.desk.shares.shares, grants shareId userId share = true ∧
      run.workflowId = share.workflowId ∧ run.organizationId = share.organizationId) ∧
      run.requestedByUserId = userId := by
  simp [Office.shows, and_assoc]

theorem select_mem {ρ : Type} {stamp : ρ → Stamp} {behind : Stamp → Stamp → Bool}
    {baseWhere : ρ → Bool} {cursor : Option Stamp} {limit : Nat} {table : List ρ} {row : ρ}
    (mem : row ∈ (withNextCursor stamp
      (select stamp behind baseWhere cursor limit table)).1) :
    row ∈ table ∧ baseWhere row = true := by
  have inFilter := List.mem_mergeSort.mp (List.mem_of_mem_take mem)
  obtain ⟨there, is⟩ := List.mem_filter.mp inFilter
  exact ⟨there, (Bool.and_eq_true _ _ ▸ is).1⟩

theorem getShared_mem {share : WorkflowShare} {workflow : Workflow}
    (found : getSharedWorkflowByShareForUser s shareId userId = some (share, workflow)) :
    share ∈ s.desk.shares.shares ∧ grants shareId userId share = true ∧
      share.organizationId = workflow.organizationId ∧ share.workflowId = workflow.id := by
  obtain ⟨other, mem, got⟩ := List.exists_of_findSome?_eq_some found
  obtain ⟨there, granted⟩ := List.mem_filter.mp mem
  obtain ⟨row, of, pair⟩ := Option.map_eq_some_iff.mp got
  obtain ⟨rfl, rfl⟩ := Prod.mk.inj pair
  have is := List.find?_some of
  simp only [Bool.and_eq_true, decide_eq_true_eq] at is
  exact ⟨there, granted, is.1.symm, is.2.symm⟩

theorem listRuns_mem {limit : Nat} {cursor : Option Stamp} {run : Run}
    (mem : run ∈ (listWorkflowRunsForShareUser s shareId userId limit cursor).1) :
    run ∈ s.runs ∧ s.shows shareId userId run = true :=
  select_mem mem

theorem getRun_mem {runId : Nat} {run : Run}
    (found : getWorkflowRunByIdForShareUser s shareId userId runId = some run) :
    run ∈ s.runs ∧ s.shows shareId userId run = true ∧ run.id = runId := by
  have is := List.find?_some found
  simp only [Bool.and_eq_true, decide_eq_true_eq] at is
  exact ⟨List.mem_of_find?_eq_some found, is⟩

theorem listEvents_mem {runId limit : Nat} {cursor : Option Stamp} {event : RunEvent}
    (mem : event ∈ (listWorkflowRunEventsForShareUser s shareId userId runId limit cursor).1) :
    event ∈ s.events ∧ ∃ run ∈ s.runs, s.shows shareId userId run = true ∧ run.id = runId ∧
      event.runId = run.id ∧ event.workflowId = run.workflowId ∧
      event.organizationId = run.organizationId := by
  obtain ⟨there, is⟩ := select_mem mem
  obtain ⟨run, inRuns, is⟩ := List.any_eq_true.mp is
  simp only [Bool.and_eq_true, decide_eq_true_eq] at is
  obtain ⟨⟨⟨⟨shown, id⟩, ofRun⟩, ofWorkflow⟩, ofOrg⟩ := is
  exact ⟨there, run, inRuns, shown, id, ofRun, ofWorkflow, ofOrg⟩

end read

/-- The share of the id is the user's and not revoked, it is of the workflow, and it comes from an
invitation to the user's address that he accepted. -/
def Granted (users : Addresses) (s : Office) (shareId userId organizationId workflowId : Nat) :
    Prop :=
  ∃ share ∈ s.desk.shares.shares, share.id = shareId ∧ share.userId = userId ∧
    share.revokedAt = none ∧ share.organizationId = organizationId ∧
    share.workflowId = workflowId ∧ ∃ row, Accepted users s.desk.shares.invitations share row

/-- What the user reads through the share: its workflow, his own runs of it, and their events. -/
structure ReadsOwn (users : Addresses) (s : Office) (shareId userId : Nat) : Prop where
  workflow : ∀ share workflow,
    getSharedWorkflowByShareForUser s shareId userId = some (share, workflow) →
      Granted users s shareId userId workflow.organizationId workflow.id
  runs : ∀ limit cursor, ∀ run ∈ (listWorkflowRunsForShareUser s shareId userId limit cursor).1,
    run ∈ s.runs ∧ run.requestedByUserId = userId ∧
      Granted users s shareId userId run.organizationId run.workflowId
  run : ∀ runId run, getWorkflowRunByIdForShareUser s shareId userId runId = some run →
    run ∈ s.runs ∧ run.id = runId ∧ run.requestedByUserId = userId ∧
      Granted users s shareId userId run.organizationId run.workflowId
  events : ∀ runId limit cursor,
    ∀ event ∈ (listWorkflowRunEventsForShareUser s shareId userId runId limit cursor).1,
      event ∈ s.events ∧ ∃ run ∈ s.runs, run.id = runId ∧ event.runId = runId ∧
        run.requestedByUserId = userId ∧ event.organizationId = run.organizationId ∧
        event.workflowId = run.workflowId ∧
        Granted users s shareId userId run.organizationId run.workflowId

section theorems
variable {users : Addresses} {s : Office} {shareId userId : Nat}

theorem granted_of_share (inv : ShareInv users s.desk.shares) {share : WorkflowShare}
    (mem : share ∈ s.desk.shares.shares) (granted : grants shareId userId share = true) :
    Granted users s shareId userId share.organizationId share.workflowId := by
  obtain ⟨id, user, active⟩ := grants_iff.mp granted
  exact ⟨share, mem, id, user, active, rfl, rfl, inv.sourced share mem⟩

theorem granted_of_shows (inv : ShareInv users s.desk.shares) {run : Run}
    (shown : s.shows shareId userId run = true) : run.requestedByUserId = userId ∧
      Granted users s shareId userId run.organizationId run.workflowId := by
  obtain ⟨⟨share, mem, granted, workflow, org⟩, requested⟩ := shows_iff.mp shown
  rw [workflow, org]
  exact ⟨requested, granted_of_share inv mem granted⟩

/-- Through a share its user reads the workflow he was invited to, and of its runs and their events
his own. -/
theorem shared_reads (reached : Reached users emptyOffice s) : ReadsOwn users s shareId userId := by
  have inv := shareInv_reached reached
  refine ⟨fun share workflow found => ?_, fun limit cursor run mem => ?_, fun runId run found => ?_,
    fun runId limit cursor event mem => ?_⟩
  · obtain ⟨mem, granted, org, workflowId⟩ := getShared_mem found
    rw [← org, ← workflowId]
    exact granted_of_share inv mem granted
  · obtain ⟨there, shown⟩ := listRuns_mem mem
    exact ⟨there, granted_of_shows inv shown⟩
  · obtain ⟨there, shown, id⟩ := getRun_mem found
    exact ⟨there, id, granted_of_shows inv shown⟩
  · obtain ⟨there, run, inRuns, shown, id, ofRun, ofWorkflow, ofOrg⟩ := listEvents_mem mem
    obtain ⟨requested, granted⟩ := granted_of_shows inv shown
    exact ⟨there, run, inRuns, id, ofRun.trans id, requested, ofOrg, ofWorkflow, granted⟩

end theorems

/-- Ann accepts a share and runs the workflow; a member runs it too. -/
def annRuns : List Action :=
  [.desk (.publishWorkflow 0), .desk (.inviteToWorkflow ⟨0, 0⟩ "ann" none),
    .desk (.acceptShare 0 1 7), .createRunByShare 2 7, .createRun ⟨0, 0⟩ 8]

/-- Ann reads her run through the share, and not the member's. -/
theorem shared_reads_own : ∃ s, Reached oneUser emptyOffice s ∧
    getWorkflowRunByIdForShareUser s 2 7 0 = some ⟨0, 0, 0, 7, 0⟩ ∧
    getWorkflowRunByIdForShareUser s 2 7 1 = none ∧ ReadsOwn oneUser s 2 7 := by
  have done : (History.run (act oneUser) (fun _ _ => True) emptyOffice annRuns).map (fun s =>
      (getWorkflowRunByIdForShareUser s 2 7 0, getWorkflowRunByIdForShareUser s 2 7 1)) =
        some (some ⟨0, 0, 0, 7, 0⟩, none) := by decide
  obtain ⟨s, ran, is⟩ := Option.map_eq_some_iff.mp done
  obtain ⟨own, others⟩ := Prod.mk.inj is
  have reached := History.reached_of_run ran
  exact ⟨s, reached, own, others, shared_reads reached⟩

/-! ### Revoked shares -/

section revoked
variable {users : Addresses} {s : Office} {shareId userId : Nat}

/-- Shares of the id are revoked, and there will be no other. -/
def Revoked (shareId : Nat) (t : Shares) : Prop :=
  shareId < t.nextId ∧ ∀ share ∈ t.shares, share.id = shareId → share.revokedAt.isSome = true

theorem revoked_map {t : Shares} (revoked : Revoked shareId t)
    {change : WorkflowShare → WorkflowShare}
    (keeps : ∀ share, change share = share ∨
      ∃ now, change share = { share with revokedAt := some now }) :
    Revoked shareId { t with shares := t.shares.map change } := by
  refine ⟨revoked.1, fun share mem is => ?_⟩
  obtain ⟨before, there, rfl⟩ := List.mem_map.mp mem
  obtain same | ⟨now, same⟩ := keeps before
  · rw [same] at is ⊢
    exact revoked.2 before there is
  · rw [same]
    rfl

theorem revoked_accept {t after : Shares} {now organizationId token : Nat}
    (revoked : Revoked shareId t)
    (done : t.acceptWorkflowShareInvitation users.toLowerCase now organizationId token userId
      (users.emailOf userId) = .ok after) : Revoked shareId after := by
  obtain ⟨row, -, -, -, -, accepted, marked, created⟩ := acceptShare_addressed done
  unfold Shares.markWorkflowShareInvitationAccepted at marked
  obtain rfl := updatePending_ok marked
  obtain ⟨-, rfl⟩ := createWorkflowShare_ok created
  refine ⟨Nat.lt_succ_of_lt revoked.1, fun share mem is => ?_⟩
  rcases List.mem_cons.mp mem with rfl | old
  · exact absurd is (Nat.ne_of_gt revoked.1)
  · refine (revoked_map revoked fun share => ?_).2 share old is
    split
    · exact .inr ⟨_, rfl⟩
    · exact .inl rfl

theorem revoked_step {s : Desk} (revoked : Revoked shareId s.shares) (e : Event) :
    Revoked shareId (step users s e).shares := by
  have members (result) : (s.withMembers result).shares = s.shares := by
    cases result <;> rfl
  cases e with
  | createOrganization slug owner =>
    rw [step, members]
    exact revoked
  | publishWorkflow organizationId => exact ⟨Nat.lt_succ_of_lt revoked.1, revoked.2⟩
  | invite organizationId email roleKey =>
    rw [step, members]
    exact revoked
  | accept token userId =>
    rw [step, members]
    exact revoked
  | inviteToWorkflow workflow email ttlHours =>
    simp only [step]
    split
    · cases created : inviteToWorkflow users s workflow email ttlHours with
      | error error => exact revoked
      | ok after =>
        unfold inviteToWorkflow Shares.createWorkflowShareInvitation at created
        split at created
        · cases created
        · cases created
          exact ⟨Nat.lt_succ_of_lt revoked.1, revoked.2⟩
    · exact revoked
  | acceptShare organizationId token userId =>
    simp only [step]
    cases done : acceptShare users s organizationId token userId with
    | error error => exact revoked
    | ok after => exact revoked_accept revoked done
  | revokeInvitation organizationId invitationId =>
    simp only [step]
    cases done : s.shares.revokeWorkflowShareInvitation organizationId invitationId with
    | none => exact revoked
    | some after =>
      unfold Shares.revokeWorkflowShareInvitation at done
      obtain rfl := updatePending_ok done
      exact revoked
  | revokeShare organizationId workflowId shareId =>
    refine revoked_map revoked fun share => ?_
    split
    · exact .inr ⟨_, rfl⟩
    · exact .inl rfl
  | wait milliseconds => exact revoked

/-- Of the shares only the revoked one has the id. -/
theorem revoked_of_revokeShare (inv : ShareInv users s.desk.shares) {share : WorkflowShare}
    (mem : share ∈ s.desk.shares.shares) (now : Nat) : Revoked share.id
      (s.desk.shares.revokeWorkflowShare now share.organizationId share.workflowId share.id) := by
  refine ⟨inv.below share mem, fun other there is => ?_⟩
  obtain ⟨before, old, rfl⟩ := List.mem_map.mp there
  split at is
  · next meets =>
    rw [if_pos meets]
    rfl
  · next unmet =>
    obtain rfl := List.inj_on_of_nodup_map inv.ids old mem is
    rw [if_neg unmet]
    simpa [Option.isSome_iff_ne_none] using unmet

theorem grants_of_revoked {share : WorkflowShare} (revoked : Revoked shareId s.desk.shares)
    (mem : share ∈ s.desk.shares.shares) : grants shareId userId share = false := by
  refine Bool.eq_false_iff.mpr fun granted => ?_
  obtain ⟨id, -, active⟩ := grants_iff.mp granted
  have ended := revoked.2 share mem id
  rw [active] at ended
  cases ended

theorem shows_of_revoked (revoked : Revoked shareId s.desk.shares) (run : Run) :
    s.shows shareId userId run = false := by
  refine Bool.eq_false_iff.mpr fun shown => ?_
  obtain ⟨⟨share, mem, granted, -⟩, -⟩ := shows_iff.mp shown
  rw [grants_of_revoked revoked mem] at granted
  cases granted

/-- Once a share is revoked, nobody reads anything through its id, whatever happens later. -/
theorem revoked_reads {t : Office} {share : WorkflowShare} (reached : Reached users emptyOffice s)
    (mem : share ∈ s.desk.shares.shares)
    (later : Reached users (act users s
      (.desk (.revokeShare share.organizationId share.workflowId share.id))) t)
    (reader limit runId : Nat) (cursor : Option Stamp) :
    getSharedWorkflowByShareForUser t share.id reader = none ∧
      (listWorkflowRunsForShareUser t share.id reader limit cursor).1 = [] ∧
      getWorkflowRunByIdForShareUser t share.id reader runId = none ∧
      (listWorkflowRunEventsForShareUser t share.id reader runId limit cursor).1 = [] := by
  have first := revoked_of_revokeShare (shareInv_reached reached) mem s.desk.now
  have revoked : Revoked share.id t.desk.shares :=
    desk_invariant (fun d => Revoked share.id d.shares) (fun _ e r => revoked_step r e) later first
  refine ⟨?_, ?_, ?_, ?_⟩
  · refine Option.eq_none_iff_forall_ne_some.mpr fun found is => ?_
    obtain ⟨there, granted, -⟩ := getShared_mem is
    rw [grants_of_revoked revoked there] at granted
    cases granted
  · refine List.eq_nil_iff_forall_not_mem.mpr fun run there => ?_
    have shown := (listRuns_mem there).2
    rw [shows_of_revoked revoked] at shown
    cases shown
  · refine Option.eq_none_iff_forall_ne_some.mpr fun run is => ?_
    have shown := (getRun_mem is).2.1
    rw [shows_of_revoked revoked] at shown
    cases shown
  · refine List.eq_nil_iff_forall_not_mem.mpr fun event there => ?_
    obtain ⟨-, run, -, shown, -⟩ := listEvents_mem there
    rw [shows_of_revoked revoked] at shown
    cases shown

end revoked

/-- Ann's share is revoked, and she reads nothing of her run. -/
theorem revoked_reads_ann : ∃ s share, Reached oneUser emptyOffice s ∧
    share ∈ s.desk.shares.shares ∧ (getWorkflowRunByIdForShareUser s share.id 7 0).isSome = true ∧
    getWorkflowRunByIdForShareUser (act oneUser s
      (.desk (.revokeShare share.organizationId share.workflowId share.id))) share.id 7 0 =
        none := by
  have done : (History.run (act oneUser) (fun _ _ => True) emptyOffice annRuns).map (fun s =>
      (s.desk.shares.shares, (getWorkflowRunByIdForShareUser s 2 7 0).isSome)) =
        some ([⟨2, 0, 0, 7, some 1, none⟩], true) := by decide
  obtain ⟨s, ran, is⟩ := Option.map_eq_some_iff.mp done
  obtain ⟨shares, read⟩ := Prod.mk.inj is
  have reached := History.reached_of_run ran
  have mem : ⟨2, 0, 0, 7, some 1, none⟩ ∈ s.desk.shares.shares := by simp [shares]
  exact ⟨s, _, reached, mem, read, (revoked_reads reached mem .start 7 0 0 none).2.2.1⟩

end Vespid.Api.SharedRuns
