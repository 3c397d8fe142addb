import Mathlib.Data.List.Nodup
import Vespid.Db.WorkflowShares
import Vespid.Lib.History

/-!
# Invitations over their lifetime

An expired invitation keeps the status `pending`, and an organization may have one accepted
invitation for an address. Invitations stay usable as long as none expires while it is pending and
nobody who accepted an invitation is invited to the organization again.
-/

namespace Vespid.Api.Invitations

open Db.Members Db.WorkflowShares

/-- Users by their email, and `toLowerCase`. -/
structure Addresses where
  emailOf : Nat → String
  toLowerCase : String → String

inductive Event where
  | createOrganization (slug : String) (owner : Nat)
  | publishWorkflow (organizationId : Nat)
  | invite (organizationId : Nat) (email : String) (roleKey : Role)
  | accept (token userId : Nat)
  | inviteToWorkflow (workflow : Workflow) (email : String) (ttlHours : Option Nat)
  | acceptShare (organizationId token userId : Nat)
  | revokeInvitation (organizationId invitationId : Nat)
  | revokeShare (organizationId workflowId shareId : Nat)
  | wait (milliseconds : Nat)

/-- The tables, the time, and the share invitations accepted so far. -/
structure Desk where
  members : Members
  shares : Shares
  now : Nat
  acceptances : List Nat

def Desk.withMembers (s : Desk) : Except StoreError Members → Desk
  | .ok members => { s with members }
  | .error _ => s

def Desk.withShares (s : Desk) : Except ShareError Shares → Desk
  | .ok shares => { s with shares }
  | .error _ => s

/-- `createWorkflowShareInvitationSchema`, of the time to live. -/
def ttlFits (ttlHours : Option Nat) : Bool := ttlHours.all fun hours => 1 ≤ hours && hours ≤ 30 * 24

section step
variable (users : Addresses)

def inviteToWorkflow (s : Desk) (workflow : Workflow) (email : String) (ttlHours : Option Nat) :
    Except ShareError Shares :=
  s.shares.createWorkflowShareInvitation users.toLowerCase s.now workflow.organizationId workflow.id
    email (ttlHours.getD 72)

def accept (s : Desk) (token userId : Nat) : Except StoreError Members :=
  s.members.acceptInvitation users.toLowerCase s.now token userId (users.emailOf userId)

def acceptShare (s : Desk) (organizationId token userId : Nat) : Except ShareError Shares :=
  s.shares.acceptWorkflowShareInvitation users.toLowerCase s.now organizationId token userId
    (users.emailOf userId)

def invite (s : Desk) (organizationId : Nat) (email : String) (roleKey : Role) :
    Except StoreError Members :=
  s.members.createInvitation users.toLowerCase s.now organizationId email roleKey 72

def step (s : Desk) : Event → Desk
  | .createOrganization slug owner =>
    s.withMembers (s.members.createOrganizationWithOwner slug owner)
  | .publishWorkflow organizationId =>
    { s with shares := { s.shares with
        workflows := ⟨organizationId, s.shares.nextId⟩ :: s.shares.workflows
        nextId := s.shares.nextId + 1 } }
  | .invite organizationId email roleKey =>
    s.withMembers (invite users s organizationId email roleKey)
  | .accept token userId => s.withMembers (accept users s token userId)
  | .inviteToWorkflow workflow email ttlHours =>
    if workflow ∈ s.shares.workflows ∧ ttlFits ttlHours = true then
      s.withShares (inviteToWorkflow users s workflow email ttlHours)
    else s
  | .acceptShare organizationId token userId =>
    match acceptShare users s organizationId token userId with
    | .ok shares => { s with shares, acceptances := token :: s.acceptances }
    | .error _ => s
  | .revokeInvitation organizationId invitationId =>
    { s with shares :=
        (s.shares.revokeWorkflowShareInvitation organizationId invitationId).getD s.shares }
  | .revokeShare organizationId workflowId shareId =>
    { s with shares := s.shares.revokeWorkflowShare s.now organizationId workflowId shareId }
  | .wait milliseconds => { s with now := s.now + milliseconds }

end step

def emptyDesk : Desk where
  members := { organizations := [], memberships := [], invitations := [], nextId := 0 }
  shares := { workflows := [], invitations := [], shares := [], nextId := 0 }
  now := 0
  acceptances := []

/-! ### The claim and its condition -/

/-- Pending invitations can be accepted and make a member or one active share, a share invitation is
accepted once, and an address without one can be invited. -/
structure Usable (users : Addresses) (s : Desk) : Prop where
  accepts : ∀ row ∈ s.members.invitations, row.status = .pending → s.now < row.expiresAt →
    ∀ userId, users.toLowerCase row.email = users.toLowerCase (users.emailOf userId) →
      ∃ after, accept users s row.id userId = .ok after
  joins : ∀ token userId after, accept users s token userId = .ok after →
    ∃ row ∈ s.members.invitations, row.id = token ∧
      (after.getMembership row.organizationId userId).isSome = true
  acceptsShare : ∀ row ∈ s.shares.invitations, row.status = .pending → s.now < row.expiresAt →
    ∀ userId, users.toLowerCase row.email = users.toLowerCase (users.emailOf userId) →
      ∃ after, acceptShare users s row.organizationId row.id userId = .ok after
  shares : ∀ organizationId token userId after,
    acceptShare users s organizationId token userId = .ok after →
      ∃ row ∈ s.shares.invitations, row.id = token ∧
        (after.shares.filter (Shares.isActive row.workflowId userId)).length = 1
  once : s.acceptances.Nodup ∧ ∀ organizationId token userId after,
    acceptShare users s organizationId token userId = .ok after → token ∉ s.acceptances
  invites : ∀ organizationId email roleKey,
    (∀ row ∈ s.members.invitations,
      Members.indexed organizationId (users.toLowerCase email) .pending row = true →
        row.expiresAt ≤ s.now) →
      ∃ after, invite users s organizationId email roleKey = .ok after
  invitesToWorkflow : ∀ workflow email ttlHours,
    (∀ row ∈ s.shares.invitations,
      Shares.indexed users.toLowerCase workflow.id (users.toLowerCase email) row = true →
        row.expiresAt ≤ s.now) →
      ∃ after, inviteToWorkflow users s workflow email ttlHours = .ok after

/-- Nobody is invited who accepted an invitation to the organization, and no invitation expires
while it is pending. -/
def Renewed (users : Addresses) (s : Desk) : Event → Prop
  | .invite organizationId email _ => ∀ row ∈ s.members.invitations,
      Members.indexed organizationId (users.toLowerCase email) .accepted row = false
  | .wait milliseconds =>
    (∀ row ∈ s.members.invitations, row.status = .pending → s.now + milliseconds < row.expiresAt) ∧
      ∀ row ∈ s.shares.invitations, row.status = .pending → s.now + milliseconds < row.expiresAt
  | _ => True

instance (users : Addresses) (s : Desk) (e : Event) : Decidable (Renewed users s e) := by
  cases e <;> unfold Renewed <;> infer_instance

/-! ### Invitations to organizations -/

/-- Pending invitations have not expired, one is pending for an organization and an address, and
none is accepted beside it. -/
structure MembersInv (rows : List Invitation) (nextId now : Nat) : Prop where
  ids : (rows.map (·.id)).Nodup
  below : ∀ row ∈ rows, row.id < nextId
  live : ∀ row ∈ rows, row.status = .pending → now < row.expiresAt
  onePending : ∀ a ∈ rows, ∀ b ∈ rows, a.status = .pending → b.status = .pending →
    a.organizationId = b.organizationId → a.email = b.email → a = b
  apart : ∀ a ∈ rows, ∀ b ∈ rows, a.status = .pending → b.status = .accepted →
    a.organizationId = b.organizationId → a.email ≠ b.email

section members
variable {users : Addresses} {t : Members} {rows : List Invitation} {nextId now : Nat}

theorem invitations_join (organizationId userId : Nat) (roleKey : Role) :
    (t.createMembershipIfNotExists organizationId userId roleKey).invitations = t.invitations ∧
      (t.createMembershipIfNotExists organizationId userId roleKey).nextId = t.nextId := by
  unfold Members.createMembershipIfNotExists
  split <;> exact ⟨rfl, rfl⟩

theorem isSome_join (organizationId userId : Nat) (roleKey : Role) :
    ((t.createMembershipIfNotExists organizationId userId roleKey).getMembership organizationId
      userId).isSome = true := by
  unfold Members.createMembershipIfNotExists
  split
  · next found =>
    rw [found]
    rfl
  · unfold Members.getMembership
    simp

theorem getInvitationByToken_spec {token : Nat} {row : Invitation}
    (found : t.getInvitationByToken token = some row) : row ∈ t.invitations ∧ row.id = token :=
  ⟨List.mem_of_find?_eq_some found, by simpa using List.find?_some found⟩

theorem getInvitationByToken_of_mem (inv : MembersInv t.invitations nextId now) {row : Invitation}
    (mem : row ∈ t.invitations) : t.getInvitationByToken row.id = some row := by
  cases found : t.getInvitationByToken row.id with
  | none =>
    have missing := List.find?_eq_none.mp found row mem
    simp at missing
  | some other =>
    obtain ⟨there, same⟩ := getInvitationByToken_spec found
    rw [List.inj_on_of_nodup_map inv.ids there mem same]

/-- The rows after an acceptance: the invitation of the token may have been pending. -/
theorem acceptInvitation_ok {token userId : Nat} {email : String} {after : Members}
    (done : t.acceptInvitation users.toLowerCase now token userId email = .ok after) :
    ∃ row ∈ t.invitations, row.id = token ∧
      (after.getMembership row.organizationId userId).isSome = true ∧
      after.nextId = t.nextId ∧ (after.invitations = t.invitations ∨
        row.status = .pending ∧ after.invitations = t.invitations.map fun other =>
          if other.id = row.id then { other with status := .accepted } else other) := by
  unfold Members.acceptInvitation at done
  cases found : t.getInvitationByToken token with
  | none =>
    rw [found] at done
    cases done
  | some row =>
    rw [found] at done
    dsimp only at done
    obtain ⟨mem, is⟩ := getInvitationByToken_spec found
    obtain ⟨sameRows, sameId⟩ :=
      invitations_join (t := t) row.organizationId userId row.roleKey
    have joined := isSome_join (t := t) row.organizationId userId row.roleKey
    split at done
    · cases done
    · split at done
      · cases done
      · split at done
        · next pending =>
          unfold Members.markInvitationAccepted at done
          split at done
          · cases done
          · cases done
            refine ⟨row, mem, is, joined, sameId, .inr ⟨pending, ?_⟩⟩
            show List.map _ _ = _
            rw [sameRows]
        · split at done
          · cases done
          · cases done
            exact ⟨row, mem, is, joined, sameId, .inl sameRows⟩

theorem membersInv_accepted (inv : MembersInv rows nextId now) {row : Invitation}
    (mem : row ∈ rows) (pending : row.status = .pending) :
    MembersInv (rows.map fun other =>
      if other.id = row.id then { other with status := .accepted } else other) nextId now := by
  have back {other : Invitation} (there : other ∈ rows.map fun other =>
      if other.id = row.id then { other with status := InvitationStatus.accepted } else other) :
      (other ∈ rows ∧ other.id ≠ row.id) ∨ other = { row with status := .accepted } := by
    obtain ⟨before, inRows, rfl⟩ := List.mem_map.mp there
    by_cases is : before.id = row.id
    · right
      rw [if_pos is, List.inj_on_of_nodup_map inv.ids inRows mem is]
    · left
      rw [if_neg is]
      exact ⟨inRows, is⟩
  refine ⟨?_, fun other there => ?_, fun other there is => ?_, fun a inA b inB pendA pendB => ?_,
    fun a inA b inB pendA acc => ?_⟩
  · have same : (rows.map fun other =>
        if other.id = row.id then { other with status := InvitationStatus.accepted }
        else other).map (·.id) = rows.map (·.id) := by
      rw [List.map_map]
      refine List.map_congr_left fun other _ => ?_
      simp only [Function.comp]
      split <;> rfl
    rw [same]
    exact inv.ids
  · rcases back there with ⟨old, -⟩ | rfl
    · exact inv.below other old
    · exact inv.below row mem
  · rcases back there with ⟨old, -⟩ | rfl
    · exact inv.live other old is
    · cases is
  · rcases back inA with ⟨oldA, -⟩ | rfl
    · rcases back inB with ⟨oldB, -⟩ | rfl
      · exact inv.onePending a oldA b oldB pendA pendB
      · cases pendB
    · cases pendA
  · intro org email
    rcases back inA with ⟨oldA, otherA⟩ | rfl
    · rcases back inB with ⟨oldB, -⟩ | rfl
      · exact inv.apart a oldA b oldB pendA acc org email
      · exact otherA (by rw [inv.onePending a oldA row mem pendA pending org email])
    · cases pendA

theorem membersInv_invited (inv : MembersInv rows nextId now) {row : Invitation}
    (id : row.id = nextId) (live : now < row.expiresAt) (pending : row.status = .pending)
    (fresh : ∀ other ∈ rows, Members.indexed row.organizationId row.email .pending other = false)
    (unaccepted : ∀ other ∈ rows,
      Members.indexed row.organizationId row.email .accepted other = false) :
    MembersInv (row :: rows) (nextId + 1) now := by
  have other {status : InvitationStatus} {a : Invitation}
      (none_ : Members.indexed row.organizationId row.email status a = false)
      (is : a.status = status) (org : a.organizationId = row.organizationId) :
      a.email ≠ row.email := by
    intro same
    simp [Members.indexed, is, org, same] at none_
  refine ⟨List.nodup_cons.mpr ⟨fun again => ?_, inv.ids⟩, fun a mem => ?_, fun a mem is => ?_,
    fun a inA b inB pendA pendB org email => ?_, fun a inA b inB pendA acc org email => ?_⟩
  · obtain ⟨a, there, same⟩ := List.mem_map.mp again
    have small := inv.below a there
    have taken : a.id = row.id := same
    omega
  · rcases List.mem_cons.mp mem with rfl | old
    · omega
    · exact Nat.lt_succ_of_lt (inv.below a old)
  · rcases List.mem_cons.mp mem with rfl | old
    · exact live
    · exact inv.live a old is
  · rcases List.mem_cons.mp inA with rfl | oldA
    · rcases List.mem_cons.mp inB with rfl | oldB
      · rfl
      · exact absurd email.symm (other (fresh b oldB) pendB org.symm)
    · rcases List.mem_cons.mp inB with rfl | oldB
      · exact absurd email (other (fresh a oldA) pendA org)
      · exact inv.onePending a oldA b oldB pendA pendB org email
  · rcases List.mem_cons.mp inB with rfl | oldB
    · rw [pending] at acc
      cases acc
    · rcases List.mem_cons.mp inA with rfl | oldA
      · exact other (unaccepted b oldB) acc org.symm email.symm
      · exact inv.apart a oldA b oldB pendA acc org email

theorem accept_usable (inv : MembersInv t.invitations nextId now) {row : Invitation}
    (mem : row ∈ t.invitations) (pending : row.status = .pending) (live : now < row.expiresAt)
    {userId : Nat} {email : String} (same : users.toLowerCase row.email = users.toLowerCase email) :
    ∃ after, t.acceptInvitation users.toLowerCase now row.id userId email = .ok after := by
  unfold Members.acceptInvitation
  rw [getInvitationByToken_of_mem inv mem]
  dsimp only
  rw [if_neg (not_not.mpr same), if_neg (by omega), if_pos pending]
  unfold Members.markInvitationAccepted
  rw [(invitations_join _ _ _).1, if_neg ?_]
  · exact ⟨_, rfl⟩
  · intro taken
    obtain ⟨other, there, is⟩ := List.any_eq_true.mp taken
    simp only [Members.indexed, Bool.and_eq_true, decide_eq_true_eq] at is
    obtain ⟨-, ⟨org, email⟩, accepted⟩ := is
    exact inv.apart row mem other there pending accepted org.symm email.symm

end members

/-! ### Invitations to workflows -/

/-- Pending invitations have not expired, invitations and shares are of workflows, and the accepted
invitations are not pending. -/
structure SharesInv (t : Shares) (now : Nat) (acceptances : List Nat) : Prop where
  workflowIds : (t.workflows.map (·.id)).Nodup
  workflowsBelow : ∀ row ∈ t.workflows, row.id < t.nextId
  ids : (t.invitations.map (·.id)).Nodup
  below : ∀ row ∈ t.invitations, row.id < t.nextId
  live : ∀ row ∈ t.invitations, row.status = .pending → now < row.expiresAt
  known : ∀ row ∈ t.invitations, ⟨row.organizationId, row.workflowId⟩ ∈ t.workflows
  shared : ∀ share ∈ t.shares, ⟨share.organizationId, share.workflowId⟩ ∈ t.workflows
  once : acceptances.Nodup
  past : ∀ token ∈ acceptances, ∃ row ∈ t.invitations, row.id = token ∧ row.status ≠ .pending

section shares
variable {users : Addresses} {t : Shares} {now : Nat} {acceptances : List Nat}

theorem shareInvitation_unique (inv : SharesInv t now acceptances) {a b : ShareInvitation}
    (memA : a ∈ t.invitations) (memB : b ∈ t.invitations) (same : a.id = b.id) : a = b :=
  List.inj_on_of_nodup_map inv.ids memA memB same

theorem getByToken_spec {organizationId token : Nat} {row : ShareInvitation}
    (found : t.getWorkflowShareInvitationByToken organizationId token = some row) :
    row ∈ t.invitations ∧ row.id = token := by
  have is := List.find?_some found
  simp only [Bool.and_eq_true, decide_eq_true_eq] at is
  exact ⟨List.mem_of_find?_eq_some found, is.2⟩

/-- What an acceptance does to the tables, and that the invitation is for the address. -/
theorem acceptShare_addressed {organizationId token userId : Nat} {email : String} {after : Shares}
    (done : t.acceptWorkflowShareInvitation users.toLowerCase now organizationId token userId email =
      .ok after) :
    ∃ row ∈ t.invitations, row.id = token ∧ row.status = .pending ∧
      users.toLowerCase row.email = users.toLowerCase email ∧
      ∃ accepted, t.markWorkflowShareInvitationAccepted row.organizationId row.id userId =
        some accepted ∧
      (accepted.revokeActiveWorkflowSharesForUser now row.organizationId row.workflowId
        userId).createWorkflowShare row.organizationId row.workflowId userId (some row.id) =
          .ok after := by
  unfold Shares.acceptWorkflowShareInvitation at done
  cases found : t.getWorkflowShareInvitationByToken organizationId token with
  | none =>
    rw [found] at done
    cases done
  | some row =>
    rw [found] at done
    dsimp only at done
    obtain ⟨mem, is⟩ := getByToken_spec found
    split at done
    · cases done
    · next addressed =>
      split at done
      · cases done
      · split at done
        · cases done
        · next pending =>
          split at done
          · cases done
          · split at done
            · cases done
            · next accepted marked =>
              exact ⟨row, mem, is, not_not.mp pending, not_not.mp addressed, accepted, marked,
                done⟩

theorem acceptShare_ok {organizationId token userId : Nat} {email : String} {after : Shares}
    (done : t.acceptWorkflowShareInvitation users.toLowerCase now organizationId token userId email =
      .ok after) :
    ∃ row ∈ t.invitations, row.id = token ∧ row.status = .pending ∧
      ∃ accepted, t.markWorkflowShareInvitationAccepted row.organizationId row.id userId =
        some accepted ∧
      (accepted.revokeActiveWorkflowSharesForUser now row.organizationId row.workflowId
        userId).createWorkflowShare row.organizationId row.workflowId userId (some row.id) =
          .ok after := by
  obtain ⟨row, mem, is, pending, -, rest⟩ := acceptShare_addressed done
  exact ⟨row, mem, is, pending, rest⟩

theorem createWorkflowShare_ok {organizationId workflowId userId : Nat} {source : Option Nat}
    {after : Shares} (done : t.createWorkflowShare organizationId workflowId userId source =
      .ok after) :
    t.shares.any (Shares.isActive workflowId userId) = false ∧ after = { t with
      shares := { id := t.nextId, organizationId, workflowId, userId, sourceInvitationId := source,
                  revokedAt := none } :: t.shares
      nextId := t.nextId + 1 } := by
  unfold Shares.createWorkflowShare at done
  split at done
  · cases done
  · next free => exact ⟨by simpa using free, (Except.ok.inj done).symm⟩

theorem updatePending_ok {organizationId invitationId : Nat}
    {change : ShareInvitation → ShareInvitation} {after : Shares}
    (done : t.updatePending organizationId invitationId change = some after) :
    after = { t with invitations := t.invitations.map fun row =>
      if Shares.isPending organizationId invitationId row then change row else row } := by
  unfold Shares.updatePending at done
  split at done
  · exact (Option.some.inj done).symm
  · cases done

theorem sharesInv_update (inv : SharesInv t now acceptances) {organizationId invitationId : Nat}
    {change : ShareInvitation → ShareInvitation} {after : Shares}
    (keeps : ∀ row, (change row).id = row.id ∧ (change row).organizationId = row.organizationId ∧
      (change row).workflowId = row.workflowId ∧ (change row).status ≠ .pending)
    (done : t.updatePending organizationId invitationId change = some after) :
    SharesInv after now acceptances := by
  obtain rfl := updatePending_ok done
  have back {row : ShareInvitation} (mem : row ∈ t.invitations.map fun row =>
      if Shares.isPending organizationId invitationId row then change row else row) :
      ∃ before ∈ t.invitations, row.id = before.id ∧ row.organizationId = before.organizationId ∧
        row.workflowId = before.workflowId ∧ (row.status = .pending → row = before) := by
    obtain ⟨before, there, rfl⟩ := List.mem_map.mp mem
    obtain ⟨id, org, workflow, status⟩ := keeps before
    refine ⟨before, there, ?_⟩
    split
    · exact ⟨id, org, workflow, fun is => absurd is status⟩
    · exact ⟨rfl, rfl, rfl, fun _ => rfl⟩
  refine ⟨inv.workflowIds, inv.workflowsBelow, ?_, fun row mem => ?_, fun row mem is => ?_,
    fun row mem => ?_, inv.shared, inv.once, fun token mem => ?_⟩
  · have same : (t.invitations.map fun row => if Shares.isPending organizationId invitationId row
        then change row else row).map (·.id) = t.invitations.map (·.id) := by
      rw [List.map_map]
      refine List.map_congr_left fun row _ => ?_
      simp only [Function.comp]
      split
      · exact (keeps row).1
      · rfl
    show (List.map _ (List.map _ _)).Nodup
    rw [same]
    exact inv.ids
  · obtain ⟨before, there, id, -⟩ := back mem
    rw [id]
    exact inv.below before there
  · obtain ⟨before, there, -, -, -, same⟩ := back mem
    obtain rfl := same is
    exact inv.live row there is
  · obtain ⟨before, there, -, org, workflow, -⟩ := back mem
    rw [org, workflow]
    exact inv.known before there
  · obtain ⟨row, there, is, ended⟩ := inv.past token mem
    refine ⟨_, List.mem_map.mpr ⟨row, there, rfl⟩, ?_⟩
    split
    · exact ⟨(keeps row).1.trans is, (keeps row).2.2.2⟩
    · exact ⟨is, ended⟩

/-- Shares that only change when they were revoked. -/
theorem sharesInv_revoke (inv : SharesInv t now acceptances) {change : WorkflowShare → WorkflowShare}
    (keeps : ∀ share, (change share).organizationId = share.organizationId ∧
      (change share).workflowId = share.workflowId) :
    SharesInv { t with shares := t.shares.map change } now acceptances where
  workflowIds := inv.workflowIds
  workflowsBelow := inv.workflowsBelow
  ids := inv.ids
  below := inv.below
  live := inv.live
  known := inv.known
  shared share mem := by
    obtain ⟨before, there, rfl⟩ := List.mem_map.mp mem
    rw [(keeps before).1, (keeps before).2]
    exact inv.shared before there
  once := inv.once
  past := inv.past

/-- The invitation that was accepted is not pending any more. -/
theorem accepted_ended {row : ShareInvitation} {userId : Nat} {accepted : Shares}
    (mem : row ∈ t.invitations) (pending : row.status = .pending)
    (marked : t.markWorkflowShareInvitationAccepted row.organizationId row.id userId =
      some accepted) :
    ∃ now ∈ accepted.invitations, now.id = row.id ∧ now.status ≠ .pending := by
  obtain rfl := updatePending_ok marked
  refine ⟨_, List.mem_map.mpr ⟨row, mem, rfl⟩, ?_⟩
  rw [if_pos (by simp [Shares.isPending, pending])]
  exact ⟨rfl, fun still => by cases still⟩

theorem sharesInv_accepted (inv : SharesInv t now acceptances)
    {organizationId token userId : Nat} {email : String} {after : Shares}
    (done : t.acceptWorkflowShareInvitation users.toLowerCase now organizationId token userId email =
      .ok after) : SharesInv after now (token :: acceptances) := by
  obtain ⟨row, mem, rfl, pending, accepted, marked, created⟩ := acceptShare_ok done
  have updated : SharesInv accepted now acceptances := by
    unfold Shares.markWorkflowShareInvitationAccepted at marked
    refine sharesInv_update inv ?_ marked
    exact fun _ => ⟨rfl, rfl, rfl, InvitationStatus.noConfusion⟩
  have same : accepted.workflows = t.workflows := by rw [updatePending_ok marked]
  let change (share : WorkflowShare) : WorkflowShare :=
    if share.organizationId = row.organizationId ∧
        Shares.isActive row.workflowId userId share = true then
      { share with revokedAt := some now }
    else share
  have keeps (share : WorkflowShare) : (change share).organizationId = share.organizationId ∧
      (change share).workflowId = share.workflowId := by
    unfold change
    split <;> exact ⟨rfl, rfl⟩
  have revoked := sharesInv_revoke updated keeps
  obtain ⟨-, rfl⟩ := createWorkflowShare_ok created
  refine ⟨revoked.workflowIds, fun w there => Nat.lt_succ_of_lt (revoked.workflowsBelow w there),
    revoked.ids, fun other there => Nat.lt_succ_of_lt (revoked.below other there), revoked.live,
    revoked.known, fun share there => ?_, List.nodup_cons.mpr ⟨fun again => ?_, inv.once⟩,
    fun token there => ?_⟩
  · rcases List.mem_cons.mp there with rfl | old
    · show _ ∈ accepted.workflows
      rw [same]
      exact inv.known row mem
    · exact revoked.shared share old
  · obtain ⟨other, inT, is, ended⟩ := inv.past row.id again
    rw [shareInvitation_unique inv inT mem is] at ended
    exact ended pending
  · rcases List.mem_cons.mp there with rfl | old
    · have ended := accepted_ended mem pending marked
      exact ended
    · exact updated.past token old

theorem acceptShare_usable (inv : SharesInv t now acceptances) {row : ShareInvitation}
    (mem : row ∈ t.invitations) (pending : row.status = .pending) (live : now < row.expiresAt)
    {userId : Nat} {email : String} (same : users.toLowerCase row.email = users.toLowerCase email) :
    ∃ after, t.acceptWorkflowShareInvitation users.toLowerCase now row.organizationId row.id userId
      email = .ok after := by
  have found : t.getWorkflowShareInvitationByToken row.organizationId row.id = some row := by
    cases found : t.getWorkflowShareInvitationByToken row.organizationId row.id with
    | none =>
      have missing := List.find?_eq_none.mp found row mem
      simp at missing
    | some other =>
      obtain ⟨there, is⟩ := getByToken_spec found
      rw [shareInvitation_unique inv there mem is]
  have workflow : ∃ w, t.getWorkflowById row.organizationId row.workflowId = some w := by
    refine Option.isSome_iff_exists.mp (List.find?_isSome.mpr ?_)
    exact ⟨_, inv.known row mem, by simp⟩
  obtain ⟨w, workflow⟩ := workflow
  have marked : ∃ accepted,
      t.markWorkflowShareInvitationAccepted row.organizationId row.id userId = some accepted ∧
        accepted.shares = t.shares := by
    unfold Shares.markWorkflowShareInvitationAccepted Shares.updatePending
    rw [if_pos (List.any_eq_true.mpr ⟨row, mem, by simp [Shares.isPending, pending]⟩)]
    exact ⟨_, rfl, rfl⟩
  obtain ⟨accepted, marked, kept⟩ := marked
  have none_ : (accepted.revokeActiveWorkflowSharesForUser now row.organizationId row.workflowId
      userId).shares.any (Shares.isActive row.workflowId userId) = false := by
    unfold Shares.revokeActiveWorkflowSharesForUser
    rw [kept]
    refine List.any_eq_false.mpr fun share there active => ?_
    obtain ⟨before, inT, rfl⟩ := List.mem_map.mp there
    split at active
    · simp [Shares.isActive] at active
    · next kept =>
      have ofWorkflow : before.workflowId = row.workflowId := by
        simp only [Shares.isActive, Bool.and_eq_true, decide_eq_true_eq] at active
        exact active.1.1
      have one := List.inj_on_of_nodup_map inv.workflowIds (inv.shared before inT)
        (inv.known row mem) ofWorkflow
      exact kept ⟨congrArg Workflow.organizationId one, active⟩
  unfold Shares.acceptWorkflowShareInvitation
  rw [found]
  dsimp only
  rw [if_neg (not_not.mpr same), if_neg (by omega), if_neg (not_not.mpr pending), workflow]
  dsimp only
  rw [marked]
  dsimp only
  unfold Shares.createWorkflowShare
  rw [none_]
  exact ⟨_, rfl⟩

/-- A share that was created is the only active one of its workflow and user. -/
theorem one_active {organizationId workflowId userId : Nat} {source : Option Nat} {after : Shares}
    (done : t.createWorkflowShare organizationId workflowId userId source = .ok after) :
    (after.shares.filter (Shares.isActive workflowId userId)).length = 1 := by
  obtain ⟨free, rfl⟩ := createWorkflowShare_ok done
  have others : t.shares.filter (Shares.isActive workflowId userId) = [] := by
    refine List.filter_eq_nil_iff.mpr fun share mem => ?_
    exact List.any_eq_false.mp free share mem
  rw [List.filter_cons_of_pos (by simp [Shares.isActive]), others]
  rfl

theorem sharesInv_invited (inv : SharesInv t now acceptances) {workflow : Workflow}
    (mem : workflow ∈ t.workflows) {row : ShareInvitation} (id : row.id = t.nextId)
    (org : row.organizationId = workflow.organizationId) (of : row.workflowId = workflow.id)
    (live : now < row.expiresAt) :
    SharesInv { t with invitations := row :: t.invitations, nextId := t.nextId + 1 } now
      acceptances where
  workflowIds := inv.workflowIds
  workflowsBelow w there := Nat.lt_succ_of_lt (inv.workflowsBelow w there)
  ids := by
    refine List.nodup_cons.mpr ⟨fun again => ?_, inv.ids⟩
    obtain ⟨other, there, same⟩ := List.mem_map.mp again
    have small := inv.below other there
    have taken : other.id = row.id := same
    omega
  below other there := by
    rcases List.mem_cons.mp there with rfl | old
    · show other.id < t.nextId + 1
      omega
    · exact Nat.lt_succ_of_lt (inv.below other old)
  live other there is := by
    rcases List.mem_cons.mp there with rfl | old
    · exact live
    · exact inv.live other old is
  known other there := by
    rcases List.mem_cons.mp there with rfl | old
    · rw [org, of]
      exact mem
    · exact inv.known other old
  shared := inv.shared
  once := inv.once
  past token there := by
    obtain ⟨other, old, is⟩ := inv.past token there
    exact ⟨other, List.mem_cons_of_mem _ old, is⟩

end shares

/-! ### Every history -/

section history
variable {users : Addresses} {s : Desk}

/-- The tables between two events. -/
def DeskInv (s : Desk) : Prop :=
  MembersInv s.members.invitations s.members.nextId s.now ∧
    SharesInv s.shares s.now s.acceptances

theorem deskInv_withMembers {result : Except StoreError Members} (inv : DeskInv s)
    (kept : ∀ members, result = .ok members →
      MembersInv members.invitations members.nextId s.now) : DeskInv (s.withMembers result) := by
  cases result with
  | error error => exact inv
  | ok members => exact ⟨kept members rfl, inv.2⟩

theorem membersInv_next {rows : List Invitation} {nextId now : Nat}
    (inv : MembersInv rows nextId now) : MembersInv rows (nextId + 1) now :=
  ⟨inv.ids, fun row mem => Nat.lt_succ_of_lt (inv.below row mem), inv.live, inv.onePending, inv.apart⟩

theorem hour_pos {now hours : Nat} (pos : 0 < hours) : now < now + hours * Members.hour := by
  have : 0 < hours * Members.hour := Nat.mul_pos pos (by decide)
  omega

theorem deskInv_step (inv : DeskInv s) (e : Event) (renewed : Renewed users s e) :
    DeskInv (step users s e) := by
  obtain ⟨members, shares⟩ := inv
  cases e with
  | createOrganization slug owner =>
    refine deskInv_withMembers ⟨members, shares⟩ fun after done => ?_
    unfold Members.createOrganizationWithOwner at done
    split at done
    · cases done
    · cases done
      exact membersInv_next members
  | publishWorkflow organizationId =>
    refine ⟨members, ?_⟩
    refine ⟨List.nodup_cons.mpr ⟨fun again => ?_, shares.workflowIds⟩, fun w mem => ?_, shares.ids,
      fun row mem => Nat.lt_succ_of_lt (shares.below row mem), shares.live,
      fun row mem => List.mem_cons_of_mem _ (shares.known row mem),
      fun share mem => List.mem_cons_of_mem _ (shares.shared share mem), shares.once, shares.past⟩
    · obtain ⟨w, mem, same⟩ := List.mem_map.mp again
      have small := shares.workflowsBelow w mem
      have taken : w.id = s.shares.nextId := same
      omega
    · rcases List.mem_cons.mp mem with rfl | old
      · exact Nat.lt_succ_self _
      · exact Nat.lt_succ_of_lt (shares.workflowsBelow w old)
  | invite organizationId email roleKey =>
    refine deskInv_withMembers ⟨members, shares⟩ fun after done => ?_
    unfold invite Members.createInvitation at done
    split at done
    · cases done
    · next free =>
      cases done
      refine membersInv_invited members rfl (hour_pos (by decide)) rfl (fun other mem => ?_) renewed
      by_contra pending
      exact free (List.any_eq_true.mpr ⟨other, mem, eq_true_of_ne_false pending⟩)
  | accept token userId =>
    refine deskInv_withMembers ⟨members, shares⟩ fun after done => ?_
    obtain ⟨row, mem, -, -, nextId, same | ⟨pending, changed⟩⟩ := acceptInvitation_ok done
    · rw [same, nextId]
      exact members
    · rw [changed, nextId]
      exact membersInv_accepted members mem pending
  | inviteToWorkflow workflow email ttlHours =>
    simp only [step]
    split
    · next valid =>
      obtain ⟨mem, fits⟩ := valid
      cases created : inviteToWorkflow users s workflow email ttlHours with
      | error error => exact ⟨members, shares⟩
      | ok after =>
        unfold inviteToWorkflow Shares.createWorkflowShareInvitation at created
        split at created
        · cases created
        · cases created
          refine ⟨members, sharesInv_invited shares mem rfl rfl rfl (hour_pos ?_)⟩
          cases ttlHours with
          | none => decide
          | some hours =>
            simp only [ttlFits, Option.all_some, Bool.and_eq_true, decide_eq_true_eq] at fits
            exact fits.1
    · exact ⟨members, shares⟩
  | acceptShare organizationId token userId =>
    simp only [step]
    cases done : acceptShare users s organizationId token userId with
    | error error => exact ⟨members, shares⟩
    | ok after => exact ⟨members, sharesInv_accepted shares done⟩
  | revokeInvitation organizationId invitationId =>
    simp only [step]
    cases done : s.shares.revokeWorkflowShareInvitation organizationId invitationId with
    | none => exact ⟨members, shares⟩
    | some after =>
      refine ⟨members, ?_⟩
      unfold Shares.revokeWorkflowShareInvitation at done
      refine sharesInv_update shares ?_ done
      exact fun _ => ⟨rfl, rfl, rfl, InvitationStatus.noConfusion⟩
  | revokeShare organizationId workflowId shareId =>
    refine ⟨members, sharesInv_revoke shares fun share => ?_⟩
    split <;> exact ⟨rfl, rfl⟩
  | wait milliseconds =>
    obtain ⟨liveMembers, liveShares⟩ := renewed
    exact ⟨{ members with live := liveMembers }, { shares with live := liveShares }⟩

theorem usable_of_inv (inv : DeskInv s) : Usable users s := by
  obtain ⟨members, shares⟩ := inv
  refine ⟨fun row mem pending live userId same => accept_usable members mem pending live same,
    fun token userId after done => ?_,
    fun row mem pending live userId same => acceptShare_usable shares mem pending live same,
    fun organizationId token userId after done => ?_,
    ⟨shares.once, fun organizationId token userId after done again => ?_⟩,
    fun organizationId email roleKey free => ?_, fun workflow email ttlHours free => ?_⟩
  · obtain ⟨row, mem, is, joined, -⟩ := acceptInvitation_ok done
    exact ⟨row, mem, is, joined⟩
  · obtain ⟨row, mem, is, -, accepted, -, created⟩ := acceptShare_ok done
    exact ⟨row, mem, is, one_active created⟩
  · obtain ⟨row, mem, rfl, pending, -⟩ := acceptShare_ok done
    obtain ⟨other, there, is, ended⟩ := shares.past row.id again
    rw [shareInvitation_unique shares there mem is] at ended
    exact ended pending
  · unfold invite Members.createInvitation
    rw [if_neg ?_]
    · exact ⟨_, rfl⟩
    · intro taken
      obtain ⟨row, mem, is⟩ := List.any_eq_true.mp taken
      have expired := free row mem is
      simp only [Members.indexed, Bool.and_eq_true, decide_eq_true_eq] at is
      have := members.live row mem is.2
      omega
  · unfold inviteToWorkflow Shares.createWorkflowShareInvitation
    rw [if_neg ?_]
    · exact ⟨_, rfl⟩
    · intro taken
      obtain ⟨row, mem, is⟩ := List.any_eq_true.mp taken
      have expired := free row mem is
      simp only [Shares.indexed, Bool.and_eq_true, decide_eq_true_eq] at is
      have := shares.live row mem is.1.1
      omega

end history

theorem deskInv_empty : DeskInv emptyDesk := by
  constructor
  · constructor <;> simp [emptyDesk]
  · constructor <;> simp [emptyDesk]

/-- Invitations are usable while nobody who accepted one is invited again and none expires while it
is pending. -/
theorem invitations_usable (users : Addresses) (s : Desk)
    (reached : History.Reached (step users) (Renewed users) emptyDesk s) : Usable users s :=
  usable_of_inv (reached.invariant DeskInv (fun _ e inv renewed => deskInv_step inv e renewed)
    deskInv_empty)

/-! ### One address -/

def oneUser : Addresses where
  emailOf _ := "ann"
  toLowerCase email := email

/-- Ann accepts an invitation to an organization and one to a workflow. -/
theorem invitations_usable_accepted : ∃ s,
    History.Reached (step oneUser) (Renewed oneUser) emptyDesk s ∧
      s.members.memberships.length = 1 ∧ s.acceptances = [1] ∧ Usable oneUser s := by
  have done : ((History.run (step oneUser) (Renewed oneUser) emptyDesk
      [.invite 0 "ann" .member, .accept 0 7, .publishWorkflow 0,
        .inviteToWorkflow ⟨0, 0⟩ "ann" none, .acceptShare 0 1 7]).map fun s =>
          (s.members.memberships.length, s.acceptances)) = some (1, [1]) := by decide
  obtain ⟨s, ran, is⟩ := Option.map_eq_some_iff.mp done
  obtain ⟨members, acceptances⟩ := Prod.mk.inj is
  have reached := History.reached_of_run ran
  exact ⟨s, reached, members, acceptances, invitations_usable oneUser s reached⟩

/-- An address whose invitation has expired cannot be invited again. -/
theorem address_locked_out : ¬ ∀ (users : Addresses) (s : Desk),
    History.Reached (step users) (fun _ _ => True) emptyDesk s → Usable users s := by
  intro claim
  have done : ((History.run (step oneUser) (fun _ _ => True) emptyDesk
      [.invite 0 "ann" .member, .wait (73 * Members.hour)]).map fun s =>
        (s.members, s.now)) =
          some ({ organizations := [], memberships := [],
                  invitations := [⟨0, 0, "ann", .member, .pending, 72 * Members.hour⟩],
                  nextId := 1 }, 73 * Members.hour) := by decide
  obtain ⟨s, ran, is⟩ := Option.map_eq_some_iff.mp done
  obtain ⟨members, now⟩ := Prod.mk.inj is
  have usable := claim oneUser s (History.reached_of_run ran)
  obtain ⟨after, invited⟩ := usable.invites 0 "ann" .member fun row mem _ => by
    rw [members] at mem
    obtain rfl := List.mem_singleton.mp mem
    rw [now]
    decide
  unfold invite at invited
  rw [members] at invited
  cases invited

end Vespid.Api.Invitations
