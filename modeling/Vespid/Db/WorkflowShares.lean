import Vespid.Db.Members

/-!
# Workflow shares

Invitations to run a workflow and the shares that come from them. One pending invitation may stand
for a workflow and an address, and one active share for a workflow and a user.
-/

namespace Vespid.Db.WorkflowShares

open Members (InvitationStatus)

structure Workflow where
  organizationId : Nat
  id : Nat
  deriving DecidableEq

/-- A row of `workflow_share_invitations`; its token spells its id. -/
structure ShareInvitation where
  id : Nat
  organizationId : Nat
  workflowId : Nat
  email : String
  status : InvitationStatus
  acceptedByUserId : Option Nat
  expiresAt : Nat
  deriving DecidableEq

/-- A row of `workflow_shares`. -/
structure WorkflowShare where
  id : Nat
  organizationId : Nat
  workflowId : Nat
  userId : Nat
  sourceInvitationId : Option Nat
  revokedAt : Option Nat
  deriving DecidableEq

structure Shares where
  workflows : List Workflow
  invitations : List ShareInvitation
  shares : List WorkflowShare
  nextId : Nat
  deriving DecidableEq

inductive ShareError where
  | alreadyPending
  | notFound
  | emailMismatch
  | expired
  | notPending
  | workflowNotFound
  | uniqueViolation
  deriving DecidableEq

namespace Shares
variable (t : Shares)

def getWorkflowById (organizationId workflowId : Nat) : Option Workflow :=
  t.workflows.find? fun row => row.organizationId = organizationId && row.id = workflowId

def isActive (workflowId userId : Nat) (share : WorkflowShare) : Bool :=
  share.workflowId = workflowId && share.userId = userId && share.revokedAt.isNone

def revokeActiveWorkflowSharesForUser (now organizationId workflowId userId : Nat) : Shares :=
  { t with shares := t.shares.map fun share =>
      if share.organizationId = organizationId ∧ isActive workflowId userId share = true then
        { share with revokedAt := some now }
      else share }

def createWorkflowShare (organizationId workflowId userId : Nat)
    (sourceInvitationId : Option Nat) : Except ShareError Shares :=
  if t.shares.any (isActive workflowId userId) then .error .uniqueViolation
  else .ok { t with
    shares := { id := t.nextId, organizationId, workflowId, userId, sourceInvitationId,
                revokedAt := none } :: t.shares
    nextId := t.nextId + 1 }

def revokeWorkflowShare (now organizationId workflowId shareId : Nat) : Shares :=
  { t with shares := t.shares.map fun share =>
      if share.organizationId = organizationId ∧ share.workflowId = workflowId ∧
          share.id = shareId ∧ share.revokedAt.isNone = true then
        { share with revokedAt := some now }
      else share }

def getWorkflowShareInvitationByToken (organizationId token : Nat) : Option ShareInvitation :=
  t.invitations.find? fun row => row.organizationId = organizationId && row.id = token

/-- Where the update of a pending invitation applies. -/
def isPending (organizationId invitationId : Nat) (row : ShareInvitation) : Bool :=
  row.organizationId = organizationId && row.id = invitationId && row.status = .pending

/-- The tables after the update of a pending invitation, if there is one. -/
def updatePending (organizationId invitationId : Nat)
    (change : ShareInvitation → ShareInvitation) : Option Shares :=
  if t.invitations.any (isPending organizationId invitationId) then
    some { t with invitations := t.invitations.map fun row =>
      if isPending organizationId invitationId row then change row else row }
  else none

def markWorkflowShareInvitationAccepted (organizationId invitationId acceptedByUserId : Nat) :
    Option Shares :=
  t.updatePending organizationId invitationId fun row =>
    { row with status := .accepted, acceptedByUserId := some acceptedByUserId }

def revokeWorkflowShareInvitation (organizationId invitationId : Nat) : Option Shares :=
  t.updatePending organizationId invitationId fun row =>
    { row with status := .revoked, acceptedByUserId := none }

section invitations
variable (toLowerCase : String → String)

/-- A row of the unique index on workflow and `lower(email)` of pending invitations. -/
def indexed (workflowId : Nat) (email : String) (row : ShareInvitation) : Bool :=
  row.status = .pending && row.workflowId = workflowId && toLowerCase row.email = toLowerCase email

/-- A row added by `createWorkflowShareInvitation`. -/
def invited (now organizationId workflowId : Nat) (email : String) (ttlHours : Nat) :
    ShareInvitation :=
  { id := t.nextId, organizationId, workflowId, email := toLowerCase email, status := .pending,
    acceptedByUserId := none, expiresAt := now + ttlHours * Members.Members.hour }

def createWorkflowShareInvitation (now organizationId workflowId : Nat) (email : String)
    (ttlHours : Nat) : Except ShareError Shares :=
  if t.invitations.any (indexed toLowerCase workflowId (toLowerCase email)) then
    .error .alreadyPending
  else .ok { t with
    invitations := t.invited toLowerCase now organizationId workflowId email ttlHours :: t.invitations
    nextId := t.nextId + 1 }

/-- A transaction: an error leaves the tables as they were. -/
def acceptWorkflowShareInvitation (now organizationId token userId : Nat) (email : String) :
    Except ShareError Shares :=
  match t.getWorkflowShareInvitationByToken organizationId token with
  | none => .error .notFound
  | some invitation =>
    if toLowerCase invitation.email ≠ toLowerCase email then .error .emailMismatch
    else if invitation.expiresAt ≤ now then .error .expired
    else if invitation.status ≠ .pending then .error .notPending
    else match t.getWorkflowById invitation.organizationId invitation.workflowId with
      | none => .error .workflowNotFound
      | some _ =>
        match t.markWorkflowShareInvitationAccepted invitation.organizationId invitation.id userId with
        | none => .error .notPending
        | some accepted =>
          (accepted.revokeActiveWorkflowSharesForUser now invitation.organizationId
            invitation.workflowId userId).createWorkflowShare invitation.organizationId
              invitation.workflowId userId (some invitation.id)

end invitations

end Shares

end Vespid.Db.WorkflowShares
