/-!
# Memberships and invitations

The memberships of organizations and the invitations to them. An invitation is unique by its
organization, email and status.
-/

namespace Vespid.Db.Members

inductive Role where
  | member | admin | owner
  deriving DecidableEq

def Role.rank : Role → Nat
  | member => 0
  | admin => 1
  | owner => 2

structure Organization where
  id : Nat
  slug : String
  deriving DecidableEq

structure Membership where
  organizationId : Nat
  userId : Nat
  roleKey : Role
  deriving DecidableEq

inductive InvitationStatus where
  | pending | accepted | expired | revoked
  deriving DecidableEq

/-- A row of `organization_invitations`; its token spells its id. -/
structure Invitation where
  id : Nat
  organizationId : Nat
  email : String
  roleKey : Role
  status : InvitationStatus
  expiresAt : Nat
  deriving DecidableEq

structure Members where
  organizations : List Organization
  memberships : List Membership
  invitations : List Invitation
  nextId : Nat
  deriving DecidableEq

inductive StoreError where
  | slugConflict
  | uniqueViolation
  | invitationNotFound
  | invitationEmailMismatch
  | invitationExpired
  | invitationNotPending
  deriving DecidableEq

namespace Members
variable (t : Members)

def getMembership (organizationId userId : Nat) : Option Membership :=
  t.memberships.find? fun m => m.organizationId = organizationId && m.userId = userId

def createOrganizationWithOwner (slug : String) (ownerUserId : Nat) : Except StoreError Members :=
  if t.organizations.any (·.slug = slug) then .error .slugConflict
  else .ok { t with
    organizations := { id := t.nextId, slug } :: t.organizations
    memberships :=
      { organizationId := t.nextId, userId := ownerUserId, roleKey := .owner } :: t.memberships
    nextId := t.nextId + 1 }

def createMembershipIfNotExists (organizationId userId : Nat) (roleKey : Role) : Members :=
  match t.getMembership organizationId userId with
  | some _ => t
  | none => { t with memberships := { organizationId, userId, roleKey } :: t.memberships }

/-- The membership after the update, if there is one. -/
def updateMembershipRole (organizationId memberUserId : Nat) (roleKey : Role) : Option Members :=
  match t.getMembership organizationId memberUserId with
  | none => none
  | some _ => some { t with
      memberships := t.memberships.map fun m =>
        if m.organizationId = organizationId ∧ m.userId = memberUserId then { m with roleKey }
        else m }

section invitations
variable (toLowerCase : String → String)

/-- Milliseconds of an hour. -/
def hour : Nat := 60 * 60 * 1000

/-- A row of the unique index on organization, email and status. -/
def indexed (organizationId : Nat) (email : String) (status : InvitationStatus)
    (row : Invitation) : Bool :=
  row.organizationId = organizationId && row.email = email && row.status = status

/-- A row added by `createInvitation`. -/
def invited (now organizationId : Nat) (email : String) (roleKey : Role) (ttlHours : Nat) :
    Invitation :=
  { id := t.nextId, organizationId, email := toLowerCase email, roleKey, status := .pending,
    expiresAt := now + ttlHours * hour }

def createInvitation (now organizationId : Nat) (email : String) (roleKey : Role)
    (ttlHours : Nat) : Except StoreError Members :=
  if t.invitations.any (indexed organizationId (toLowerCase email) .pending) then
    .error .uniqueViolation
  else .ok { t with
    invitations := t.invited toLowerCase now organizationId email roleKey ttlHours :: t.invitations
    nextId := t.nextId + 1 }

def getInvitationByToken (token : Nat) : Option Invitation :=
  t.invitations.find? fun row => row.id = token

def markInvitationAccepted (invitation : Invitation) : Except StoreError Members :=
  if t.invitations.any fun row => row.id ≠ invitation.id &&
      indexed invitation.organizationId invitation.email .accepted row then
    .error .uniqueViolation
  else .ok { t with
    invitations := t.invitations.map fun row =>
      if row.id = invitation.id then { row with status := .accepted } else row }

/-- A transaction: an error leaves the tables as they were. -/
def acceptInvitation (now token userId : Nat) (email : String) : Except StoreError Members :=
  match t.getInvitationByToken token with
  | none => .error .invitationNotFound
  | some invitation =>
    if toLowerCase invitation.email ≠ toLowerCase email then .error .invitationEmailMismatch
    else if invitation.expiresAt ≤ now then .error .invitationExpired
    else
      let joined := t.createMembershipIfNotExists invitation.organizationId userId invitation.roleKey
      if invitation.status = .pending then joined.markInvitationAccepted invitation
      else if invitation.status ≠ .accepted then .error .invitationNotPending
      else .ok joined

end invitations

end Members

end Vespid.Db.Members
