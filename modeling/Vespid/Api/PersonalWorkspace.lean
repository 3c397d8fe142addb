import Vespid.Db.Members
import Vespid.Lib.Exclusive
import Vespid.Lib.Protocol
import Mathlib.Data.List.Sort

/-!
# Personal workspaces

A user who belongs to no organization gets one. The check and the creation are separate
transactions. The creation is one step here: it inserts two rows in one transaction, and an insert
that meets a key of an unfinished one waits for it.
-/

namespace Vespid.Api.PersonalWorkspace

open Interleaving
open Db.Members (Role)

structure Organization where
  id : String
  slug : String
  name : String
  createdAt : Nat
  deriving DecidableEq

structure Membership where
  organizationId : String
  userId : String
  roleKey : Role
  deriving DecidableEq

/-- The order of a listing: by time, then by id. -/
def Organization.Upto (o p : Organization) : Prop :=
  o.createdAt < p.createdAt ∨ (o.createdAt = p.createdAt ∧ o.id ≤ p.id)

instance : DecidableRel Organization.Upto := fun o p => by
  unfold Organization.Upto
  infer_instance

/-! ### Operations -/

inductive PersonalOp where
  | listOrganizationsForUser (userId : String)
  | randomUUID
  /-- Three random bytes in hexadecimal. -/
  | randomBytes
  /-- `BEGIN`, whose time is that of the rows of the transaction. -/
  | begin
  | createOrganizationWithOwner (organization : Organization) (ownerUserId : String)

/-- A creation fails when a key is taken. -/
abbrev PersonalOp.Reply : PersonalOp → Type
  | listOrganizationsForUser _ => List Organization
  | randomUUID => String
  | randomBytes => String
  | begin => Nat
  | createOrganizationWithOwner _ _ => Bool

abbrev PersonalOps : Interface where
  Op := PersonalOp
  Reply := PersonalOp.Reply

abbrev PersonalProgram := Program PersonalOps

abbrev ask (op : PersonalOp) : PersonalProgram op.Reply := Program.issue (I := PersonalOps) op

structure Ensured where
  defaultOrgId : String
  created : Bool
  deriving DecidableEq

inductive EnsureError where
  | uniqueViolation
  | failedToCreate
  deriving DecidableEq

abbrev Answer := Except EnsureError Ensured

def baseSlug (userId : String) : String := "personal-" ++ String.ofList (userId.toList.take 8)

def slugOf (userId : String) (attempt : Nat) : PersonalProgram String :=
  if attempt = 0 then return baseSlug userId
  else do
    let hex ← ask .randomBytes
    return baseSlug userId ++ "-" ++ hex

/-- The loop over the attempts, of which `left` are left. -/
def attempts (userId organizationId : String) (attempt : Nat) : Nat → PersonalProgram Answer
  | 0 => return .error .failedToCreate
  | left + 1 => do
    let slug ← slugOf userId attempt
    let createdAt ← ask .begin
    let created ← ask (.createOrganizationWithOwner
      { id := organizationId, slug, name := "Personal workspace", createdAt } userId)
    if created then return .ok { defaultOrgId := organizationId, created := true }
    else if attempt = 2 then return .error .uniqueViolation
    else attempts userId organizationId (attempt + 1) left

def ensurePersonalOrganizationForUser (actorUserId : String) : PersonalProgram Answer := do
  match ← ask (.listOrganizationsForUser actorUserId) with
  | first :: _ => return .ok { defaultOrgId := first.id, created := false }
  | [] =>
    let organizationId ← ask .randomUUID
    attempts actorUserId organizationId 0 3

/-! ### The tables -/

/-- Organizations and memberships, with what their keys promise. -/
structure Tenants where
  organizations : List Organization
  memberships : List Membership
  known : ∀ m ∈ memberships, ∃ o ∈ organizations, o.id = m.organizationId

namespace Tenants
variable (tenants : Tenants)

def membershipsOf (userId : String) : List Membership :=
  tenants.memberships.filter fun m => m.userId = userId

def listFor (userId : String) : List Organization :=
  ((tenants.membershipsOf userId).flatMap fun m =>
    tenants.organizations.filter fun o => o.id = m.organizationId).insertionSort Organization.Upto

def Free (organization : Organization) : Prop :=
  ∀ o ∈ tenants.organizations, o.id ≠ organization.id ∧ o.slug ≠ organization.slug

instance (organization : Organization) : Decidable (tenants.Free organization) := by
  unfold Free
  infer_instance

def create (organization : Organization) (ownerUserId : String) : Tenants where
  organizations := organization :: tenants.organizations
  memberships :=
    { organizationId := organization.id, userId := ownerUserId, roleKey := .owner } ::
      tenants.memberships
  known m mem := by
    obtain rfl | mem := List.mem_cons.mp mem
    · exact ⟨organization, List.mem_cons_self, rfl⟩
    · obtain ⟨o, there, same⟩ := tenants.known m mem
      exact ⟨o, List.mem_cons_of_mem _ there, same⟩

end Tenants

/-- A call, and whether it started after another one of its user had returned. -/
structure Call where
  userId : String
  late : Bool

structure PersonalStore where
  tenants : Tenants
  answers : List (Call × Answer)
  now : Nat

def performPersonal (st : PersonalStore) (drawn : String) : (op : PersonalOp) →
    op.Reply × PersonalStore
  | .listOrganizationsForUser userId => (st.tenants.listFor userId, st)
  | .randomUUID => (drawn, st)
  | .randomBytes => (drawn, st)
  | .begin => (st.now, st)
  | .createOrganizationWithOwner organization ownerUserId =>
    if st.tenants.Free organization then
      (true, { st with tenants := st.tenants.create organization ownerUserId })
    else (false, st)

/-- Any number of calls of any users. -/
abbrev personalSystem : System PersonalOps where
  Store := PersonalStore
  Launch := Call
  Loop := Empty
  Outcome := Answer
  Choice := String
  Tick := Nat
  perform op st drawn := some (performPersonal st drawn op)
  launch call st := if call.late = st.answers.any (·.1.userId = call.userId) then some st else none
  entry call := .inr <$> ensurePersonalOrganizationForUser call.userId
  body _ loop := nomatch loop
  finish call answer st := { st with answers := (call, answer) :: st.answers }
  tick milliseconds st := some { st with now := st.now + milliseconds }

/-- No call has been made. -/
def quiet (tenants : Tenants) (now : Nat) : personalSystem.State where
  store := { tenants, answers := [], now }
  process _ := none

/-! ### The claim and its condition -/

/-- Calls return an organization of their user, late ones the same; who belonged to none owns one
personal workspace once a call was made and none is running. -/
structure OneWorkspace (before : Tenants) (s : personalSystem.State) : Prop where
  returns : ∀ a ∈ s.store.answers, ∃ ensured, a.2 = .ok ensured ∧
    ∃ m ∈ s.store.tenants.memberships, m.userId = a.1.userId ∧ m.organizationId = ensured.defaultOrgId
  same : ∀ a ∈ s.store.answers, ∀ b ∈ s.store.answers, a.1.userId = b.1.userId →
    a.1.late = true → b.1.late = true → ∀ x y, a.2 = .ok x → b.2 = .ok y →
      x.defaultOrgId = y.defaultOrgId
  owns : ∀ userId, before.membershipsOf userId = [] →
    (∃ a ∈ s.store.answers, a.1.userId = userId) →
    (∀ id p, s.process id = some p → p.launch.userId ≠ userId) →
    ∃ o ∈ s.store.tenants.organizations, o.name = "Personal workspace" ∧
      s.store.tenants.membershipsOf userId =
        [{ organizationId := o.id, userId, roleKey := .owner }]

inductive Stage where
  | begun
  | found (organizationId : String)
  | creating (attempt : Nat)
  | created (organizationId : String)
  | failed
  deriving DecidableEq

/-- What a call knows: its user and how far it is. -/
structure Known where
  userId : String
  stage : Stage

/-- A refused attempt is followed by another one, but for the third. -/
def Stage.refused : Stage → Stage
  | .creating attempt => if attempt = 2 then .failed else .creating (attempt + 1)
  | stage => stage

def personalProtocol : Protocol PersonalOps Known where
  permits g op := match op with
    | .listOrganizationsForUser userId => g.stage = .begun ∧ userId = g.userId
    | .createOrganizationWithOwner organization owner => (∃ attempt, g.stage = .creating attempt) ∧
        owner = g.userId ∧ organization.name = "Personal workspace"
    | _ => True
  expects _ _ := True
  observe g op reply := match op, reply with
    | .listOrganizationsForUser _, found =>
      { g with stage := (found.head?.map fun o => .found o.id).getD (.creating 0) }
    | .createOrganizationWithOwner organization _, created =>
      { g with stage := if created then .created organization.id else g.stage.refused }
    | _, _ => g

def Answered (answer : Answer) (g : Known) : Prop :=
  match answer with
  | .ok ensured => g.stage = .found ensured.defaultOrgId ∨ g.stage = .created ensured.defaultOrgId
  | .error _ => g.stage = .failed

theorem slugOf_follows (userId : String) (attempt : Nat) (g : Known) :
    (slugOf userId attempt).wp personalProtocol (fun _ g' => g' = g) g := by
  unfold slugOf
  split
  · rfl
  · exact ⟨trivial, fun _ _ => rfl⟩

theorem attempts_follows (userId organizationId : String) {attempt left : Nat}
    (three : attempt + left = 3) (more : 0 < left) :
    (attempts userId organizationId attempt left).wp personalProtocol Answered
      { userId, stage := .creating attempt } := by
  induction left generalizing attempt with
  | zero => omega
  | succ left ih =>
    refine Program.wp_seq (slugOf_follows userId attempt _) fun slug g is => ?_
    subst is
    refine ⟨trivial, fun createdAt _ => ⟨⟨⟨attempt, rfl⟩, rfl, rfl⟩, fun created _ => ?_⟩⟩
    cases created with
    | true => exact .inr rfl
    | false =>
      show Program.wp personalProtocol Answered (if attempt = 2 then _ else _)
        { userId, stage := if attempt = 2 then .failed else .creating (attempt + 1) }
      split
      · rfl
      · next early => exact ih (by omega) (by omega)

theorem ensure_follows (userId : String) :
    (ensurePersonalOrganizationForUser userId).wp personalProtocol Answered
      { userId, stage := .begun } := by
  refine ⟨⟨rfl, rfl⟩, fun existing _ => ?_⟩
  cases existing with
  | cons first rest => exact .inl rfl
  | nil => exact ⟨trivial, fun organizationId _ => attempts_follows userId organizationId rfl (by omega)⟩

def personalCertified : Certified personalSystem personalProtocol where
  start call := { userId := call.userId, stage := .begun }
  looping _ loop _ := nomatch loop
  ended _ := Answered
  entry_follows call := Program.wp_seq (ensure_follows call.userId) fun _ _ ended => ended
  body_follows _ loop := nomatch loop
  replies _ _ _ _ _ _ := trivial

/-- A creation whose keys are free finds that its user belongs to no organization; the third one of
a call finds its keys free. -/
def Sole (s : personalSystem.State) (a : personalSystem.Action) : Prop :=
  match personalCertified.issued s a with
  | some (g, .createOrganizationWithOwner organization owner) =>
    (s.store.tenants.Free organization → s.store.tenants.membershipsOf owner = []) ∧
      (g.stage = .creating 2 → s.store.tenants.Free organization)
  | _ => True

instance (s : personalSystem.State) (a : personalSystem.Action) : Decidable (Sole s a) := by
  unfold Sole
  split <;> infer_instance

/-! ### The first organization of a user -/

/-- The organization that a call answers with, if its user has one. -/
def Tenants.first (tenants : Tenants) (userId : String) : Option String :=
  (tenants.listFor userId).head?.map fun o => o.id

section tables
variable {tenants : Tenants} {organization : Organization} {owner userId organizationId : String}

theorem mem_of_first (is : tenants.first userId = some organizationId) :
    ∃ m ∈ tenants.memberships, m.userId = userId ∧ m.organizationId = organizationId := by
  obtain ⟨o, head, rfl⟩ := Option.map_eq_some_iff.mp is
  have there : o ∈ tenants.listFor userId := List.mem_of_head? head
  obtain ⟨m, mem, among⟩ := List.mem_flatMap.mp ((List.mem_insertionSort _).mp there)
  obtain ⟨mem, user⟩ := List.mem_filter.mp mem
  have same := (List.mem_filter.mp among).2
  exact ⟨m, mem, by simpa using user, (by simpa using same : o.id = m.organizationId).symm⟩

theorem membershipsOf_eq_nil (none_ : tenants.first userId = none) :
    tenants.membershipsOf userId = [] := by
  rw [Tenants.first, Option.map_eq_none_iff, List.head?_eq_none_iff] at none_
  by_contra some_
  obtain ⟨m, mem⟩ := List.exists_mem_of_ne_nil _ some_
  obtain ⟨o, there, same⟩ := tenants.known m (List.mem_filter.mp mem).1
  have listed : o ∈ tenants.listFor userId := by
    refine (List.mem_insertionSort _).mpr (List.mem_flatMap.mpr ⟨m, mem, ?_⟩)
    exact List.mem_filter.mpr ⟨there, by simpa using same⟩
  rw [none_] at listed
  cases listed

theorem membershipsOf_create_other (other : userId ≠ owner) :
    (tenants.create organization owner).membershipsOf userId = tenants.membershipsOf userId :=
  List.filter_cons_of_neg (by simpa using other.symm)

theorem membershipsOf_create_self : (tenants.create organization owner).membershipsOf owner =
    { organizationId := organization.id, userId := owner, roleKey := .owner } ::
      tenants.membershipsOf owner :=
  List.filter_cons_of_pos (by simp)

/-- A new organization does not show in the listings of others. -/
theorem first_create_other (free : tenants.Free organization) (other : userId ≠ owner) :
    (tenants.create organization owner).first userId = tenants.first userId := by
  have same : (tenants.create organization owner).listFor userId = tenants.listFor userId := by
    unfold Tenants.listFor
    rw [membershipsOf_create_other other]
    congr 1
    refine List.flatMap_congr fun m mem => List.filter_cons_of_neg ?_
    obtain ⟨o, there, same⟩ := tenants.known m (List.mem_filter.mp mem).1
    have different := (free o there).1
    rw [same] at different
    simpa using different.symm
  rw [Tenants.first, same]
  rfl

/-- It is the first one of a user who had none. -/
theorem first_create_self (free : tenants.Free organization)
    (none_ : tenants.membershipsOf owner = []) :
    (tenants.create organization owner).first owner = some organization.id := by
  have alone : (tenants.organizations.filter fun o => o.id = organization.id) = [] := by
    refine List.filter_eq_nil_iff.mpr fun o there => ?_
    simpa using (free o there).1
  have listed : (tenants.create organization owner).listFor owner = [organization] := by
    unfold Tenants.listFor
    rw [membershipsOf_create_self, none_]
    simp [Tenants.create, alone]
  rw [Tenants.first, listed]
  rfl

end tables

/-! ### What every call keeps -/

/-- What is true of a call where its user's first organization and first memberships are these. -/
def Stage.Holds (first : Option String) (before : List Membership) : Stage → Prop
  | .begun => True
  | .found organizationId | .created organizationId => first = some organizationId
  | .creating attempt => attempt ≤ 2 ∧ before = []
  | .failed => False

structure PersonalInv (before : Tenants) (st : PersonalStore)
    (crew : Nat → Option (Call × Known)) : Prop where
  kept : ∀ userId, before.membershipsOf userId ≠ [] →
    st.tenants.membershipsOf userId = before.membershipsOf userId
  one : ∀ userId, before.membershipsOf userId = [] → st.tenants.membershipsOf userId = [] ∨
    ∃ o ∈ st.tenants.organizations, o.name = "Personal workspace" ∧
      st.tenants.membershipsOf userId = [{ organizationId := o.id, userId, roleKey := .owner }]
  answers : ∀ a ∈ st.answers, ∃ ensured, a.2 = .ok ensured ∧
    st.tenants.first a.1.userId = some ensured.defaultOrgId
  user : ∀ i q, crew i = some q → q.2.userId = q.1.userId
  stage : ∀ i q, crew i = some q →
    q.2.stage.Holds (st.tenants.first q.2.userId) (before.membershipsOf q.2.userId)

section steps
variable {before : Tenants} {st : PersonalStore} {crew : Nat → Option (Call × Known)} {id : Nat}
  {call : Call} {g : Known}

theorem oneWorkspace_of_inv {s : personalSystem.State}
    (inv : PersonalInv before s.store (personalCertified.crew s)) : OneWorkspace before s where
  returns a mem := by
    obtain ⟨ensured, ok, first⟩ := inv.answers a mem
    exact ⟨ensured, ok, mem_of_first first⟩
  same a memA b memB user _ _ x y isX isY := by
    obtain ⟨u, okA, firstA⟩ := inv.answers a memA
    obtain ⟨v, okB, firstB⟩ := inv.answers b memB
    rw [isX] at okA
    rw [isY] at okB
    cases okA
    cases okB
    rw [user, firstB] at firstA
    exact (Option.some.inj firstA).symm
  owns userId none_ called _ := by
    obtain ⟨a, mem, rfl⟩ := called
    obtain ⟨ensured, -, first⟩ := inv.answers a mem
    obtain empty | one := inv.one a.1.userId none_
    · obtain ⟨m, there, user, -⟩ := mem_of_first first
      have listed : m ∈ s.store.tenants.membershipsOf a.1.userId :=
        List.mem_filter.mpr ⟨there, by simpa using user⟩
      rw [empty] at listed
      cases listed
    · exact one

/-- A call comes, goes on or goes while the tables stay as they are. -/
theorem personalInv_move (inv : PersonalInv before st crew) {new : Option (Call × Known)}
    (user : ∀ q, new = some q → q.2.userId = q.1.userId)
    (stage : ∀ q, new = some q →
      q.2.stage.Holds (st.tenants.first q.2.userId) (before.membershipsOf q.2.userId))
    {answers : List (Call × Answer)} (returned : ∀ a ∈ answers, ∃ ensured, a.2 = .ok ensured ∧
      st.tenants.first a.1.userId = some ensured.defaultOrgId) {now : Nat} :
    PersonalInv before { st with answers, now } (Function.update crew id new) where
  kept := inv.kept
  one := inv.one
  answers := returned
  user i q there := by
    obtain ⟨-, same⟩ | ⟨-, there⟩ := update_cases there
    · exact user q same
    · exact inv.user i q there
  stage i q there := by
    obtain ⟨-, same⟩ | ⟨-, there⟩ := update_cases there
    · exact stage q same
    · exact inv.stage i q there

/-- A first organization stays the first one when a user who has none gets one. -/
theorem first_kept {organization : Organization} {owner userId organizationId : String}
    (free : st.tenants.Free organization) (none_ : st.tenants.membershipsOf owner = [])
    (is : st.tenants.first userId = some organizationId) :
    (st.tenants.create organization owner).first userId = some organizationId := by
  rw [first_create_other free, is]
  rintro rfl
  obtain ⟨m, there, user, -⟩ := mem_of_first is
  have listed : m ∈ st.tenants.membershipsOf userId :=
    List.mem_filter.mpr ⟨there, by simpa using user⟩
  rw [none_] at listed
  cases listed

theorem personalInv_create (inv : PersonalInv before st crew) (here : crew id = some (call, g))
    {organization : Organization} (name : organization.name = "Personal workspace")
    (free : st.tenants.Free organization) (none_ : st.tenants.membershipsOf g.userId = [])
    (had : before.membershipsOf g.userId = []) :
    PersonalInv before { st with tenants := st.tenants.create organization g.userId }
      (Function.update crew id
        (some (call, { g with stage := .created organization.id }))) where
  kept userId some_ := by
    have other : userId ≠ g.userId := by
      rintro rfl
      exact some_ had
    exact (membershipsOf_create_other other).trans (inv.kept userId some_)
  one userId first := by
    by_cases same : userId = g.userId
    · subst same
      refine .inr ⟨organization, List.mem_cons_self, name, ?_⟩
      rw [membershipsOf_create_self, none_]
    · rw [membershipsOf_create_other same]
      obtain empty | ⟨o, there, named, is⟩ := inv.one userId first
      · exact .inl empty
      · exact .inr ⟨o, List.mem_cons_of_mem _ there, named, is⟩
  answers a mem := by
    obtain ⟨ensured, ok, first⟩ := inv.answers a mem
    exact ⟨ensured, ok, first_kept free none_ first⟩
  user i q there := by
    obtain ⟨-, same⟩ | ⟨-, there⟩ := update_cases there
    · obtain rfl := Option.some.inj same
      exact inv.user id (call, g) here
    · exact inv.user i q there
  stage i q there := by
    obtain ⟨-, same⟩ | ⟨-, there⟩ := update_cases there
    · obtain rfl := Option.some.inj same
      exact first_create_self free none_
    · have holds := inv.stage i q there
      obtain ⟨call', userId, stage⟩ := q
      cases stage with
      | begun => trivial
      | found organizationId => exact first_kept free none_ holds
      | creating attempt => exact holds
      | created organizationId => exact first_kept free none_ holds
      | failed => exact holds

theorem personalInv_call (inv : PersonalInv before st crew) (here : crew id = some (call, g))
    {op : PersonalOp} {drawn : String} (permitted : personalProtocol.permits g op)
    (sole : ∀ organization owner, op = .createOrganizationWithOwner organization owner →
      (st.tenants.Free organization → st.tenants.membershipsOf owner = []) ∧
        (g.stage = .creating 2 → st.tenants.Free organization)) :
    PersonalInv before (performPersonal st drawn op).2 (Function.update crew id
      (some (call, personalProtocol.observe g op (performPersonal st drawn op).1))) := by
  have unchanged : PersonalInv before st (Function.update crew id (some (call, g))) := by
    rwa [Function.update_eq_self_iff.mpr here.symm]
  cases op with
  | listOrganizationsForUser userId =>
    obtain ⟨begun, rfl⟩ := permitted
    refine personalInv_move inv (fun q is => ?_) (fun q is => ?_) inv.answers
    · obtain rfl := Option.some.inj is
      exact inv.user id (call, g) here
    · obtain rfl := Option.some.inj is
      show (((st.tenants.listFor g.userId).head?.map fun o => Stage.found o.id).getD
        (.creating 0)).Holds (st.tenants.first g.userId) (before.membershipsOf g.userId)
      cases head : (st.tenants.listFor g.userId).head? with
      | some o => exact congrArg (Option.map fun o => o.id) head
      | none =>
        refine ⟨Nat.zero_le _, ?_⟩
        have none_ : st.tenants.membershipsOf g.userId = [] :=
          membershipsOf_eq_nil (Option.map_eq_none_iff.mpr head)
        by_contra some_
        rw [inv.kept g.userId some_] at none_
        exact some_ none_
  | randomUUID => exact unchanged
  | randomBytes => exact unchanged
  | begin => exact unchanged
  | createOrganizationWithOwner organization owner =>
    obtain ⟨⟨attempt, creating⟩, rfl, name⟩ := permitted
    obtain ⟨alone, last⟩ := sole organization g.userId rfl
    have holds := inv.stage id (call, g) here
    rw [show (call, g).2.stage = .creating attempt from creating] at holds
    by_cases free : st.tenants.Free organization
    · simp only [performPersonal, if_pos free]
      exact personalInv_create inv here name free (alone free) holds.2
    · simp only [performPersonal, if_neg free]
      have early : attempt ≠ 2 := by
        rintro rfl
        exact free (last creating)
      refine personalInv_move inv (fun q is => ?_) (fun q is => ?_) inv.answers
      · obtain rfl := Option.some.inj is
        exact inv.user id (call, g) here
      · obtain rfl := Option.some.inj is
        show g.stage.refused.Holds _ _
        rw [creating, Stage.refused, if_neg early]
        have bound := holds.1
        exact ⟨by omega, holds.2⟩

end steps

theorem personalInv_step {before : Tenants} {s t : personalSystem.State} {a : personalSystem.Action}
    (all : personalCertified.AllFollow s)
    (inv : PersonalInv before s.store (personalCertified.crew s)) (sole : Sole s a)
    (stepped : System.Stepped s a t) :
    PersonalInv before t.store (personalCertified.crew t) := by
  have happened := Certified.happened all stepped
  generalize personalCertified.crew t = crew at happened ⊢
  generalize t.store = store at happened ⊢
  cases happened with
  | launch free launched =>
    simp only at launched
    split at launched
    · cases launched
      refine personalInv_move inv (fun q is => ?_) (fun q is => ?_) inv.answers
      · rw [← Option.some.inj is]
        rfl
      · rw [← Option.some.inj is]
        trivial
    · cases launched
  | call here issues permitted performed =>
    obtain ⟨rfl, rfl⟩ := Prod.mk.inj (Option.some.inj performed)
    refine personalInv_call inv here permitted ?_
    rintro organization owner rfl
    unfold Sole at sole
    simpa only [issues] using sole
  | loop => exact inv
  | @finish id call g answer here ended =>
    refine personalInv_move inv (fun q is => by cases is) (fun q is => by cases is) fun a mem => ?_
    obtain rfl | mem := List.mem_cons.mp mem
    · have holds := inv.stage id (call, g) here
      have user : g.userId = call.userId := inv.user id (call, g) here
      cases answer with
      | ok ensured =>
        refine ⟨ensured, rfl, ?_⟩
        rw [← user]
        obtain is | is := ended
        · rwa [show (call, g).2.stage = .found ensured.defaultOrgId from is] at holds
        · rwa [show (call, g).2.stage = .created ensured.defaultOrgId from is] at holds
      | error e => rw [show (call, g).2.stage = .failed from ended] at holds; exact holds.elim
    · exact inv.answers a mem
  | tick ticked =>
    cases ticked
    exact ⟨inv.kept, inv.one, inv.answers, inv.user, inv.stage⟩

/-- Users get one workspace in every run whose creations find their user without one, and whose
third attempts find their keys free. -/
theorem one_workspace (before : Tenants) (now : Nat) {s : personalSystem.State}
    (run : System.Steps Sole (quiet before now) s) : OneWorkspace before s := by
  have start : PersonalInv before (quiet before now).store (fun _ => none) :=
    ⟨fun _ _ => rfl, fun _ none_ => .inl none_, fun _ mem => (by cases mem),
      fun _ _ there => (by cases there), fun _ _ there => (by cases there)⟩
  have inv := (personalCertified.invariant
    (fun s => PersonalInv before s.store (personalCertified.crew s)) (fun _ => rfl) start
    (fun _ _ _ all inv sole stepped => personalInv_step all inv sole stepped) run).2
  exact oneWorkspace_of_inv inv

/-! ### Two workspaces of one user -/

def nobody : Tenants where
  organizations := []
  memberships := []
  known _ mem := by cases mem

def login (userId : String) : Call where
  userId := userId
  late := false

/-- The statements of a first attempt. -/
def firstAttempt (id : Nat) (organizationId : String) : List personalSystem.Action :=
  [.call id organizationId, .call id "", .call id "", .finish id]

/-- Two users whose ids share a prefix sign up at the same time. -/
theorem one_workspace_shared_prefix : ∃ s, System.Steps Sole (quiet nobody 0) s ∧
    s.store.tenants.memberships.map (·.userId) = ["00000000-b", "00000000-a"] ∧
      OneWorkspace nobody s := by
  have ended : (System.exec Sole (quiet nobody 0)
      ([.launch 0 (login "00000000-a"), .launch 1 (login "00000000-b"), .call 0 "", .call 1 ""] ++
        firstAttempt 0 "o0" ++ [.call 1 "o1", .call 1 "", .call 1 "", .call 1 "0a1b2c", .call 1 "",
          .call 1 "", .finish 1])).map (fun s => s.store.tenants.memberships.map (·.userId)) =
      some ["00000000-b", "00000000-a"] := by decide +kernel
  obtain ⟨s, ran, same⟩ := Option.map_eq_some_iff.mp ended
  have steps := System.steps_of_exec ran
  exact ⟨s, steps, same, one_workspace nobody 0 steps⟩

/-- Two calls of one user both find no organization, and both create one. -/
theorem two_workspaces : ¬ ∀ (before : Tenants) (now : Nat) (s : personalSystem.State),
    System.Steps (fun _ _ => True) (quiet before now) s → OneWorkspace before s := by
  intro claim
  have ended : (System.exec (fun _ _ => True) (quiet nobody 0)
      ([.launch 0 (login "00000000-a"), .launch 1 (login "00000000-a"), .call 0 "", .call 1 ""] ++
        firstAttempt 0 "o0" ++ [.call 1 "o1", .call 1 "", .call 1 "", .call 1 "0a1b2c", .call 1 "",
          .call 1 "", .finish 1])).map (fun s => ((s.store.tenants.membershipsOf "00000000-a").length,
            s.store.answers.map (·.1.userId), (s.process 0).isNone && (s.process 1).isNone)) =
      some (2, ["00000000-a", "00000000-a"], true) := by decide +kernel
  obtain ⟨s, ran, same⟩ := Option.map_eq_some_iff.mp ended
  obtain ⟨two, rest⟩ := Prod.mk.inj same
  obtain ⟨users, gone⟩ := Prod.mk.inj rest
  have idle := System.idle_of_exec 2 (fun _ => rfl) (by decide) ran fun id small => by
    obtain ⟨first, second⟩ := Bool.and_eq_true_iff.mp gone
    rcases id with _ | _ | id
    · exact first
    · exact second
    · omega
  have called : ∃ a ∈ s.store.answers, a.1.userId = "00000000-a" :=
    List.mem_map.mp (by rw [users]; exact List.mem_cons_self)
  obtain ⟨o, -, -, one⟩ := (claim nobody 0 s (System.steps_of_exec ran)).owns "00000000-a" rfl called
    fun id p there => by rw [idle id] at there; cases there
  rw [one] at two
  cases two

end Vespid.Api.PersonalWorkspace
