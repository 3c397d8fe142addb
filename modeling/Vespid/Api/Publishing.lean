import Mathlib.Data.List.Nodup
import Vespid.Lib.Exclusive
import Vespid.Lib.Protocol
import Vespid.Workflow.Dsl

/-!
# Publishing a family of revisions

A publish first updates the revision's row and then, in a transaction of its own, replaces the
revision's trigger subscriptions. Webhook token hashes are unique among all subscriptions.
-/

namespace Vespid.Api.Publishing

open Interleaving Workflow

/-! ### Subscriptions -/

inductive SubscriptionSpec where
  | cron (cronExpr : String)
  | heartbeat (intervalSec jitterSec maxSkewSec : Nat)
  | webhook (webhookTokenHash : String)
  deriving DecidableEq

def SubscriptionSpec.tokenHash : SubscriptionSpec → Option String
  | webhook webhookTokenHash => some webhookTokenHash
  | _ => none

/-- A value that `workflowDslAnySchema` accepts. -/
abbrev AcceptedDsl := { dsl : WorkflowDslAny // workflowDslAnySchema dsl = true }

def triggerOf : WorkflowDslAny → WorkflowTrigger
  | .v2 dsl => dsl.trigger
  | .v3 dsl => dsl.trigger

def deriveTriggerSubscriptionsFromDsl (sha256Hex : String → String) (dsl : AcceptedDsl) :
    List SubscriptionSpec :=
  match triggerOf dsl.val with
  | .cron cron => [.cron cron]
  | .heartbeat intervalSec jitterSec maxSkewSec => [.heartbeat intervalSec jitterSec maxSkewSec]
  | .webhook token => [.webhook (sha256Hex token)]
  | .manual | .channel _ _ _ _ => []

/-- A row of `workflow_trigger_subscriptions`. -/
structure SubscriptionRow where
  workflowId : Nat
  workflowRevision : Nat
  enabled : Bool
  spec : SubscriptionSpec
  deriving DecidableEq

/-! ### Revisions -/

inductive RevisionStatus where
  | draft | published
  deriving DecidableEq

/-- A revision of the family, as a row of `workflows`. -/
structure Revision where
  id : Nat
  revision : Nat
  sourceWorkflowId : Option Nat
  status : RevisionStatus
  version : Nat
  dsl : AcceptedDsl
  publishedAt : Option Nat

/-- The subscriptions that belong to a revision. -/
def Revision.subscriptions (sha256Hex : String → String) (row : Revision) : List SubscriptionRow :=
  (deriveTriggerSubscriptionsFromDsl sha256Hex row.dsl).map fun spec =>
    { workflowId := row.id, workflowRevision := row.revision, enabled := true, spec }

/-! ### Operations -/

inductive SyncReply where
  | replaced
  | uniqueViolation
  | failed
  deriving DecidableEq

inductive FamilyOp where
  | getWorkflowById (id : Nat)
  | updateWorkflowDraft (id : Nat) (dsl : Option AcceptedDsl)
  | createWorkflowDraftFromWorkflow (source : Nat)
  /-- `ticket` says which request writes. -/
  | publishWorkflow (ticket id : Nat)
  | syncWorkflowTriggerSubscriptions (ticket : Nat) (row : Revision)

/-- `none` is an error of the store. -/
abbrev FamilyOp.Reply : FamilyOp → Type
  | getWorkflowById _ | publishWorkflow _ _ => Option (Option Revision)
  | updateWorkflowDraft _ _ | createWorkflowDraftFromWorkflow _ => Option Bool
  | syncWorkflowTriggerSubscriptions _ _ => SyncReply

abbrev FamilyOps : Interface where
  Op := FamilyOp
  Reply := FamilyOp.Reply

abbrev FamilyProgram := Program FamilyOps

abbrev ask (op : FamilyOp) : FamilyProgram op.Reply := Program.issue (I := FamilyOps) op

inductive Answer where
  | ok
  | notFound
  | conflict
  | failed
  deriving DecidableEq

/-! ### Handlers -/

inductive FamilyRequest where
  | update (id : Nat) (dsl : Option AcceptedDsl)
  | clone (id : Nat)
  | publish (id : Nat)

/-- The revision a request is about. -/
def FamilyRequest.target : FamilyRequest → Nat
  | update id _ | clone id | publish id => id

/-- `PUT workflows/:workflowId` -/
def updateDraft (id : Nat) (dsl : Option AcceptedDsl) : FamilyProgram Answer := do
  match ← ask (.getWorkflowById id) with
  | none => return .failed
  | some none => return .notFound
  | some (some existing) =>
    if existing.status ≠ .draft then return .conflict
    else match ← ask (.updateWorkflowDraft id dsl) with
      | none => return .failed
      | some false => return .conflict
      | some true => return .ok

/-- `POST workflows/:workflowId/drafts` -/
def cloneToDraft (id : Nat) : FamilyProgram Answer := do
  match ← ask (.getWorkflowById id) with
  | none => return .failed
  | some none => return .notFound
  | some (some existing) =>
    if existing.status ≠ .published then return .conflict
    else match ← ask (.createWorkflowDraftFromWorkflow id) with
      | some true => return .ok
      | _ => return .failed

/-- `POST workflows/:workflowId/publish` -/
def publish (ticket id : Nat) : FamilyProgram Answer := do
  match ← ask (.publishWorkflow ticket id) with
  | none => return .failed
  | some none => return .notFound
  | some (some workflow) =>
    match ← ask (.syncWorkflowTriggerSubscriptions ticket workflow) with
    | .replaced => return .ok
    | .uniqueViolation => return .conflict
    | .failed => return .failed

/-! ### The family -/

/-- A request; `published` says whether its revision is published when it starts. -/
structure Launched where
  ticket : Nat
  request : FamilyRequest
  published : Bool

/-- The revisions and their subscriptions, the token hashes of other workflows, the tickets of the
publishes that have written, and the answers. -/
structure FamilyStore where
  rows : List Revision
  nextId : Nat
  subscriptions : List SubscriptionRow
  foreign : List String
  nextTicket : Nat
  writes : List Nat
  answers : List (Launched × Answer)

namespace FamilyStore
variable (st : FamilyStore)

def find (id : Nat) : Option Revision := st.rows.find? (·.id = id)

def isPublished (id : Nat) : Bool := (st.find id).any (·.status = .published)

/-- The subscriptions of other revisions. -/
def othersOf (row : Revision) : List SubscriptionRow :=
  st.subscriptions.filter (·.workflowId ≠ row.id)

/-- A token hash that another subscription has. -/
def taken (row : Revision) (hash : String) : Bool :=
  st.foreign.contains hash || (st.othersOf row).any (·.spec.tokenHash = some hash)

def setRow (id : Nat) (change : Revision → Revision) : FamilyStore :=
  { st with rows := st.rows.map fun row => if row.id = id then change row else row }

def maxRevision : Nat := (st.rows.map (·.revision)).foldl max 0

/-- The draft that a clone of `source` adds. -/
def draftFrom (source : Revision) : Revision :=
  { id := st.nextId
    revision := st.maxRevision + 1
    sourceWorkflowId := some source.id
    status := .draft
    version := 1
    dsl := source.dsl
    publishedAt := none }

def addDraft (source : Revision) : FamilyStore :=
  { st with rows := st.draftFrom source :: st.rows, nextId := st.nextId + 1 }

end FamilyStore

def Revision.publish (row : Revision) (now : Nat) : Revision :=
  { row with status := .published, version := row.version + 1, publishedAt := some now }

def Revision.update (row : Revision) (dsl : Option AcceptedDsl) : Revision :=
  { row with dsl := dsl.getD row.dsl, version := row.version + 1 }

structure FamilyChoice where
  /-- Whether the store answers; else it throws. -/
  ok : Bool
  now : Nat

section system
variable (sha256Hex : String → String)

def performFamily (st : FamilyStore) (choice : FamilyChoice) :
    (op : FamilyOp) → Option (op.Reply × FamilyStore)
  | .getWorkflowById id => if choice.ok then some (some (st.find id), st) else some (none, st)
  | .updateWorkflowDraft id dsl =>
    if !choice.ok then some (none, st)
    else if (st.find id).any (·.status = .draft) then
      some (some true, st.setRow id fun row => row.update dsl)
    else some (some false, st)
  | .createWorkflowDraftFromWorkflow source =>
    if !choice.ok then some (none, st)
    else match st.find source with
      | none => some (some false, st)
      | some row => some (some true, st.addDraft row)
  | .publishWorkflow ticket id =>
    if !choice.ok then some (none, st)
    else match st.find id with
      | none => some (some none, st)
      | some row => some (some (some (row.publish choice.now)),
          { st.setRow id (fun row => row.publish choice.now) with writes := ticket :: st.writes })
  | .syncWorkflowTriggerSubscriptions ticket row =>
    if !choice.ok then some (.failed, st)
    else if (deriveTriggerSubscriptionsFromDsl sha256Hex row.dsl).any fun spec =>
        spec.tokenHash.any (st.taken row) then some (.uniqueViolation, st)
    else some (.replaced,
      { st with
        subscriptions := row.subscriptions sha256Hex ++ st.othersOf row
        writes := ticket :: st.writes })

/-- Any number of requests on one family. -/
abbrev familySystem : System FamilyOps where
  Store := FamilyStore
  Launch := Launched
  Loop := Empty
  Outcome := Answer
  Choice := FamilyChoice
  Tick := Empty
  perform op st choice := performFamily sha256Hex st choice op
  launch l st :=
    if l.ticket = st.nextTicket ∧ l.published = st.isPublished l.request.target then
      some { st with nextTicket := st.nextTicket + 1 }
    else none
  entry l := .inr <$> match l.request with
    | .update id dsl => updateDraft id dsl
    | .clone id => cloneToDraft id
    | .publish id => publish l.ticket id
  body _ loop := nomatch loop
  finish l answer st := { st with answers := (l, answer) :: st.answers }
  tick t := nomatch t

/-- The first draft of a family, beside other workflows' webhooks. -/
def createdFamily (dsl : AcceptedDsl) (foreign : List String) : (familySystem sha256Hex).State where
  store :=
    { rows := [{ id := 0, revision := 1, sourceWorkflowId := none, status := .draft, version := 1, dsl,
                 publishedAt := none }]
      nextId := 1, subscriptions := [], foreign, nextTicket := 0, writes := [], answers := [] }
  process _ := none

end system

/-! ### The claim and its condition -/

section claim
variable (sha256Hex : String → String)

/-- A revision whose publish was answered with success has exactly the subscriptions of its dsl; a
publish answered with an error has written nothing; one revision at most has enabled
subscriptions; a published revision can be cloned and its clone published. -/
structure Atomic (s : (familySystem sha256Hex).State) : Prop where
  derived : ∀ answered ∈ s.store.answers, ∀ id, answered.1.request = .publish id →
    answered.2 = .ok → ∃ row ∈ s.store.rows, row.id = id ∧ row.status = .published ∧
      s.store.subscriptions.filter (·.workflowId = id) = row.subscriptions sha256Hex
  unchanged : ∀ answered ∈ s.store.answers, ∀ id, answered.1.request = .publish id →
    answered.2 ≠ .ok → answered.1.ticket ∉ s.store.writes
  live : ∀ a ∈ s.store.subscriptions, ∀ b ∈ s.store.subscriptions,
    a.enabled = true → b.enabled = true → a.workflowId = b.workflowId
  cloned : ∀ answered ∈ s.store.answers, ∀ id, answered.1.request = .clone id →
    answered.1.published = true → answered.2 ≠ .conflict
  clones : ∀ answered ∈ s.store.answers, ∀ row ∈ s.store.rows, row.sourceWorkflowId.isSome = true →
    answered.1.request = .publish row.id → answered.2 ≠ .conflict

end claim

/-- How far a publish is. -/
inductive PublishStage where
  | reading
  | published (row : Revision)
  | synced (row : Revision)
  | refused

structure FamilyView where
  launched : Launched
  seen : Option Revision
  stage : PublishStage

def familyProtocol : Protocol FamilyOps FamilyView where
  permits v op := match op with
    | .getWorkflowById id => v.launched.request.target = id
    | .publishWorkflow ticket id =>
      v.stage = .reading ∧ ticket = v.launched.ticket ∧ v.launched.request = .publish id
    | .syncWorkflowTriggerSubscriptions ticket row =>
      v.stage = .published row ∧ ticket = v.launched.ticket
    | _ => True
  expects op reply := match op, reply with
    | .publishWorkflow _ id, some (some row) => row.id = id
    | _, _ => True
  observe v op reply := match op, reply with
    | .getWorkflowById _, some (some row) => { v with seen := some row }
    | .publishWorkflow _ _, some (some row) => { v with stage := .published row }
    | .syncWorkflowTriggerSubscriptions _ row, .replaced => { v with stage := .synced row }
    | .syncWorkflowTriggerSubscriptions _ _, _ => { v with stage := .refused }
    | _, _ => v

/-- What a handler knows when it answers. -/
def Ended (l : Launched) (answer : Answer) (v : FamilyView) : Prop :=
  v.launched = l ∧ match l.request, answer with
    | .publish id, .ok => ∃ row, v.stage = .synced row ∧ row.id = id
    | .publish _, .conflict => v.stage = .refused
    | .publish _, _ => v.stage = .reading ∨ v.stage = .refused
    | .clone _, .conflict => ∃ row, v.seen = some row ∧ row.status ≠ .published
    | _, _ => True

theorem updateDraft_follows {l : Launched} {id : Nat} {dsl : Option AcceptedDsl}
    (is : l.request = .update id dsl) :
    (updateDraft id dsl).wp familyProtocol (Ended l)
      { launched := l, seen := none, stage := .reading } := by
  have target : l.request.target = id := by rw [is]; rfl
  have done (answer : Answer) (v : FamilyView) (same : v.launched = l) : Ended l answer v := by
    refine ⟨same, ?_⟩
    rw [is]
    trivial
  refine ⟨target, fun found _ => ?_⟩
  match found with
  | none => exact done _ _ rfl
  | some none => exact done _ _ rfl
  | some (some existing) =>
    show (if existing.status ≠ .draft then (return .conflict : FamilyProgram Answer)
      else _).wp _ _ _
    split
    · exact done _ _ rfl
    · refine ⟨trivial, fun updated _ => ?_⟩
      match updated with
      | none => exact done _ _ rfl
      | some false => exact done _ _ rfl
      | some true => exact done _ _ rfl

theorem cloneToDraft_follows {l : Launched} {id : Nat} (is : l.request = .clone id) :
    (cloneToDraft id).wp familyProtocol (Ended l)
      { launched := l, seen := none, stage := .reading } := by
  have target : l.request.target = id := by rw [is]; rfl
  have done (answer : Answer) (other : answer ≠ .conflict) (v : FamilyView)
      (same : v.launched = l) : Ended l answer v := by
    refine ⟨same, ?_⟩
    rw [is]
    cases answer <;> trivial
  refine ⟨target, fun found _ => ?_⟩
  match found with
  | none => exact done _ (by decide) _ rfl
  | some none => exact done _ (by decide) _ rfl
  | some (some existing) =>
    show (if existing.status ≠ .published then (return .conflict : FamilyProgram Answer)
      else _).wp _ _ _
    split
    · next draft =>
      refine ⟨rfl, ?_⟩
      rw [is]
      exact ⟨existing, rfl, draft⟩
    · refine ⟨trivial, fun created _ => ?_⟩
      match created with
      | none => exact done _ (by decide) _ rfl
      | some false => exact done _ (by decide) _ rfl
      | some true => exact done _ (by decide) _ rfl

theorem publish_follows {l : Launched} {id : Nat} (is : l.request = .publish id) :
    (publish l.ticket id).wp familyProtocol (Ended l)
      { launched := l, seen := none, stage := .reading } := by
  refine ⟨⟨rfl, rfl, is⟩, fun published ofId => ?_⟩
  match published, ofId with
  | none, _ =>
    refine ⟨rfl, ?_⟩
    rw [is]
    exact .inl rfl
  | some none, _ =>
    refine ⟨rfl, ?_⟩
    rw [is]
    exact .inl rfl
  | some (some workflow), ofId =>
    refine ⟨⟨rfl, rfl⟩, fun synced _ => ?_⟩
    match synced with
    | .replaced =>
      refine ⟨rfl, ?_⟩
      rw [is]
      exact ⟨workflow, rfl, ofId⟩
    | .uniqueViolation =>
      refine ⟨rfl, ?_⟩
      rw [is]
      rfl
    | .failed =>
      refine ⟨rfl, ?_⟩
      rw [is]
      exact .inr rfl

theorem find_spec {st : FamilyStore} {id : Nat} {row : Revision} (found : st.find id = some row) :
    row ∈ st.rows ∧ row.id = id :=
  ⟨List.mem_of_find?_eq_some found, by simpa using List.find?_some found⟩

def familyCertified (sha256Hex : String → String) :
    Certified (familySystem sha256Hex) familyProtocol where
  start l := { launched := l, seen := none, stage := .reading }
  looping _ loop _ := nomatch loop
  ended := Ended
  entry_follows l := by
    refine Program.wp_seq ?_ fun _ _ ended => ended
    cases is : l.request with
    | update id dsl => exact updateDraft_follows is
    | clone id => exact cloneToDraft_follows is
    | publish id => exact publish_follows is
  body_follows _ loop := nomatch loop
  replies op st choice reply st' performed := by
    cases op with
    | publishWorkflow ticket id =>
      simp only [performFamily] at performed
      split at performed
      · cases performed
        trivial
      · split at performed
        · cases performed
          trivial
        · next row found =>
          cases performed
          exact (find_spec found).2
    | _ => trivial

/-- A sync succeeds, meets no token hash of another workflow and, where there is something to
subscribe, no subscription of another revision. -/
def Alone (sha256Hex : String → String) (s : (familySystem sha256Hex).State)
    (a : (familySystem sha256Hex).Action) : Prop :=
  match (familyCertified sha256Hex).issued s a, a with
  | some (_, .syncWorkflowTriggerSubscriptions _ row), .call _ choice =>
    choice.ok = true ∧
      ∀ spec ∈ deriveTriggerSubscriptionsFromDsl sha256Hex row.dsl,
        (∀ hash ∈ spec.tokenHash, hash ∉ s.store.foreign) ∧ s.store.othersOf row = []
  | _, _ => True

instance (sha256Hex : String → String) (s : (familySystem sha256Hex).State)
    (a : (familySystem sha256Hex).Action) : Decidable (Alone sha256Hex s a) := by
  unfold Alone
  split <;> infer_instance

/-! ### The invariant -/

/-- The table has `row` as published; its dsl does not change any more. -/
def FamilyStore.HasPublished (st : FamilyStore) (row : Revision) : Prop :=
  ∃ now ∈ st.rows, now.id = row.id ∧ now.status = .published ∧ now.dsl = row.dsl ∧
    now.revision = row.revision

/-- `row` is published and has exactly its subscriptions. -/
def FamilyStore.Settled (sha256Hex : String → String) (st : FamilyStore) (row : Revision) : Prop :=
  st.HasPublished row ∧
    st.subscriptions.filter (·.workflowId = row.id) = row.subscriptions sha256Hex

/-- What holds of the publish a handler is busy with. -/
def StageFits (sha256Hex : String → String) (st : FamilyStore) (ticket : Nat) : PublishStage → Prop
  | .reading => ticket ∉ st.writes
  | .published row => st.HasPublished row
  | .synced row => st.Settled sha256Hex row
  | .refused => False

structure Knows (sha256Hex : String → String) (st : FamilyStore) (q : Launched × FamilyView) :
    Prop where
  launched : q.2.launched = q.1
  ticket : q.1.ticket < st.nextTicket
  stage : StageFits sha256Hex st q.1.ticket q.2.stage
  published : q.1.published = true →
    ∃ now ∈ st.rows, now.id = q.1.request.target ∧ now.status = .published
  seen : q.1.published = true → ∀ row ∈ q.2.seen, row.status = .published

/-- What holds of a request that was answered. -/
structure AnswerFits (sha256Hex : String → String) (st : FamilyStore) (l : Launched)
    (answer : Answer) : Prop where
  ticket : l.ticket < st.nextTicket
  settled : ∀ id, l.request = .publish id → answer = .ok →
    ∃ row, row.id = id ∧ st.Settled sha256Hex row
  unwritten : ∀ id, l.request = .publish id → answer ≠ .ok → l.ticket ∉ st.writes
  unrefused : ∀ id, l.request = .publish id → answer ≠ .conflict
  cloned : ∀ id, l.request = .clone id → l.published = true → answer ≠ .conflict

structure FamilyInv (sha256Hex : String → String) (st : FamilyStore)
    (crew : Nat → Option (Launched × FamilyView)) : Prop where
  different : (st.rows.map (·.id)).Nodup
  ids : ∀ row ∈ st.rows, row.id < st.nextId
  live : ∀ a ∈ st.subscriptions, ∀ b ∈ st.subscriptions, a.workflowId = b.workflowId
  writes : ∀ ticket ∈ st.writes, ticket < st.nextTicket
  knows : ∀ id q, crew id = some q → Knows sha256Hex st q
  tickets : ∀ i j q r, crew i = some q → crew j = some r → q.1.ticket = r.1.ticket → i = j
  answered : ∀ answered ∈ st.answers, AnswerFits sha256Hex st answered.1 answered.2
  past : ∀ answered ∈ st.answers, ∀ id q, crew id = some q → answered.1.ticket ≠ q.1.ticket

section step
variable {sha256Hex : String → String} {st st' : FamilyStore}
  {crew : Nat → Option (Launched × FamilyView)} {id : Nat} {l : Launched} {v v' : FamilyView}

/-- What a step does to the rest: published rows stay, subscriptions stay as they are where they
are settled, and only the request with `ticket` has written. -/
structure Advances (sha256Hex : String → String) (ticket : Nat) (st st' : FamilyStore) : Prop where
  published : ∀ row, st.HasPublished row → st'.HasPublished row
  settled : ∀ row, st.Settled sha256Hex row → st'.Settled sha256Hex row
  nextTicket : st.nextTicket ≤ st'.nextTicket
  writes : ∀ other ∈ st'.writes, other = ticket ∨ other ∈ st.writes

theorem hasPublished_of_mem {row : Revision} (mem : row ∈ st.rows) (is : row.status = .published) :
    st.HasPublished row := ⟨row, mem, rfl, is, rfl, rfl⟩

theorem Knows.advance {q : Launched × FamilyView} {ticket : Nat} (knows : Knows sha256Hex st q)
    (advances : Advances sha256Hex ticket st st') (other : q.1.ticket ≠ ticket) :
    Knows sha256Hex st' q where
  launched := knows.launched
  ticket := knows.ticket.trans_le advances.nextTicket
  stage := by
    have fits := knows.stage
    cases stage : q.2.stage with
    | reading =>
      rw [stage] at fits
      intro written
      rcases advances.writes _ written with same | before
      · exact other same
      · exact fits before
    | published row =>
      rw [stage] at fits
      exact advances.published row fits
    | synced row =>
      rw [stage] at fits
      exact advances.settled row fits
    | refused =>
      rw [stage] at fits
      exact fits
  published is := by
    obtain ⟨now, mem, same, status⟩ := knows.published is
    obtain ⟨row, there, sameId, still, -⟩ :=
      advances.published now (hasPublished_of_mem mem status)
    exact ⟨row, there, sameId.trans same, still⟩
  seen := knows.seen

theorem AnswerFits.advance {answer : Answer} {ticket : Nat}
    (fits : AnswerFits sha256Hex st l answer) (advances : Advances sha256Hex ticket st st')
    (other : l.ticket ≠ ticket) : AnswerFits sha256Hex st' l answer where
  ticket := fits.ticket.trans_le advances.nextTicket
  settled id is ok := by
    obtain ⟨row, same, settled⟩ := fits.settled id is ok
    exact ⟨row, same, advances.settled row settled⟩
  unwritten id is failed := by
    intro written
    rcases advances.writes _ written with same | before
    · exact other same
    · exact fits.unwritten id is failed before
  unrefused := fits.unrefused
  cloned := fits.cloned

/-- The rows and subscriptions of the store after a step of handler `id`. -/
structure Rows (st : FamilyStore) : Prop where
  different : (st.rows.map (·.id)).Nodup
  ids : ∀ row ∈ st.rows, row.id < st.nextId
  live : ∀ a ∈ st.subscriptions, ∀ b ∈ st.subscriptions, a.workflowId = b.workflowId
  writes : ∀ ticket ∈ st.writes, ticket < st.nextTicket

theorem FamilyInv.rows (inv : FamilyInv sha256Hex st crew) : Rows st :=
  ⟨inv.different, inv.ids, inv.live, inv.writes⟩

/-- A handler's operation: the others see the store advance. -/
theorem familyInv_call (inv : FamilyInv sha256Hex st crew) (here : crew id = some (l, v))
    (rows : Rows st') (advances : Advances sha256Hex l.ticket st st')
    (answers : st'.answers = st.answers) (knows : Knows sha256Hex st' (l, v')) :
    FamilyInv sha256Hex st' (Function.update crew id (some (l, v'))) where
  different := rows.different
  ids := rows.ids
  live := rows.live
  writes := rows.writes
  knows i q there := by
    rcases update_cases there with ⟨rfl, new⟩ | ⟨same, there⟩
    · cases new
      exact knows
    · refine (inv.knows i q there).advance advances fun tickets => same ?_
      exact inv.tickets i id q _ there here tickets
  tickets i j q r one two tickets := by
    have ticketOf {k : Nat} {p : Launched × FamilyView}
        (there : Function.update crew id (some (l, v')) k = some p) :
        ∃ before, crew k = some before ∧ before.1.ticket = p.1.ticket := by
      by_cases same : k = id
      · subst same
        cases (by simpa using there : some _ = some p)
        exact ⟨_, here, rfl⟩
      · exact ⟨p, by rwa [Function.update_of_ne same] at there, rfl⟩
    obtain ⟨first, atI, sameI⟩ := ticketOf one
    obtain ⟨second, atJ, sameJ⟩ := ticketOf two
    exact inv.tickets i j first second atI atJ (sameI.trans (tickets.trans sameJ.symm))
  answered answered mem := by
    rw [answers] at mem
    exact (inv.answered answered mem).advance advances (inv.past answered mem id _ here)
  past answered mem i q there := by
    rw [answers] at mem
    rcases update_cases there with ⟨rfl, new⟩ | ⟨same, there⟩
    · cases new
      have past := inv.past answered mem i _ here
      exact past
    · exact inv.past answered mem i q there

theorem Advances.refl (ticket : Nat) : Advances sha256Hex ticket st st :=
  ⟨fun _ has => has, fun _ has => has, le_rfl, fun _ mem => .inr mem⟩

/-! ### Rows that change -/

theorem mem_setRow {change : Revision → Revision} {row : Revision}
    (mem : row ∈ (st.setRow id change).rows) :
    ∃ before ∈ st.rows, row = if before.id = id then change before else before := by
  obtain ⟨before, there, rfl⟩ := List.mem_map.mp mem
  exact ⟨before, there, rfl⟩

theorem ids_setRow {change : Revision → Revision} (keeps : ∀ row, (change row).id = row.id) :
    (st.setRow id change).rows.map (·.id) = st.rows.map (·.id) := by
  simp only [FamilyStore.setRow, List.map_map]
  refine List.map_congr_left fun row _ => ?_
  by_cases same : row.id = id <;> simp [same, keeps]

theorem rows_setRow (inv : Rows st) {change : Revision → Revision}
    (keeps : ∀ row, (change row).id = row.id) : Rows (st.setRow id change) where
  different := by
    rw [ids_setRow keeps]
    exact inv.different
  ids row mem := by
    obtain ⟨before, there, rfl⟩ := mem_setRow mem
    have small := inv.ids before there
    split
    · rw [keeps]
      exact small
    · exact small
  live := inv.live
  writes := inv.writes

/-- A change that keeps what is published keeps the published rows. -/
theorem hasPublished_setRow {change : Revision → Revision}
    (keeps : ∀ row ∈ st.rows, row.id = id → row.status = .published →
      (change row).id = row.id ∧ (change row).status = .published ∧
        (change row).dsl = row.dsl ∧ (change row).revision = row.revision)
    {row : Revision} (has : st.HasPublished row) : (st.setRow id change).HasPublished row := by
  obtain ⟨now, mem, sameId, status, dsl, revision⟩ := has
  refine ⟨if now.id = id then change now else now, List.mem_map.mpr ⟨now, mem, rfl⟩, ?_⟩
  split
  · next is =>
    obtain ⟨keptId, still, keptDsl, keptRevision⟩ := keeps now mem is status
    exact ⟨keptId.trans sameId, still, keptDsl.trans dsl, keptRevision.trans revision⟩
  · exact ⟨sameId, status, dsl, revision⟩

theorem advances_setRow {change : Revision → Revision} {ticket : Nat}
    (keeps : ∀ row ∈ st.rows, row.id = id → row.status = .published →
      (change row).id = row.id ∧ (change row).status = .published ∧
        (change row).dsl = row.dsl ∧ (change row).revision = row.revision) :
    Advances sha256Hex ticket st (st.setRow id change) where
  published _ has := hasPublished_setRow keeps has
  settled _ settled := ⟨hasPublished_setRow keeps settled.1, settled.2⟩
  nextTicket := le_rfl
  writes _ mem := .inr mem

theorem row_unique (inv : Rows st) {a b : Revision} (memA : a ∈ st.rows) (memB : b ∈ st.rows)
    (same : a.id = b.id) : a = b :=
  List.inj_on_of_nodup_map inv.different memA memB same

/-! ### Subscriptions that change -/

theorem subscriptions_workflowId {row : Revision} :
    ∀ sub ∈ row.subscriptions sha256Hex, sub.workflowId = row.id := by
  intro sub mem
  obtain ⟨spec, -, rfl⟩ := List.mem_map.mp mem
  rfl

theorem subscriptions_congr {a b : Revision} (id : a.id = b.id) (revision : a.revision = b.revision)
    (dsl : a.dsl = b.dsl) : a.subscriptions sha256Hex = b.subscriptions sha256Hex := by
  rw [Revision.subscriptions, id, revision, dsl, Revision.subscriptions]

theorem hasPublished_agree (inv : Rows st) {a b : Revision} (hasA : st.HasPublished a)
    (hasB : st.HasPublished b) (same : a.id = b.id) : a.dsl = b.dsl ∧ a.revision = b.revision := by
  obtain ⟨nowA, memA, idA, -, dslA, revisionA⟩ := hasA
  obtain ⟨nowB, memB, idB, -, dslB, revisionB⟩ := hasB
  obtain rfl := row_unique inv memA memB (idA.trans (same.trans idB.symm))
  exact ⟨dslA.symm.trans dslB, revisionA.symm.trans revisionB⟩

/-- The subscriptions once those of `row` are replaced. -/
def replaced (sha256Hex : String → String) (st : FamilyStore) (row : Revision) :
    List SubscriptionRow := row.subscriptions sha256Hex ++ st.othersOf row

theorem filter_replaced_same {row : Revision} :
    (replaced sha256Hex st row).filter (·.workflowId = row.id) = row.subscriptions sha256Hex := by
  have mine : (row.subscriptions sha256Hex).filter (·.workflowId = row.id) =
      row.subscriptions sha256Hex :=
    List.filter_eq_self.mpr fun sub mem => by simpa using subscriptions_workflowId sub mem
  have others : (st.othersOf row).filter (·.workflowId = row.id) = [] := by
    refine List.filter_eq_nil_iff.mpr fun sub mem => ?_
    simpa using (List.mem_filter.mp mem).2
  rw [replaced, List.filter_append, mine, others, List.append_nil]

theorem filter_replaced_other {row : Revision} {other : Nat} (different : other ≠ row.id) :
    (replaced sha256Hex st row).filter (·.workflowId = other) =
      st.subscriptions.filter (·.workflowId = other) := by
  have mine : (row.subscriptions sha256Hex).filter (·.workflowId = other) = [] := by
    refine List.filter_eq_nil_iff.mpr fun sub mem => ?_
    rw [subscriptions_workflowId sub mem]
    simpa using different.symm
  rw [replaced, List.filter_append, mine, List.nil_append, FamilyStore.othersOf, List.filter_filter]
  refine List.filter_congr fun sub _ => ?_
  by_cases is : sub.workflowId = other <;> simp [is, different]

theorem settled_sync (inv : Rows st) {row other : Revision} (has : st.HasPublished row)
    (settled : st.Settled sha256Hex other) {writes : List Nat} :
    { st with subscriptions := replaced sha256Hex st row, writes }.Settled sha256Hex other := by
  refine ⟨settled.1, ?_⟩
  show (replaced sha256Hex st row).filter _ = _
  by_cases same : other.id = row.id
  · obtain ⟨dsl, revision⟩ := hasPublished_agree inv settled.1 has same
    rw [same, filter_replaced_same]
    exact subscriptions_congr same.symm revision.symm dsl.symm
  · rw [filter_replaced_other same]
    exact settled.2

theorem live_sync (inv : Rows st) {row : Revision}
    (alone : ∀ spec ∈ deriveTriggerSubscriptionsFromDsl sha256Hex row.dsl, st.othersOf row = []) :
    ∀ a ∈ replaced sha256Hex st row, ∀ b ∈ replaced sha256Hex st row,
      a.workflowId = b.workflowId := by
  intro a memA b memB
  cases derived : deriveTriggerSubscriptionsFromDsl sha256Hex row.dsl with
  | nil =>
    have nothing : row.subscriptions sha256Hex = [] := by
      rw [Revision.subscriptions, derived, List.map_nil]
    rw [replaced, nothing, List.nil_append] at memA memB
    exact inv.live a (List.mem_filter.mp memA).1 b (List.mem_filter.mp memB).1
  | cons spec rest =>
    have none := alone spec (by rw [derived]; simp)
    rw [replaced, none, List.append_nil] at memA memB
    exact (subscriptions_workflowId a memA).trans (subscriptions_workflowId b memB).symm

theorem not_taken {row : Revision} {hash : String} (free : hash ∉ st.foreign)
    (alone : st.othersOf row = []) : st.taken row hash = false := by
  simp [FamilyStore.taken, free, alone]

/-! ### Operations -/

theorem familyInv_publish (inv : FamilyInv sha256Hex st crew) (here : crew id = some (l, v))
    {target now : Nat} {row : Revision} (found : st.find target = some row) :
    FamilyInv sha256Hex
      { st.setRow target (fun row => row.publish now) with writes := l.ticket :: st.writes }
      (Function.update crew id (some (l, { v with stage := .published (row.publish now) }))) := by
  have knows := inv.knows id _ here
  obtain ⟨mem, is⟩ := find_spec found
  have moved : Rows (st.setRow target fun row => row.publish now) :=
    rows_setRow inv.rows fun _ => rfl
  have advances : Advances sha256Hex l.ticket st
      { st.setRow target (fun row => row.publish now) with writes := l.ticket :: st.writes } := by
    have base : Advances sha256Hex l.ticket st (st.setRow target fun row => row.publish now) :=
      advances_setRow fun _ _ _ _ => ⟨rfl, rfl, rfl, rfl⟩
    exact ⟨base.published, base.settled, le_rfl, fun other written => List.mem_cons.mp written⟩
  refine familyInv_call inv here ⟨moved.different, moved.ids, moved.live, fun other written => ?_⟩
    advances rfl ⟨knows.launched, knows.ticket, ?_, ?_, knows.seen⟩
  · rcases List.mem_cons.mp written with rfl | before
    · exact knows.ticket
    · exact inv.writes other before
  · refine ⟨row.publish now, List.mem_map.mpr ⟨row, mem, if_pos is⟩, rfl, rfl, rfl, rfl⟩
  · intro published
    obtain ⟨old, there, same, status⟩ := knows.published published
    obtain ⟨new, stays, sameId, still, -⟩ :=
      advances.published old (hasPublished_of_mem there status)
    exact ⟨new, stays, sameId.trans same, still⟩

theorem familyInv_sync (inv : FamilyInv sha256Hex st crew) (here : crew id = some (l, v))
    {row : Revision} (stage : v.stage = .published row)
    (alone : ∀ spec ∈ deriveTriggerSubscriptionsFromDsl sha256Hex row.dsl, st.othersOf row = []) :
    FamilyInv sha256Hex
      { st with
        subscriptions := replaced sha256Hex st row
        writes := l.ticket :: st.writes }
      (Function.update crew id (some (l, { v with stage := .synced row }))) := by
  have knows := inv.knows id _ here
  have has := knows.stage
  rw [show (l, v).2.stage = .published row from stage] at has
  refine familyInv_call inv here
    ⟨inv.different, inv.ids, live_sync inv.rows alone, fun other written => ?_⟩
    ⟨fun _ has => has, fun other settled => settled_sync inv.rows has settled, le_rfl,
      fun other written => List.mem_cons.mp written⟩
    rfl ⟨knows.launched, knows.ticket, ⟨has, filter_replaced_same⟩, knows.published, knows.seen⟩
  rcases List.mem_cons.mp written with rfl | before
  · exact knows.ticket
  · exact inv.writes other before

/-- An operation that leaves the store and the stage as they are. -/
theorem familyInv_read (inv : FamilyInv sha256Hex st crew) (here : crew id = some (l, v))
    (launched : v'.launched = v.launched) (stage : v'.stage = v.stage)
    (seen : l.published = true → ∀ row ∈ v'.seen, row.status = .published) :
    FamilyInv sha256Hex st (Function.update crew id (some (l, v'))) := by
  have knows := inv.knows id _ here
  refine familyInv_call inv here inv.rows (.refl _) rfl
    ⟨launched.trans knows.launched, knows.ticket, ?_, knows.published, seen⟩
  show StageFits sha256Hex st l.ticket v'.stage
  rw [stage]
  exact knows.stage

/-- A change of the rows that writes no publish. -/
theorem familyInv_rows (inv : FamilyInv sha256Hex st crew) (here : crew id = some (l, v))
    (rows : Rows st') (published : ∀ row, st.HasPublished row → st'.HasPublished row)
    (rest : st'.subscriptions = st.subscriptions ∧ st'.nextTicket = st.nextTicket ∧
      st'.writes = st.writes ∧ st'.answers = st.answers) :
    FamilyInv sha256Hex st' (Function.update crew id (some (l, v))) := by
  have knows := inv.knows id _ here
  obtain ⟨subscriptions, nextTicket, writes, answers⟩ := rest
  have settled (row : Revision) (settled : st.Settled sha256Hex row) :
      st'.Settled sha256Hex row :=
    ⟨published row settled.1, by rw [subscriptions]; exact settled.2⟩
  refine familyInv_call inv here rows ⟨published, settled, nextTicket.ge, fun other written => ?_⟩
    answers ⟨knows.launched, nextTicket ▸ knows.ticket, ?_, fun is => ?_, knows.seen⟩
  · rw [writes] at written
    exact .inr written
  · have fits := knows.stage
    cases stage : v.stage with
    | reading =>
      rw [show (l, v).2.stage = .reading from stage] at fits
      show l.ticket ∉ st'.writes
      rw [writes]
      exact fits
    | published row =>
      rw [show (l, v).2.stage = .published row from stage] at fits
      exact published row fits
    | synced row =>
      rw [show (l, v).2.stage = .synced row from stage] at fits
      exact settled row fits
    | refused =>
      rw [show (l, v).2.stage = .refused from stage] at fits
      exact fits
  · obtain ⟨now, mem, same, status⟩ := knows.published is
    obtain ⟨row, there, sameId, still, -⟩ := published now (hasPublished_of_mem mem status)
    exact ⟨row, there, sameId.trans same, still⟩

theorem rows_addDraft (inv : Rows st) (source : Revision) : Rows (st.addDraft source) where
  different := by
    refine List.nodup_cons.mpr ⟨fun mem => ?_, inv.different⟩
    obtain ⟨row, there, same⟩ := List.mem_map.mp mem
    exact absurd same (Nat.ne_of_lt (inv.ids row there))
  ids row mem := by
    rcases List.mem_cons.mp mem with rfl | older
    · exact Nat.lt_succ_self _
    · exact Nat.lt_succ_of_lt (inv.ids row older)
  live := inv.live
  writes := inv.writes

theorem hasPublished_addDraft {source row : Revision} (has : st.HasPublished row) :
    (st.addDraft source).HasPublished row := by
  obtain ⟨now, mem, rest⟩ := has
  exact ⟨now, List.mem_cons_of_mem _ mem, rest⟩

theorem familyInv_op {op : FamilyOp} {reply : op.Reply} {choice : FamilyChoice}
    {s : (familySystem sha256Hex).State} (inv : FamilyInv sha256Hex s.store crew)
    (here : crew id = some (l, v)) (permitted : familyProtocol.permits v op)
    (performed : performFamily sha256Hex s.store choice op = some (reply, st'))
    (issues : (familyCertified sha256Hex).issued s (.call id choice) = some (v, op))
    (alone : Alone sha256Hex s (.call id choice)) :
    FamilyInv sha256Hex st'
      (Function.update crew id (some (l, familyProtocol.observe v op reply))) := by
  have knows := inv.knows id _ here
  have launched : v.launched = l := knows.launched
  cases op with
  | getWorkflowById target =>
    simp only [performFamily] at performed
    split at performed
    · cases performed
      cases found : s.store.find target with
      | none => exact familyInv_read inv here rfl rfl knows.seen
      | some row =>
        refine familyInv_read inv here rfl rfl fun published => ?_
        rintro _ ⟨⟩
        obtain ⟨mem, is⟩ := find_spec found
        obtain ⟨now, there, same, status⟩ := knows.published published
        have asked : v.launched.request.target = target := permitted
        rw [launched] at asked
        rwa [row_unique inv.rows mem there (is.trans (same.trans asked).symm)]
    · cases performed
      exact familyInv_read inv here rfl rfl knows.seen
  | updateWorkflowDraft target dsl =>
    simp only [performFamily] at performed
    split at performed
    · cases performed
      exact familyInv_read inv here rfl rfl knows.seen
    · split at performed
      · next draft =>
        cases performed
        refine familyInv_rows inv here (rows_setRow inv.rows fun _ => rfl)
          (fun row has => hasPublished_setRow (fun row mem is published => ?_) has)
          ⟨rfl, rfl, rfl, rfl⟩
        cases found : s.store.find target with
        | none => simp [found] at draft
        | some old =>
          obtain ⟨there, same⟩ := find_spec found
          rw [row_unique inv.rows mem there (is.trans same.symm)] at published
          simp [found, published] at draft
      · cases performed
        exact familyInv_read inv here rfl rfl knows.seen
  | createWorkflowDraftFromWorkflow source =>
    simp only [performFamily] at performed
    split at performed
    · cases performed
      exact familyInv_read inv here rfl rfl knows.seen
    · split at performed
      · cases performed
        exact familyInv_read inv here rfl rfl knows.seen
      · cases performed
        exact familyInv_rows inv here (rows_addDraft inv.rows _)
          (fun _ has => hasPublished_addDraft has) ⟨rfl, rfl, rfl, rfl⟩
  | publishWorkflow ticket target =>
    obtain ⟨-, rfl, -⟩ := permitted
    simp only [performFamily] at performed
    split at performed
    · cases performed
      exact familyInv_read inv here rfl rfl knows.seen
    · split at performed
      · cases performed
        exact familyInv_read inv here rfl rfl knows.seen
      · next row found =>
        cases performed
        rw [launched]
        exact familyInv_publish inv here found
  | syncWorkflowTriggerSubscriptions ticket row =>
    obtain ⟨stage, rfl⟩ := permitted
    unfold Alone at alone
    rw [issues] at alone
    obtain ⟨ok, free⟩ := alone
    simp only [performFamily, ok] at performed
    have clear : ¬ (deriveTriggerSubscriptionsFromDsl sha256Hex row.dsl).any (fun spec =>
        spec.tokenHash.any (s.store.taken row)) = true := by
      intro hit
      obtain ⟨spec, mem, token⟩ := List.any_eq_true.mp hit
      obtain ⟨hash, is, taken⟩ := (Option.any_eq_true _ _).mp token
      obtain ⟨fresh, nobody⟩ := free spec mem
      rw [not_taken (fresh hash is) nobody] at taken
      cases taken
    simp only [Bool.not_true, Bool.false_eq_true, if_false, if_neg clear] at performed
    cases performed
    rw [launched]
    exact familyInv_sync inv here stage fun spec mem => (free spec mem).2

theorem familyInv_launch (inv : FamilyInv sha256Hex st crew) (free : crew id = none)
    (ticket : l.ticket = st.nextTicket)
    (published : l.published = st.isPublished l.request.target) :
    FamilyInv sha256Hex { st with nextTicket := st.nextTicket + 1 }
      (Function.update crew id (some (l, { launched := l, seen := none, stage := .reading }))) := by
  have advances : Advances sha256Hex st.nextTicket st
      { st with nextTicket := st.nextTicket + 1 } :=
    ⟨fun _ has => has, fun _ has => has, Nat.le_succ _, fun _ mem => .inr mem⟩
  have older {i : Nat} {q : Launched × FamilyView} (there : crew i = some q) :
      q.1.ticket ≠ st.nextTicket := Nat.ne_of_lt (inv.knows i q there).ticket
  refine ⟨inv.different, inv.ids, inv.live, fun other mem => ?_, ?_, ?_, ?_, ?_⟩
  · exact Nat.lt_succ_of_lt (inv.writes other mem)
  · intro i q there
    rcases update_cases there with ⟨rfl, new⟩ | ⟨same, there⟩
    · cases new
      refine ⟨rfl, ?_, fun written => ?_, fun is => ?_, fun _ row seen => by cases seen⟩
      · rw [ticket]
        exact Nat.lt_succ_self _
      · exact absurd ticket (Nat.ne_of_lt (inv.writes _ written))
      · have found := published.symm.trans is
        unfold FamilyStore.isPublished at found
        obtain ⟨row, there, status⟩ := (Option.any_eq_true _ _).mp found
        obtain ⟨mem, sameId⟩ := find_spec there
        exact ⟨row, mem, sameId, by simpa using status⟩
    · exact (inv.knows i q there).advance advances (older there)
  · intro i j q r one two same
    by_cases sameI : i = id
    · by_cases sameJ : j = id
      · exact sameI.trans sameJ.symm
      · subst sameI
        cases (by simpa using one : some _ = some q)
        rw [Function.update_of_ne sameJ] at two
        exact absurd (same.symm.trans ticket) (older two)
    · rw [Function.update_of_ne sameI] at one
      rcases update_cases two with ⟨rfl, new⟩ | ⟨sameJ, two⟩
      · cases new
        exact absurd (same.trans ticket) (older one)
      · exact inv.tickets i j q r one two same
  · intro answered mem
    have kept := inv.answered answered mem
    exact kept.advance advances (Nat.ne_of_lt kept.ticket)
  · intro answered mem i q there
    rcases update_cases there with ⟨rfl, new⟩ | ⟨same, there⟩
    · cases new
      show answered.1.ticket ≠ l.ticket
      rw [ticket]
      exact Nat.ne_of_lt (inv.answered answered mem).ticket
    · exact inv.past answered mem i q there

/-- What a handler knows is enough for its answer. -/
theorem answerFits_of_ended {answer : Answer} (knows : Knows sha256Hex st (l, v))
    (ended : Ended l answer v) : AnswerFits sha256Hex st l answer := by
  obtain ⟨-, ended⟩ := ended
  have fits := knows.stage
  have notRefused : v.stage ≠ .refused := by
    intro stage
    rw [show (l, v).2.stage = .refused from stage] at fits
    exact fits
  refine ⟨knows.ticket, fun id is ok => ?_, fun id is failed => ?_, fun id is conflict => ?_,
    fun id is published conflict => ?_⟩
  · subst ok
    rw [is] at ended
    obtain ⟨row, stage, same⟩ := ended
    rw [show (l, v).2.stage = .synced row from stage] at fits
    exact ⟨row, same, fits⟩
  · rw [is] at ended
    have stage : v.stage = .reading := by
      cases answer with
      | ok => exact absurd rfl failed
      | conflict => exact absurd ended notRefused
      | notFound => exact ended.resolve_right notRefused
      | failed => exact ended.resolve_right notRefused
    rw [show (l, v).2.stage = .reading from stage] at fits
    exact fits
  · subst conflict
    rw [is] at ended
    exact notRefused ended
  · subst conflict
    rw [is] at ended
    obtain ⟨row, seen, unpublished⟩ := ended
    exact unpublished (knows.seen published row seen)

theorem familyInv_finish (inv : FamilyInv sha256Hex st crew) (here : crew id = some (l, v))
    {answer : Answer} (ended : Ended l answer v) :
    FamilyInv sha256Hex { st with answers := (l, answer) :: st.answers }
      (Function.update crew id none) := by
  have advances : Advances sha256Hex st.nextTicket st
      { st with answers := (l, answer) :: st.answers } :=
    ⟨fun _ has => has, fun _ has => has, le_rfl, fun _ mem => .inr mem⟩
  have others {i : Nat} {q : Launched × FamilyView}
      (there : Function.update crew id none i = some q) : i ≠ id ∧ crew i = some q := by
    by_cases same : i = id
    · subst same
      simp at there
    · exact ⟨same, by rwa [Function.update_of_ne same] at there⟩
  refine ⟨inv.different, inv.ids, inv.live, inv.writes, fun i q there => ?_, ?_, ?_, ?_⟩
  · obtain ⟨-, before⟩ := others there
    exact (inv.knows i q before).advance advances (Nat.ne_of_lt (inv.knows i q before).ticket)
  · intro i j q r one two same
    exact inv.tickets i j q r (others one).2 (others two).2 same
  · intro answered mem
    rcases List.mem_cons.mp mem with rfl | older
    · have fits := answerFits_of_ended (inv.knows id _ here) ended
      exact fits.advance advances (Nat.ne_of_lt fits.ticket)
    · have fits := inv.answered answered older
      exact fits.advance advances (Nat.ne_of_lt fits.ticket)
  · intro answered mem i q there
    obtain ⟨different, before⟩ := others there
    rcases List.mem_cons.mp mem with rfl | older
    · exact fun same => different (inv.tickets i id q _ before here same.symm)
    · exact inv.past answered older i q before

end step

theorem familyInv_step {sha256Hex : String → String} {s t : (familySystem sha256Hex).State}
    {a : (familySystem sha256Hex).Action} (all : (familyCertified sha256Hex).AllFollow s)
    (inv : FamilyInv sha256Hex s.store ((familyCertified sha256Hex).crew s))
    (alone : Alone sha256Hex s a) (stepped : System.Stepped s a t) :
    FamilyInv sha256Hex t.store ((familyCertified sha256Hex).crew t) := by
  have happened := Certified.happened all stepped
  generalize (familyCertified sha256Hex).crew t = crew at happened ⊢
  generalize t.store = store at happened ⊢
  cases happened with
  | @launch id l store free launched =>
    simp only at launched
    split at launched
    · next fits =>
      cases launched
      exact familyInv_launch inv free fits.1 fits.2
    · cases launched
  | call here issues permitted performed =>
    exact familyInv_op inv here permitted performed issues alone
  | loop => exact inv
  | finish here ended => exact familyInv_finish inv here ended
  | @tick t store ticked => cases t

theorem familyInv_created (sha256Hex : String → String) (dsl : AcceptedDsl)
    (foreign : List String) :
    FamilyInv sha256Hex (createdFamily sha256Hex dsl foreign).store fun _ => none where
  different := by simp [createdFamily]
  ids := by simp [createdFamily]
  live := by simp [createdFamily]
  writes := by simp [createdFamily]
  knows := by simp
  tickets := by simp
  answered := by simp [createdFamily]
  past := by simp

theorem familyInv_run {sha256Hex : String → String} {dsl : AcceptedDsl} {foreign : List String}
    {s : (familySystem sha256Hex).State}
    (run : System.Steps (Alone sha256Hex) (createdFamily sha256Hex dsl foreign) s) :
    FamilyInv sha256Hex s.store ((familyCertified sha256Hex).crew s) :=
  ((familyCertified sha256Hex).invariant
    (fun s => FamilyInv sha256Hex s.store ((familyCertified sha256Hex).crew s))
    (fun _ => rfl) (familyInv_created sha256Hex dsl foreign)
    (fun _ _ _ all inv alone stepped => familyInv_step all inv alone stepped) run).2

/-! ### Publishing -/

def hookDsl (trigger : WorkflowTrigger) (valid : workflowTriggerSchema trigger = true) :
    AcceptedDsl :=
  ⟨.v2 { trigger, nodes := [.parallelJoin "join" none] }, by
    simp only [workflowDslAnySchema, workflowDslSchema, valid, Bool.true_and]
    decide +kernel⟩

def publishRequest (ticket id : Nat) : Launched :=
  { ticket, request := .publish id, published := false }

def well : FamilyChoice where
  ok := true
  now := 0

/-- The revision of a workflow with a webhook trigger. -/
def hooked : AcceptedDsl := hookDsl (.webhook "token") (by decide +kernel)

def FamilyRequest.publishTarget : FamilyRequest → Option Nat
  | publish id => some id
  | _ => none

def summary (answered : Launched × Answer) : Nat × Option Nat × Answer :=
  (answered.1.ticket, answered.1.request.publishTarget, answered.2)

end Vespid.Api.Publishing
