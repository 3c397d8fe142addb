import Vespid.Workflow.Dsl
import Mathlib.Data.List.Nodup

/-!
# Approval requests

The requests of one run, in the order they were created, and the repository functions on
them. A decision only applies to a request that is still pending.
-/

namespace Vespid

open Workflow (NodeType Uuid)

inductive ApprovalStatus where
  | pending | approved | rejected | expired
  deriving DecidableEq

structure WorkflowApprovalRequest where
  id : Uuid
  nodeId : String
  nodeType : NodeType
  reason : String
  status : ApprovalStatus
  expiresAt : Int
  decisionNote : Option String := none
  deriving DecidableEq

abbrev Approvals := List WorkflowApprovalRequest

namespace Approvals

def create (approvals : Approvals) (id : Uuid) (nodeId : String) (nodeType : NodeType)
    (reason : String) (expiresAt : Int) : Approvals :=
  approvals ++ [{ id, nodeId, nodeType, reason, status := .pending, expiresAt }]

def getById (approvals : Approvals) (id : Uuid) : Option WorkflowApprovalRequest :=
  approvals.find? fun request => request.id = id

/-- Whether an approved request of the node is unexpired at `now`. -/
def hasApproved (approvals : Approvals) (nodeId : String) (now : Int) : Bool :=
  approvals.any fun request =>
    request.nodeId = nodeId && request.status = .approved && now < request.expiresAt

/-- The update behind `decideWorkflowApprovalRequest`, on every row it matches. -/
def decide (approvals : Approvals) (id : Uuid) (status : ApprovalStatus)
    (decisionNote : Option String) : Approvals :=
  approvals.map fun request =>
    if request.id = id ∧ request.status = .pending then { request with status, decisionNote }
    else request

/-- The row `decideWorkflowApprovalRequest` returns. -/
def decided (approvals : Approvals) (id : Uuid) (status : ApprovalStatus)
    (decisionNote : Option String) : Option WorkflowApprovalRequest :=
  (approvals.find? fun request => request.id = id ∧ request.status = .pending).map
    fun request => { request with status, decisionNote }

/-! ### What the updates keep -/

/-- No two requests have one id. -/
def Unique (approvals : Approvals) : Prop := (approvals.map (·.id)).Nodup

variable {approvals : Approvals} {id : Uuid} {status : ApprovalStatus} {note : Option String}
  {r r' : WorkflowApprovalRequest}

theorem Unique.eq_of_id (unique : approvals.Unique) (mem : r ∈ approvals) (mem' : r' ∈ approvals)
    (same : r.id = r'.id) : r = r' :=
  List.inj_on_of_nodup_map unique mem mem' same

theorem Unique.getById (unique : approvals.Unique) (mem : r ∈ approvals) :
    approvals.getById r.id = some r := by
  cases found : approvals.getById r.id with
  | none => exact absurd (List.find?_eq_none.mp found r mem) (by simp)
  | some r' =>
    have same : r'.id = r.id := by simpa using List.find?_some found
    rw [unique.eq_of_id (List.mem_of_find?_eq_some found) mem same]

theorem Unique.create (unique : approvals.Unique) (new : id ∉ approvals.map (·.id))
    (nodeId : String) (nodeType : NodeType) (reason : String) (expiresAt : Int) :
    (approvals.create id nodeId nodeType reason expiresAt).Unique := by
  simp only [Unique, Approvals.create, List.map_append, List.map_cons, List.map_nil]
  exact List.Nodup.append unique (List.nodup_singleton _) (by simpa using new)

theorem decide_ids : (approvals.decide id status note).map (·.id) = approvals.map (·.id) := by
  simp only [decide, List.map_map]
  refine List.map_congr_left fun r _ => ?_
  simp only [Function.comp_apply]
  split <;> rfl

theorem Unique.decide (unique : approvals.Unique) : (approvals.decide id status note).Unique := by
  rw [Unique, decide_ids]
  exact unique

/-- A request that has left pending is not decided again. -/
theorem settled_decide (mem : r ∈ approvals) (settled : r.status ≠ .pending) :
    r ∈ approvals.decide id status note :=
  List.mem_map.mpr ⟨r, mem, by simp [settled]⟩

theorem pending_of_decide (mem : r ∈ approvals.decide id status note) (decision : status ≠ .pending)
    (pending : r.status = .pending) : r ∈ approvals := by
  obtain ⟨r', mem', rfl⟩ := List.mem_map.mp mem
  split at pending
  · exact (decision pending).elim
  · rename_i not
    rwa [if_neg not]

theorem decided_none (none : approvals.decided id status note = none) :
    approvals.decide id status note = approvals := by
  have idle := List.find?_eq_none.mp (Option.map_eq_none_iff.mp none)
  rw [decide, List.map_congr_left (g := fun r => r), List.map_id']
  intro r mem
  rw [if_neg (by simpa using idle r mem)]

theorem decided_some (some : approvals.decided id status note = some r) :
    ∃ r' ∈ approvals, r'.id = id ∧ r'.status = .pending ∧ r.id = id := by
  obtain ⟨r', found, rfl⟩ := Option.map_eq_some_iff.mp some
  have matched := List.find?_some found
  simp only [decide_eq_true_eq] at matched
  exact ⟨r', List.mem_of_find?_eq_some found, matched.1, matched.2, matched.1⟩

theorem getLast?_decide : (approvals.decide id status note).getLast? = approvals.getLast?.map
    fun r => if r.id = id ∧ r.status = .pending then { r with status, decisionNote := note }
      else r :=
  List.getLast?_map

end Approvals

end Vespid
