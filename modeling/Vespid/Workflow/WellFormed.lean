import Mathlib.Data.Finset.Card
import Vespid.Workflow.Topology

/-!
# The graphs the validator accepts

`validateV3GraphConstraints` answers ok exactly on well-formed graphs, and an issue it reports
names a condition that fails.
-/

namespace Vespid.Workflow

/-! ### Searching -/

section search
variable {next : String → List String} {seen stack : List String}

/-- What one popped node adds. -/
theorem push_spec (found : List String) : ∃ new,
    found.foldl (fun acc id => if id ∈ acc.1 then acc else (acc.1 ++ [id], id :: acc.2))
      (seen, stack) = (seen ++ new, new.reverse ++ stack) ∧
    (seen.Nodup → (seen ++ new).Nodup) ∧ new ⊆ found ∧ found ⊆ seen ++ new := by
  induction found generalizing seen stack with
  | nil => exact ⟨[], by simp, by simp, by simp, by simp⟩
  | cons id rest ih =>
    rw [List.foldl_cons]
    by_cases known : id ∈ seen
    · rw [if_pos known]
      obtain ⟨new, eq, distinct, added, covered⟩ := @ih seen stack
      refine ⟨new, eq, distinct, fun x mem => List.mem_cons_of_mem _ (added mem), ?_⟩
      exact List.cons_subset.mpr ⟨List.mem_append_left _ known, covered⟩
    · rw [if_neg known]
      obtain ⟨new, eq, distinct, added, covered⟩ := @ih (seen ++ [id]) (id :: stack)
      have same : seen ++ [id] ++ new = seen ++ id :: new := by simp
      rw [same] at eq distinct covered
      refine ⟨id :: new, by rw [eq]; simp, fun nodup => distinct ?_,
        List.cons_subset_cons _ added, List.cons_subset.mpr ⟨by simp, covered⟩⟩
      exact nodup.append (List.nodup_singleton id) (by simpa using known)

/-- With enough fuel a search finds all there is from the stack on and, from it, nothing else. -/
theorem search_spec {all : List String} (inside : ∀ x, next x ⊆ all) (fuel : Nat)
    (distinct : seen.Nodup) (known : seen ⊆ all)
    (enough : all.length + stack.length ≤ fuel + seen.length)
    (done : ∀ x ∈ seen, x ∈ stack ∨ next x ⊆ seen) :
    seen ⊆ search next fuel seen stack ∧
    (∀ x ∈ stack, next x ⊆ search next fuel seen stack) ∧
    (∀ x ∈ search next fuel seen stack, next x ⊆ search next fuel seen stack) ∧
    ∀ S : String → Prop, (∀ x ∈ seen, S x) → (∀ x ∈ stack, ∀ y ∈ next x, S y) →
      (∀ x, S x → ∀ y ∈ next x, S y) → ∀ x ∈ search next fuel seen stack, S x := by
  have few : seen.length ≤ all.length := (distinct.subperm known).length_le
  induction fuel generalizing seen stack with
  | zero =>
    have empty : stack = [] := List.length_eq_zero_iff.mp (by omega)
    subst empty
    unfold search
    refine ⟨List.Subset.refl _, by simp, fun x mem => ?_, fun S base _ _ => base⟩
    exact (done x mem).resolve_left (by simp)
  | succ fuel ih =>
    cases stack with
    | nil =>
      unfold search
      refine ⟨List.Subset.refl _, by simp, fun x mem => ?_, fun S base _ _ => base⟩
      exact (done x mem).resolve_left (by simp)
    | cons current stack =>
      obtain ⟨new, eq, distinct', added, covered⟩ :=
        @push_spec seen stack (next current)
      rw [search, eq]
      have known' : seen ++ new ⊆ all :=
        List.append_subset.mpr ⟨known, List.Subset.trans added (inside current)⟩
      have enough' : all.length + (new.reverse ++ stack).length ≤ fuel + (seen ++ new).length := by
        simp only [List.length_append, List.length_reverse, List.length_cons] at enough ⊢
        omega
      obtain ⟨first, second, third, least⟩ := ih (distinct' distinct) known' enough'
        (fun x mem => by
          rcases List.mem_append.mp mem with old | fresh
          · rcases done x old with waits | settled
            · rcases List.mem_cons.mp waits with rfl | later
              · exact .inr covered
              · exact .inl (List.mem_append_right _ later)
            · exact .inr (List.Subset.trans settled (List.subset_append_left _ _))
          · exact .inl (List.mem_append_left _ (List.mem_reverse.mpr fresh)))
        ((distinct' distinct).subperm known').length_le
      refine ⟨List.Subset.trans (List.subset_append_left _ _) first, fun x mem => ?_, third,
        fun S base step closed => least S (fun x mem => ?_) (fun x mem => ?_) closed⟩
      · rcases List.mem_cons.mp mem with rfl | later
        · exact List.Subset.trans covered first
        · exact second x (List.mem_append_right _ later)
      · rcases List.mem_append.mp mem with old | fresh
        · exact base x old
        · exact step current List.mem_cons_self x (added fresh)
      · rcases List.mem_append.mp mem with fresh | later
        · exact closed x (step current List.mem_cons_self x (added (List.mem_reverse.mp fresh)))
        · exact step x (List.mem_cons_of_mem _ later)

end search

/-! ### Well-formed graphs -/

namespace WorkflowDslV3
variable (dsl : WorkflowDslV3)

def Edge (a b : String) : Prop := ∃ e ∈ dsl.edges, e.from = a ∧ e.to = b

def alwaysEdges (id : String) : List WorkflowEdgeV3 :=
  (dsl.outgoing id).filter fun e => e.kindOrAlways = .always

/-- A node that runs remotely on a branch of a fork, before a join the fork leads to. -/
def RemoteInRegion (nodeId : String) : Prop :=
  ∃ join root branch, (∃ config ∈ dsl.nodes, config.1 = join ∧ config.2.type = .parallelJoin) ∧
    Relation.ReflTransGen dsl.Edge root join ∧ 2 ≤ (dsl.alwaysEdges root).length ∧
    branch ∈ dsl.alwaysEdges root ∧ Relation.ReflTransGen dsl.Edge branch.to nodeId ∧
    Relation.ReflTransGen dsl.Edge nodeId join ∧ nodeId ≠ join ∧
    ∃ node, dsl.node? nodeId = some node ∧ isRemoteExecutionMode node = true

/-- The condition that a code is about. -/
def Meets : ValidationCode → Prop
  | .graphNodeMissing => dsl.nodes ≠ []
  | .graphEdgeInvalid => (dsl.edges.map (·.id)).Nodup ∧ dsl.Closed
  | .conditionEdgeConstraints => ∀ entry ∈ dsl.nodes, entry.2.type = .condition →
      (dsl.outgoing entry.1).length = 2 ∧ (∃ e ∈ dsl.outgoing entry.1, e.kind = some .condTrue) ∧
        ∃ e ∈ dsl.outgoing entry.1, e.kind = some .condFalse
  | .graphCycleDetected => ∀ id, ¬ Relation.TransGen dsl.Edge id id
  | .parallelRemoteNotSupported => ∀ id, ¬ dsl.RemoteInRegion id

def WellFormed : Prop := ∀ code, dsl.Meets code

end WorkflowDslV3

section graphs
variable {dsl : WorkflowDslV3}

theorem mem_sources_iff {a b : String} : a ∈ dsl.sources b ↔ dsl.Edge a b := by
  rw [WorkflowDslV3.mem_sources]
  constructor
  · rintro ⟨e, mem, target, source⟩
    exact ⟨e, mem, source, target⟩
  · rintro ⟨e, mem, source, target⟩
    exact ⟨e, mem, target, source⟩

theorem mem_targets_iff {a b : String} :
    b ∈ (dsl.outgoing a).map (·.to) ↔ dsl.Edge a b := by
  simp [WorkflowDslV3.Edge, WorkflowDslV3.outgoing, and_assoc]

theorem mem_computeCanReach (closed : dsl.Closed) {target x : String} :
    x ∈ computeCanReach dsl target ↔ Relation.TransGen dsl.Edge x target := by
  have inside (y : String) : dsl.sources y ⊆ dsl.nodeIds := fun z mem => by
    obtain ⟨e, edge, rfl, -⟩ := mem_sources_iff.mp mem
    exact (closed e edge).1
  obtain ⟨-, second, third, least⟩ := @search_spec dsl.sources [] [target] dsl.nodeIds inside
    (dsl.nodes.length + 1) List.nodup_nil (List.nil_subset _)
    (by simp [WorkflowDslV3.nodeIds]) (by simp)
  constructor
  · refine least (fun y => Relation.TransGen dsl.Edge y target) (by simp) (fun y mem z before => ?_)
      (fun y later z before => ?_) x
    · rw [List.mem_singleton.mp mem] at before
      exact .single (mem_sources_iff.mp before)
    · exact .head (mem_sources_iff.mp before) later
  · intro path
    induction path using Relation.TransGen.head_induction_on with
    | single edge => exact second target (by simp) (mem_sources_iff.mpr edge)
    | head edge _ ih => exact third _ ih (mem_sources_iff.mpr edge)

theorem mem_computeReachableFrom (closed : dsl.Closed) {start x : String}
    (listed : start ∈ dsl.nodeIds) :
    x ∈ computeReachableFrom dsl start ↔ Relation.ReflTransGen dsl.Edge start x := by
  have inside (y : String) : (dsl.outgoing y).map (·.to) ⊆ dsl.nodeIds := fun z mem => by
    obtain ⟨e, edge, -, rfl⟩ := mem_targets_iff.mp mem
    exact (closed e edge).2
  obtain ⟨first, second, third, least⟩ := search_spec inside (dsl.nodes.length + 1)
    (List.nodup_singleton start) (by simpa using listed)
    (show dsl.nodeIds.length + [start].length ≤ _ by simp [WorkflowDslV3.nodeIds])
    (fun y mem => .inl mem)
  constructor
  · refine least (fun y => Relation.ReflTransGen dsl.Edge start y) (fun y mem => ?_)
      (fun y mem z after => ?_) (fun y before z after => ?_) x
    · rw [List.mem_singleton.mp mem]
    · rw [List.mem_singleton.mp mem] at after
      exact .single (mem_targets_iff.mp after)
    · exact before.tail (mem_targets_iff.mp after)
  · intro path
    induction path with
    | refl => exact first (List.mem_singleton_self start)
    | tail _ edge ih => exact third _ ih (mem_targets_iff.mpr edge)

/-! ### Each check -/

theorem checkEdges_none : checkEdges dsl.nodeIds [] dsl.edges = none ↔
    dsl.Meets .graphEdgeInvalid := by
  rw [checkEdges_eq_none]
  constructor
  · rintro ⟨distinct, -, closed⟩
    exact ⟨distinct, closed⟩
  · rintro ⟨distinct, closed⟩
    exact ⟨distinct, fun _ _ => List.not_mem_nil, closed⟩

theorem checkEdges_code {nodeIds edgeIds : List String} {edges : List WorkflowEdgeV3}
    {issue : ValidationIssue} (found : checkEdges nodeIds edgeIds edges = some issue) :
    issue.code = .graphEdgeInvalid := by
  induction edges generalizing edgeIds with
  | nil => cases found
  | cons edge rest ih =>
    unfold checkEdges at found
    split at found
    · cases found
      rfl
    · split at found
      · cases found
        rfl
      · exact ih found

theorem paired_iff (out : List WorkflowEdgeV3) :
    ((out.map (·.kindOrAlways)).count .condTrue = 1 ∧
      (out.map (·.kindOrAlways)).count .condFalse = 1 ∧
      ((out.map (·.kindOrAlways)).countP fun k => k ≠ .condTrue && k ≠ .condFalse) = 0 ∧
      out.length = 2) ↔
    out.length = 2 ∧ (∃ e ∈ out, e.kind = some .condTrue) ∧ ∃ e ∈ out, e.kind = some .condFalse := by
  by_cases two : out.length = 2
  · obtain ⟨a, b, rfl⟩ := List.length_eq_two.mp two
    unfold WorkflowEdgeV3.kindOrAlways
    cases first : a.kind with
    | none => cases second : b.kind with
      | none => simp [first, second]
      | some k => cases k <;> simp [first, second]
    | some k => cases second : b.kind with
      | none => cases k <;> simp [first, second]
      | some l => cases k <;> cases l <;> simp [first, second]
  · constructor
    · exact fun counts => absurd counts.2.2.2 two
    · exact fun paired => absurd paired.1 two

theorem checkConditionEdges_none {entry : String × WorkflowNode} :
    checkConditionEdges dsl entry = none ↔ (entry.2.type = .condition →
      (dsl.outgoing entry.1).length = 2 ∧ (∃ e ∈ dsl.outgoing entry.1, e.kind = some .condTrue) ∧
        ∃ e ∈ dsl.outgoing entry.1, e.kind = some .condFalse) := by
  unfold checkConditionEdges
  by_cases condition : entry.2.type = .condition
  · rw [if_neg (not_not.mpr condition), ← paired_iff]
    simp only [ne_eq, condition, forall_const]
    split
    · next failed =>
      simp only [reduceCtorEq, false_iff]
      intro ⟨trueCount, falseCount, other, length⟩
      obtain wrong | wrong | wrong | wrong := failed
      · exact wrong trueCount
      · exact wrong falseCount
      · exact wrong other
      · exact wrong length
    · next passed =>
      simp only [not_or, not_not] at passed
      exact iff_of_true rfl passed
  · rw [if_pos condition]
    exact iff_of_true rfl fun is => absurd is condition

theorem checkConditionEdges_code {entry : String × WorkflowNode} {issue : ValidationIssue}
    (found : checkConditionEdges dsl entry = some issue) :
    issue.code = .conditionEdgeConstraints := by
  unfold checkConditionEdges at found
  split at found
  · cases found
  · simp only at found
    split at found
    · cases found
      rfl
    · cases found

/-- In a graph without cycles, a node has more nodes before it than those it depends on. -/
theorem exists_rank (closed : dsl.Closed) (acyclic : dsl.Meets .graphCycleDetected) :
    ∃ rank : String → Nat, ∀ e ∈ dsl.edges, rank e.from < rank e.to := by
  classical
  refine ⟨fun x => (dsl.nodeIds.toFinset.filter fun y => Relation.TransGen dsl.Edge y x).card,
    fun e mem => Finset.card_lt_card ?_⟩
  have edge : dsl.Edge e.from e.to := ⟨e, mem, rfl, rfl⟩
  refine Finset.ssubset_iff_of_subset (fun y before => ?_) |>.mpr ⟨e.from, ?_, fun before => ?_⟩
  · obtain ⟨listed, path⟩ := Finset.mem_filter.mp before
    exact Finset.mem_filter.mpr ⟨listed, path.tail edge⟩
  · exact Finset.mem_filter.mpr ⟨List.mem_toFinset.mpr (closed e mem).1, .single edge⟩
  · exact acyclic _ (Finset.mem_filter.mp before).2

theorem visitedCount_iff (closed : dsl.Closed) :
    visitedCount dsl = dsl.nodes.length ↔ dsl.Meets .graphCycleDetected := by
  constructor
  · intro count id cycle
    have listed : id ∈ dsl.nodeIds := by
      obtain ⟨_, ⟨e, mem, rfl, -⟩, -⟩ := Relation.TransGen.head'_iff.mp cycle
      exact (closed e mem).1
    have acc := acyclic_of_count closed count id listed
    induction acc with
    | intro x _ ih =>
      obtain ⟨y, path, edge⟩ := Relation.TransGen.tail'_iff.mp cycle
      have back : Relation.TransGen dsl.Edge y y := .head' edge path
      exact ih y (mem_sources_iff.mpr edge) back (by
        obtain ⟨_, ⟨e, mem, rfl, -⟩, -⟩ := Relation.TransGen.head'_iff.mp back
        exact (closed e mem).1)
  · intro acyclic
    obtain ⟨rank, ranked⟩ := exists_rank closed acyclic
    exact visitedCount_ranked closed ranked

theorem remoteOnBranch_some {join : String} {canReach : List String} {edge : WorkflowEdgeV3}
    {issue : ValidationIssue} (found : remoteOnBranch dsl join canReach edge = some issue) :
    ∃ id node, issue = remoteIssue id ∧ id ∈ computeReachableFrom dsl edge.to ∧ id ≠ join ∧
      id ∈ canReach ∧ dsl.node? id = some node ∧ isRemoteExecutionMode node = true := by
  obtain ⟨id, reached, found⟩ := List.exists_of_findSome?_eq_some found
  split at found
  · cases found
  · split at found
    · cases found
    · split at found
      · next different inside _ node here =>
        split at found
        · next remote =>
          cases found
          exact ⟨id, node, rfl, reached, different, not_not.mp inside, here, remote⟩
        · cases found
      · cases found

theorem checkParallelRegions_some {issue : ValidationIssue} (closed : dsl.Closed)
    (found : checkParallelRegions dsl = some issue) :
    issue.code = .parallelRemoteNotSupported ∧ ∃ id, dsl.RemoteInRegion id := by
  obtain ⟨join, joins, found⟩ := List.exists_of_findSome?_eq_some found
  obtain ⟨root, leads, found⟩ := List.exists_of_findSome?_eq_some found
  simp only at found
  split at found
  · cases found
  · next forks =>
    obtain ⟨branch, always, found⟩ := List.exists_of_findSome?_eq_some found
    obtain ⟨id, node, rfl, reached, different, back, here, remote⟩ := remoteOnBranch_some found
    obtain ⟨listed, type⟩ := List.mem_filter.mp joins
    have edge : branch ∈ dsl.edges := (List.mem_filter.mp (List.mem_filter.mp always).1).1
    refine ⟨rfl, id, join.1, root, branch, ⟨join, listed, rfl, by simpa using type⟩,
      ((mem_computeCanReach closed).mp leads).to_reflTransGen, Nat.le_of_not_lt forks, always,
      (mem_computeReachableFrom closed (closed _ edge).2).mp reached,
      ((mem_computeCanReach closed).mp back).to_reflTransGen, different, node, here, remote⟩

theorem checkParallelRegions_none (closed : dsl.Closed) (acyclic : dsl.Meets .graphCycleDetected)
    (none : checkParallelRegions dsl = none) : dsl.Meets .parallelRemoteNotSupported := by
  rintro id ⟨join, root, branch, ⟨entry, listed, rfl, type⟩, leads, forks, always, reached, back,
    different, node, here, remote⟩
  obtain ⟨outgoing, -⟩ := List.mem_filter.mp always
  obtain ⟨edge, source⟩ := List.mem_filter.mp outgoing
  have leads : Relation.TransGen dsl.Edge root entry.1 := by
    rcases Relation.reflTransGen_iff_eq_or_transGen.mp leads with rfl | leads
    · -- a branch of the join itself would lead back to it
      have first : dsl.Edge entry.1 branch.to := ⟨branch, edge, by simpa using source, rfl⟩
      exact absurd (Relation.TransGen.head' first (reached.trans back)) (acyclic _)
    · exact leads
  have joins := List.findSome?_eq_none_iff.mp none entry
    (List.mem_filter.mpr ⟨listed, by simpa using type⟩)
  have roots : (if (dsl.alwaysEdges root).length < 2 then Option.none
      else (dsl.alwaysEdges root).findSome?
        (remoteOnBranch dsl entry.1 (computeCanReach dsl entry.1))) = Option.none :=
    List.findSome?_eq_none_iff.mp joins root ((mem_computeCanReach closed).mpr leads)
  rw [if_neg (Nat.not_lt_of_le forks)] at roots
  have nodes := List.findSome?_eq_none_iff.mp (List.findSome?_eq_none_iff.mp roots branch always)
    id ((mem_computeReachableFrom closed (closed _ edge).2).mpr reached)
  have inside : id ∈ computeCanReach dsl entry.1 := by
    refine (mem_computeCanReach closed).mpr ?_
    exact (Relation.reflTransGen_iff_eq_or_transGen.mp back).resolve_left different.symm
  simp [different, inside, here, remote] at nodes

/-- Where a check fails, so does its condition; where all pass, all are met. -/
theorem validate_cases : (validateV3GraphConstraints dsl = none ∧ dsl.WellFormed) ∨
    ∃ issue, validateV3GraphConstraints dsl = some issue ∧ ¬ dsl.Meets issue.code := by
  unfold validateV3GraphConstraints
  split
  · next empty => exact .inr ⟨_, rfl, fun some_ => some_ (List.isEmpty_iff.mp empty)⟩
  · next filled =>
    split
    · next issue found =>
      refine .inr ⟨issue, rfl, ?_⟩
      rw [checkEdges_code found, ← checkEdges_none, found]
      exact fun none_ => by cases none_
    · next edges =>
      have valid := checkEdges_none.mp edges
      split
      · next issue found =>
        obtain ⟨entry, listed, failed⟩ := List.exists_of_findSome?_eq_some found
        refine .inr ⟨issue, rfl, ?_⟩
        rw [checkConditionEdges_code failed]
        intro meets
        rw [checkConditionEdges_none.mpr (meets entry listed)] at failed
        cases failed
      · next conditions =>
        split
        · next count => exact .inr ⟨_, rfl, fun acyclic =>
            count ((visitedCount_iff valid.2).mpr acyclic)⟩
        · next count =>
          have acyclic := (visitedCount_iff valid.2).mp (not_not.mp count)
          cases found : checkParallelRegions dsl with
          | some issue =>
            obtain ⟨code, id, region⟩ := checkParallelRegions_some valid.2 found
            refine .inr ⟨issue, rfl, ?_⟩
            rw [code]
            exact fun meets => meets id region
          | none =>
            refine .inl ⟨rfl, fun code => ?_⟩
            cases code with
            | graphNodeMissing => exact fun empty => filled (List.isEmpty_iff.mpr empty)
            | graphEdgeInvalid => exact valid
            | graphCycleDetected => exact acyclic
            | conditionEdgeConstraints =>
              exact fun entry listed => checkConditionEdges_none.mp
                (List.findSome?_eq_none_iff.mp conditions entry listed)
            | parallelRemoteNotSupported => exact checkParallelRegions_none valid.2 acyclic found

end graphs

/-- The validator accepts exactly the well-formed graphs, and the code it reports names a condition
that is not met. -/
theorem validate_correct (dsl : WorkflowDslV3) :
    (validateV3GraphConstraints dsl = none ↔ dsl.WellFormed) ∧
    ∀ issue, validateV3GraphConstraints dsl = some issue → ¬ dsl.Meets issue.code := by
  obtain ⟨accepted, wellFormed⟩ | ⟨issue, rejected, fails⟩ := @validate_cases dsl
  · rw [accepted]
    exact ⟨iff_of_true rfl wellFormed, fun issue rejected => by cases rejected⟩
  · rw [rejected]
    refine ⟨iff_of_false (fun accepted => by cases accepted) fun wellFormed =>
      fails (wellFormed _), fun other same => ?_⟩
    obtain rfl := Option.some.inj same
    exact fails

end Vespid.Workflow
