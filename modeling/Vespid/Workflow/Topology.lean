import Vespid.Lib.Readiness
import Vespid.Workflow.Validate

/-!
# Accepted graphs have no cycles

The validator counts the nodes it can take in topological order. What it has taken is an
order in the sense of `Readiness`, so a graph it accepts has all its nodes in one.
-/

namespace Vespid.Workflow

open Readiness

namespace WorkflowDslV3
variable (dsl : WorkflowDslV3)

/-- The nodes a node depends on. -/
def sources (key : String) : List String := (dsl.incoming key).map (·.from)

/-- The graph with every node open. -/
def dependencies : Net String where
  nodes := dsl.nodeIds
  needs := dsl.sources
  opens _ := True

/-- Every edge connects existing nodes. -/
def Closed : Prop := ∀ e ∈ dsl.edges, e.from ∈ dsl.nodeIds ∧ e.to ∈ dsl.nodeIds

/-- The number of edges into a node from nodes outside `done`. -/
def waiting (done : List String) (key : String) : Nat :=
  dsl.edges.countP fun e => e.to = key && !done.contains e.from

variable {dsl} {done : List String} {key : String}

theorem mem_sources {source : String} :
    source ∈ dsl.sources key ↔ ∃ e ∈ dsl.edges, e.to = key ∧ e.from = source := by
  simp [sources, incoming, and_assoc]

theorem waiting_eq_zero : dsl.waiting done key = 0 ↔ ∀ source ∈ dsl.sources key, source ∈ done := by
  unfold waiting
  rw [List.countP_eq_zero]
  constructor
  · intro none source mem
    obtain ⟨e, edge, target, rfl⟩ := mem_sources.mp mem
    have := none e edge
    simpa [target] using this
  · intro all e edge
    by_cases target : e.to = key
    · have := all e.from (mem_sources.mpr ⟨e, edge, target, rfl⟩)
      simp [this]
    · simp [target]

/-- Taking one more node releases its out-edges. -/
theorem waiting_append {id : String} (fresh : id ∉ done) (key : String) :
    dsl.waiting done key =
      dsl.waiting (done ++ [id]) key + (dsl.outgoing id).countP fun e => e.to = key := by
  unfold waiting outgoing
  rw [List.countP_filter]
  induction dsl.edges with
  | nil => rfl
  | cons e rest ih =>
    simp only [List.countP_cons, ih]
    by_cases source : e.from = id
    · by_cases target : e.to = key <;> simp [source, target, fresh]
      omega
    · by_cases target : e.to = key <;> simp [source, target]
      omega

end WorkflowDslV3

/-! ### The topological count -/

section count
variable {dsl : WorkflowDslV3}

theorem closed_of_checkEdges {edges : List WorkflowEdgeV3} {nodeIds edgeIds : List String}
    (ok : checkEdges nodeIds edgeIds edges = none) :
    ∀ e ∈ edges, e.from ∈ nodeIds ∧ e.to ∈ nodeIds := by
  induction edges generalizing edgeIds with
  | nil =>
    intro e mem
    cases mem
  | cons edge rest ih =>
    unfold checkEdges at ok
    split at ok
    · cases ok
    · split at ok
      · cases ok
      · rename_i connected
        intro e mem
        rcases List.mem_cons.mp mem with rfl | later
        · exact not_not.mp connected
        · exact ih ok e later

/-- Counting the edges of a list into each node. -/
theorem lookup_foldl_count (edges : List WorkflowEdgeV3) (deg : InDegree) (key : String) :
    ((edges.foldl (fun deg edge =>
        OrderedMap.set deg edge.to ((deg.lookup edge.to).getD 0 + 1)) deg).lookup key).getD 0 =
      (deg.lookup key).getD 0 + (edges.countP fun e => e.to = key) := by
  induction edges generalizing deg with
  | nil => simp
  | cons edge rest ih =>
    rw [List.foldl_cons, ih, OrderedMap.lookup_set, List.countP_cons]
    by_cases same : key = edge.to
    · subst same
      simp
      omega
    · have other : ¬edge.to = key := fun h => same h.symm
      simp [same, other]

theorem keys_foldl_count (edges : List WorkflowEdgeV3) (deg : InDegree)
    (present : ∀ e ∈ edges, e.to ∈ deg.map Prod.fst) :
    (edges.foldl (fun deg edge =>
      OrderedMap.set deg edge.to ((deg.lookup edge.to).getD 0 + 1)) deg).map Prod.fst =
        deg.map Prod.fst := by
  induction edges generalizing deg with
  | nil => rfl
  | cons edge rest ih =>
    have keys := OrderedMap.keys_set_of_mem ((deg.lookup edge.to).getD 0 + 1)
      (present edge List.mem_cons_self)
    rw [List.foldl_cons, ih, keys]
    intro e mem
    rw [keys]
    exact present e (List.mem_cons_of_mem _ mem)

theorem lookup_zeros (nodeIds : List String) (key : String) :
    (((nodeIds.map fun id => (id, (0 : Int))).lookup key).getD 0) = 0 := by
  induction nodeIds with
  | nil => rfl
  | cons id rest ih =>
    rw [List.map_cons, List.lookup_cons]
    cases key == id with
    | true => rfl
    | false => exact ih

/-- What holds before a node is taken from the queue. -/
structure Kahn (dsl : WorkflowDslV3) (done queue : List String) (deg : InDegree) : Prop where
  worked : Worked dsl.dependencies done
  counts : ∀ key, (deg.lookup key).getD 0 = dsl.waiting done key
  distinct : (done ++ queue).Nodup
  listed : ∀ id ∈ queue, id ∈ dsl.nodeIds
  free : ∀ id ∈ queue, dsl.waiting done id = 0

/-- What holds while the out-edges of the node just taken are relaxed; `left` are still to come. -/
structure Relaxing (dsl : WorkflowDslV3) (done queue : List String) (deg : InDegree)
    (left : List WorkflowEdgeV3) : Prop where
  counts : ∀ key, (deg.lookup key).getD 0 = dsl.waiting done key + left.countP (·.to = key)
  distinct : (done ++ queue).Nodup
  listed : ∀ id ∈ queue, id ∈ dsl.nodeIds
  free : ∀ id ∈ queue, dsl.waiting done id + left.countP (·.to = id) = 0

theorem Relaxing.edge {done queue : List String} {deg : InDegree} {edge : WorkflowEdgeV3}
    {left : List WorkflowEdgeV3} (relaxing : Relaxing dsl done queue deg (edge :: left))
    (target : edge.to ∈ dsl.nodeIds) (fresh : edge.to ∉ done) :
    Relaxing dsl done (relaxEdge (deg, queue) edge).2 (relaxEdge (deg, queue) edge).1 left := by
  have count := relaxing.counts edge.to
  simp only [List.countP_cons, decide_true, if_true] at count
  have counts (key : String) : ((relaxEdge (deg, queue) edge).1.lookup key).getD 0 =
      dsl.waiting done key + left.countP (·.to = key) := by
    rw [relaxEdge, OrderedMap.lookup_set]
    by_cases same : key = edge.to
    · subst same
      simp only [if_true, Option.getD_some]
      omega
    · have other : ¬edge.to = key := fun h => same h.symm
      simpa [same, other, List.countP_cons] using relaxing.counts key
  have free : ∀ id ∈ queue, dsl.waiting done id + left.countP (·.to = id) = 0 := by
    intro id mem
    have := relaxing.free id mem
    rw [List.countP_cons] at this
    omega
  have notQueued : edge.to ∉ queue := by
    intro mem
    have := relaxing.free edge.to mem
    simp at this
  by_cases zero : (deg.lookup edge.to).getD 0 - 1 = 0
  · have queued : (relaxEdge (deg, queue) edge).2 = queue ++ [edge.to] := by
      simp [relaxEdge, zero]
    rw [queued]
    refine ⟨counts, ?_, ?_, ?_⟩
    · rw [← List.append_assoc]
      exact List.Nodup.append relaxing.distinct (List.nodup_singleton _)
        (by simp [fresh, notQueued])
    · intro id mem
      rcases List.mem_append.mp mem with old | new
      · exact relaxing.listed id old
      · rw [List.mem_singleton.mp new]
        exact target
    · intro id mem
      rcases List.mem_append.mp mem with old | new
      · exact free id old
      · rw [List.mem_singleton.mp new]
        omega
  · have queued : (relaxEdge (deg, queue) edge).2 = queue := by
      simp [relaxEdge, zero]
    rw [queued]
    exact ⟨counts, relaxing.distinct, relaxing.listed, free⟩

theorem Relaxing.all {done queue : List String} {deg : InDegree} {left : List WorkflowEdgeV3}
    (relaxing : Relaxing dsl done queue deg left) (targets : ∀ e ∈ left, e.to ∈ dsl.nodeIds)
    (fresh : ∀ e ∈ left, e.to ∉ done) :
    Relaxing dsl done (left.foldl relaxEdge (deg, queue)).2
      (left.foldl relaxEdge (deg, queue)).1 [] := by
  induction left generalizing deg queue with
  | nil => exact relaxing
  | cons edge left ih =>
    have one := relaxing.edge (targets edge List.mem_cons_self) (fresh edge List.mem_cons_self)
    exact ih one (fun e mem => targets e (List.mem_cons_of_mem _ mem))
      fun e mem => fresh e (List.mem_cons_of_mem _ mem)

theorem Kahn.relaxing {done queue : List String} {id : String} {deg : InDegree}
    (kahn : Kahn dsl done (id :: queue) deg) :
    id ∉ done ∧ Relaxing dsl (done ++ [id]) queue deg (dsl.outgoing id) := by
  have fresh : id ∉ done := by
    have := List.nodup_append.mp kahn.distinct
    intro mem
    exact this.2.2 id mem id List.mem_cons_self rfl
  refine ⟨fresh, fun key => ?_, by simpa using kahn.distinct, fun i mem => ?_, fun i mem => ?_⟩
  · rw [kahn.counts key, WorkflowDslV3.waiting_append fresh key]
    push_cast
    rfl
  · exact kahn.listed i (List.mem_cons_of_mem _ mem)
  · rw [← WorkflowDslV3.waiting_append fresh i]
    exact kahn.free i (List.mem_cons_of_mem _ mem)

/-- No edge leads from a node that is taken back to it or to one taken before. -/
theorem Kahn.forward {done queue : List String} {id : String} {deg : InDegree}
    (kahn : Kahn dsl done (id :: queue) deg) :
    ∀ e ∈ dsl.outgoing id, e ∈ dsl.edges ∧ e.to ∉ done ++ [id] := by
  intro e mem
  obtain ⟨fresh, -⟩ := kahn.relaxing
  obtain ⟨edge, source⟩ : e ∈ dsl.edges ∧ e.from = id := by
    simpa [WorkflowDslV3.outgoing] using mem
  refine ⟨edge, fun taken => ?_⟩
  have before : id ∈ dsl.sources e.to := WorkflowDslV3.mem_sources.mpr ⟨e, edge, rfl, source⟩
  rcases List.mem_append.mp taken with old | new
  · exact fresh (kahn.worked.needs_mem old id before)
  · rw [List.mem_singleton.mp new] at before
    exact fresh (WorkflowDslV3.waiting_eq_zero.mp (kahn.free id List.mem_cons_self) id before)

/-- Taking the first node of the queue. -/
theorem Kahn.visit {done queue : List String} {id : String} {deg : InDegree}
    (closed : dsl.Closed) (kahn : Kahn dsl done (id :: queue) deg) :
    Kahn dsl (done ++ [id]) ((dsl.outgoing id).foldl relaxEdge (deg, queue)).2
      ((dsl.outgoing id).foldl relaxEdge (deg, queue)).1 := by
  obtain ⟨fresh, start⟩ := kahn.relaxing
  have forward := kahn.forward
  have needs := WorkflowDslV3.waiting_eq_zero.mp (kahn.free id List.mem_cons_self)
  have worked : Worked dsl.dependencies (done ++ [id]) :=
    kahn.worked.snoc (kahn.listed id List.mem_cons_self) trivial fresh needs
  have relaxed := start.all (fun e mem => (closed e (forward e mem).1).2) fun e mem =>
    (forward e mem).2
  refine ⟨worked, fun key => ?_, relaxed.distinct, relaxed.listed, fun i mem => ?_⟩
  · simpa using relaxed.counts key
  · simpa using relaxed.free i mem

theorem Kahn.visits (closed : dsl.Closed) (fuel : Nat) {done queue : List String}
    {deg : InDegree} (kahn : Kahn dsl done queue deg) :
    ∃ rest, Worked dsl.dependencies (done ++ rest) ∧
      visitAll dsl fuel deg queue = rest.length := by
  induction fuel generalizing done queue deg with
  | zero => exact ⟨[], by simpa using kahn.worked, rfl⟩
  | succ fuel ih =>
    cases queue with
    | nil => exact ⟨[], by simpa using kahn.worked, rfl⟩
    | cons id queue =>
      obtain ⟨rest, worked, count⟩ := ih (kahn.visit closed)
      refine ⟨id :: rest, by simpa using worked, ?_⟩
      rw [visitAll, count, List.length_cons]

theorem keys_initialInDegree (closed : dsl.Closed) :
    (initialInDegree dsl).map Prod.fst = dsl.nodeIds := by
  have zeros : (dsl.nodeIds.map fun id => (id, (0 : Int))).map Prod.fst = dsl.nodeIds := by
    rw [List.map_map]
    exact List.map_id _
  rw [initialInDegree, keys_foldl_count, zeros]
  intro e mem
  rw [zeros]
  exact (closed e mem).2

theorem kahn_initial (closed : dsl.Closed) :
    Kahn dsl [] (initialQueue (initialInDegree dsl)) (initialInDegree dsl) := by
  have counts (key : String) : ((initialInDegree dsl).lookup key).getD 0 = dsl.waiting [] key := by
    rw [initialInDegree, lookup_foldl_count, lookup_zeros]
    simp [WorkflowDslV3.waiting]
  have keys := keys_initialInDegree closed
  have distinct : ((initialInDegree dsl).map Prod.fst).Nodup := by
    rw [keys]
    exact dsl.keysDistinct
  have queued (id : String) (mem : id ∈ initialQueue (initialInDegree dsl)) :
      (id, (0 : Int)) ∈ initialInDegree dsl := by
    obtain ⟨⟨key, count⟩, entry, rfl⟩ := List.mem_map.mp mem
    have zero := List.mem_filter.mp entry
    simp only [decide_eq_true_eq] at zero
    rw [← zero.2]
    exact zero.1
  refine ⟨.nil, counts, ?_, fun id mem => ?_, fun id mem => ?_⟩
  · exact (List.filter_sublist.map Prod.fst).nodup distinct
  · rw [← keys]
    exact List.mem_map_of_mem (queued id mem)
  · have count := counts id
    rw [OrderedMap.lookup_of_mem distinct (queued id mem)] at count
    simpa using count.symm

/-! ### Graphs without cycles are taken whole -/

variable {done queue : List String} {deg : InDegree} {edge : WorkflowEdgeV3}
  {left : List WorkflowEdgeV3}

/-- Every node that waits for nothing more has been queued. -/
def Drained (dsl : WorkflowDslV3) (done queue : List String) (left : List WorkflowEdgeV3) : Prop :=
  ∀ key ∈ dsl.nodeIds, dsl.waiting done key + left.countP (·.to = key) = 0 → key ∈ done ++ queue

theorem Drained.relax (drained : Drained dsl done queue (edge :: left))
    (relaxing : Relaxing dsl done queue deg (edge :: left)) :
    Drained dsl done (relaxEdge (deg, queue) edge).2 left := by
  intro key listed zero
  by_cases same : edge.to = key
  · subst same
    have count := relaxing.counts edge.to
    simp only [List.countP_cons, decide_true, if_true] at count
    have queued : (relaxEdge (deg, queue) edge).2 = queue ++ [edge.to] := by
      have released : (deg.lookup edge.to).getD 0 - 1 = 0 := by omega
      simp [relaxEdge, released]
    rw [queued]
    simp
  · have before : dsl.waiting done key + (edge :: left).countP (·.to = key) = 0 := by
      rw [List.countP_cons]
      simpa [same] using zero
    have mem := drained key listed before
    unfold relaxEdge
    dsimp only
    split
    · rw [← List.append_assoc]
      exact List.mem_append_left _ mem
    · exact mem

theorem Drained.all (drained : Drained dsl done queue left)
    (relaxing : Relaxing dsl done queue deg left) (targets : ∀ e ∈ left, e.to ∈ dsl.nodeIds)
    (fresh : ∀ e ∈ left, e.to ∉ done) :
    Drained dsl done (left.foldl relaxEdge (deg, queue)).2 [] := by
  induction left generalizing deg queue with
  | nil => exact drained
  | cons edge left ih =>
    have one := relaxing.edge (targets edge List.mem_cons_self) (fresh edge List.mem_cons_self)
    exact ih (drained.relax relaxing) one (fun e mem => targets e (List.mem_cons_of_mem _ mem))
      fun e mem => fresh e (List.mem_cons_of_mem _ mem)

theorem Drained.visit {id : String} (closed : dsl.Closed) (kahn : Kahn dsl done (id :: queue) deg)
    (drained : Drained dsl done (id :: queue) []) :
    Drained dsl (done ++ [id]) ((dsl.outgoing id).foldl relaxEdge (deg, queue)).2 [] := by
  obtain ⟨fresh, relaxing⟩ := kahn.relaxing
  have forward := kahn.forward
  have start : Drained dsl (done ++ [id]) queue (dsl.outgoing id) := by
    intro key listed zero
    rw [← WorkflowDslV3.waiting_append fresh key] at zero
    simpa using drained key listed (by simpa using zero)
  exact start.all relaxing (fun e mem => (closed e (forward e mem).1).2) fun e mem =>
    (forward e mem).2

theorem Kahn.length_le (kahn : Kahn dsl done queue deg) : done.length ≤ dsl.nodes.length := by
  have few := kahn.worked.length_le
  simpa [WorkflowDslV3.dependencies, WorkflowDslV3.nodeIds] using few

/-- Where edges go up in a rank, all nodes are taken. -/
theorem visitAll_ranked {rank : String → Nat} (closed : dsl.Closed)
    (ranked : ∀ e ∈ dsl.edges, rank e.from < rank e.to) (fuel : Nat)
    (kahn : Kahn dsl done queue deg) (drained : Drained dsl done queue [])
    (enough : dsl.nodes.length ≤ fuel + done.length) :
    visitAll dsl fuel deg queue + done.length = dsl.nodes.length := by
  have few := kahn.length_le
  induction fuel generalizing done queue deg with
  | zero =>
    unfold visitAll
    omega
  | succ fuel ih =>
    cases queue with
    | nil =>
      have all (r : Nat) : ∀ key ∈ dsl.nodeIds, rank key = r → key ∈ done := by
        induction r using Nat.strong_induction_on with
        | _ r below =>
          intro key listed same
          have needs : ∀ source ∈ dsl.sources key, source ∈ done := by
            intro source mem
            obtain ⟨e, edge, rfl, rfl⟩ := WorkflowDslV3.mem_sources.mp mem
            exact below _ (same ▸ ranked e edge) _ (closed e edge).1 rfl
          have free := WorkflowDslV3.waiting_eq_zero.mpr needs
          simpa using drained key listed (by simpa using free)
      have subset : dsl.nodeIds ⊆ done := fun key listed => all _ key listed rfl
      have most := (dsl.keysDistinct.subperm subset).length_le
      rw [List.length_map] at most
      unfold visitAll
      omega
    | cons id queue =>
      have next := kahn.visit closed
      have more : (done ++ [id]).length = done.length + 1 := by simp
      have taken := ih next (drained.visit closed kahn) (by omega) (next.length_le)
      rw [more] at taken
      rw [visitAll]
      omega

theorem visitedCount_ranked {rank : String → Nat} (closed : dsl.Closed)
    (ranked : ∀ e ∈ dsl.edges, rank e.from < rank e.to) :
    visitedCount dsl = dsl.nodes.length := by
  have drained : Drained dsl [] (initialQueue (initialInDegree dsl)) [] := by
    intro key listed zero
    have count := (kahn_initial closed).counts key
    have present : key ∈ (initialInDegree dsl).map Prod.fst := by
      rw [keys_initialInDegree closed]
      exact listed
    obtain ⟨⟨key', deg⟩, entry, rfl⟩ := List.mem_map.mp present
    rw [OrderedMap.lookup_of_mem (by rw [keys_initialInDegree closed]; exact dsl.keysDistinct) entry]
      at count
    have none : deg = 0 := by simpa [show dsl.waiting [] key' = 0 by simpa using zero] using count
    subst none
    simp only [List.nil_append, initialQueue]
    exact List.mem_map.mpr ⟨_, List.mem_filter.mpr ⟨entry, by simp⟩, rfl⟩
  have taken := visitAll_ranked closed ranked dsl.nodes.length (kahn_initial closed) drained
    (Nat.le_add_right ..)
  simpa [visitedCount] using taken

end count

theorem checkEdges_eq_none {nodeIds edgeIds : List String} {edges : List WorkflowEdgeV3} :
    checkEdges nodeIds edgeIds edges = none ↔ (edges.map (·.id)).Nodup ∧
      (∀ e ∈ edges, e.id ∉ edgeIds) ∧ ∀ e ∈ edges, e.from ∈ nodeIds ∧ e.to ∈ nodeIds := by
  induction edges generalizing edgeIds with
  | nil => simp [checkEdges]
  | cons edge rest ih =>
    unfold checkEdges
    by_cases seen : edge.id ∈ edgeIds
    · simp [seen]
    · by_cases connected : edge.from ∈ nodeIds ∧ edge.to ∈ nodeIds
      · rw [if_neg seen, if_neg (not_not.mpr connected), ih, List.forall_mem_cons,
          List.forall_mem_cons]
        simp only [List.map_cons, List.nodup_cons, List.mem_cons, not_or, List.mem_map, not_exists,
          not_and]
        constructor
        · rintro ⟨distinct, apart, closed⟩
          exact ⟨⟨fun e mem => (apart e mem).1, distinct⟩,
            ⟨seen, fun e mem => (apart e mem).2⟩, connected, closed⟩
        · rintro ⟨⟨other, distinct⟩, ⟨-, apart⟩, -, closed⟩
          exact ⟨distinct, fun e mem => ⟨other e mem, apart e mem⟩, closed⟩
      · simp [seen, connected]

/-! ### Acceptance -/

variable {dsl : WorkflowDslV3}

theorem validate_none (ok : validateV3GraphConstraints dsl = none) :
    dsl.Closed ∧ visitedCount dsl = dsl.nodes.length := by
  unfold validateV3GraphConstraints at ok
  split at ok
  · cases ok
  · split at ok
    · cases ok
    · rename_i edges
      split at ok
      · cases ok
      · split at ok
        · cases ok
        · rename_i count
          exact ⟨closed_of_checkEdges edges, not_not.mp count⟩

/-- Where all nodes are taken, there is no cycle. -/
theorem acyclic_of_count (closed : dsl.Closed) (count : visitedCount dsl = dsl.nodes.length) :
    ∀ key ∈ dsl.nodeIds, Acc (fun source key => source ∈ dsl.sources key) key := by
  obtain ⟨taken, worked, length⟩ := (kahn_initial closed).visits closed dsl.nodes.length
  rw [List.nil_append] at worked
  have all : taken.Perm dsl.nodeIds := by
    have subset : ∀ id ∈ taken, id ∈ dsl.nodeIds := fun id mem => worked.listed mem
    refine (worked.nodup.subperm subset).perm_of_length_le ?_
    have : visitedCount dsl = taken.length := length
    simp only [WorkflowDslV3.nodeIds, List.length_map]
    omega
  intro key mem
  exact worked.acc (all.mem_iff.mpr mem)

/-- An accepted graph has all its nodes in one order. -/
theorem acyclic_of_accepted (ok : validateV3GraphConstraints dsl = none) :
    ∀ key ∈ dsl.nodeIds, Acc (fun source key => source ∈ dsl.sources key) key := by
  obtain ⟨closed, count⟩ := validate_none ok
  exact acyclic_of_count closed count

end Vespid.Workflow
