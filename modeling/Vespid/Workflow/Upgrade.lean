import Vespid.Workflow.Topology
import Mathlib.Data.List.Sort

/-!
# Upgrading a v2 list to a v3 graph

`upgradeV2ToV3` puts the nodes of a list under their ids and connects each to the next one.
-/

namespace Vespid.Workflow

/-- The node under which the upgrade keeps a node. -/
def upgradeNode : WorkflowNode → WorkflowNode
  | .connectorGithubIssueCreate id config => .connectorAction id
      { connectorId := "github", actionId := "issue.create"
        input := some (.obj ([("repo", .str config.repo), ("title", .str config.title)] ++
          (config.body.filter (· ≠ "")).elim [] fun body => [("body", .str body)]))
        secretId := config.secretId, execution := none }
  | node => node

/-- `nodes[node.id] = node`; under `__proto__`, the record gets a prototype and no entry. -/
def setNode (nodes : List (String × WorkflowNode)) (node : WorkflowNode) :
    List (String × WorkflowNode) :=
  if node.id = "__proto__" then nodes else OrderedMap.set nodes node.id (upgradeNode node)

/-- The entries of an object in the order of its keys: array indices come first, by size. -/
def ownEntries (entries : List (String × WorkflowNode)) : List (String × WorkflowNode) :=
  let index (entry : String × WorkflowNode) := JsValue.arrayIndex? entry.1
  (entries.filter fun entry => (index entry).isSome).insertionSort
    (fun a b => (index a).getD 0 ≤ (index b).getD 0) ++
    entries.filter fun entry => !(index entry).isSome

def upgradeEdge («from» «to» : String) : WorkflowEdgeV3 :=
  { id := "e:" ++ «from» ++ "->" ++ «to», «from», «to», kind := some .always }

/-- The edges from each node to the next. -/
def upgradeEdges : List String → List WorkflowEdgeV3
  | a :: b :: rest =>
    if a = "" ∨ b = "" then upgradeEdges (b :: rest)
    else upgradeEdge a b :: upgradeEdges (b :: rest)
  | _ => []

theorem ownEntries_perm (entries : List (String × WorkflowNode)) :
    (ownEntries entries).Perm entries :=
  ((List.perm_insertionSort _ _).append_right _).trans (List.filter_append_perm _ _)

theorem setNode_nodup {nodes : List (String × WorkflowNode)} (distinct : (nodes.map Prod.fst).Nodup)
    (node : WorkflowNode) : ((setNode nodes node).map Prod.fst).Nodup := by
  unfold setNode
  split
  · exact distinct
  · exact OrderedMap.nodup_keys_set distinct ..

theorem foldl_setNode_nodup (nodes : List WorkflowNode) {acc : List (String × WorkflowNode)}
    (distinct : (acc.map Prod.fst).Nodup) : ((nodes.foldl setNode acc).map Prod.fst).Nodup := by
  induction nodes generalizing acc with
  | nil => exact distinct
  | cons node nodes ih => exact ih (setNode_nodup distinct node)

def upgradeV2ToV3 (dsl : WorkflowDsl) : WorkflowDslV3 where
  trigger := dsl.trigger
  nodes := ownEntries (dsl.nodes.foldl setNode [])
  edges := upgradeEdges (dsl.nodes.map (·.id))
  keysDistinct :=
    ((ownEntries_perm _).map Prod.fst).nodup_iff.mpr (foldl_setNode_nodup _ List.nodup_nil)

/-- Where a list becomes a chain: ids that are keys and edge ids, each of them once. -/
structure Chainable (dsl : WorkflowDsl) : Prop where
  ids : (dsl.nodes.map (·.id)).Nodup
  keys : ∀ node ∈ dsl.nodes, node.id ≠ "__proto__" ∧ jsLength node.id ≤ 120
  edgeIds : ((upgradeEdges (dsl.nodes.map (·.id))).map (·.id)).Nodup
  edgeLengths : ∀ e ∈ upgradeEdges (dsl.nodes.map (·.id)), jsLength e.id ≤ 120
  unconditional : ∀ node ∈ dsl.nodes, node.type ≠ .condition

/-! ### The record of nodes -/

section record
variable {nodes : List WorkflowNode} {acc : List (String × WorkflowNode)}

/-- Ids that are new and no `__proto__` are written one after the other. -/
theorem foldl_setNode (distinct : (acc.map Prod.fst ++ nodes.map (·.id)).Nodup)
    (named : ∀ node ∈ nodes, node.id ≠ "__proto__") :
    nodes.foldl setNode acc = acc ++ nodes.map fun node => (node.id, upgradeNode node) := by
  induction nodes generalizing acc with
  | nil => simp
  | cons node nodes ih =>
    have fresh : node.id ∉ acc.map Prod.fst := by
      intro mem
      exact (List.nodup_append.mp distinct).2.2 _ mem _ List.mem_cons_self rfl
    have written : setNode acc node = acc ++ [(node.id, upgradeNode node)] := by
      rw [setNode, if_neg (named node List.mem_cons_self), OrderedMap.set_of_not_mem _ fresh]
    have still : ((acc ++ [(node.id, upgradeNode node)]).map Prod.fst ++ nodes.map (·.id)).Nodup := by
      simpa using distinct
    rw [List.foldl_cons, written, ih still fun n mem => named n (List.mem_cons_of_mem _ mem)]
    simp

theorem length_setNode_le (node : WorkflowNode) : (setNode acc node).length ≤ acc.length + 1 := by
  unfold setNode
  split
  · omega
  · by_cases present : node.id ∈ acc.map Prod.fst
    · have same := congrArg List.length (OrderedMap.keys_set_of_mem (upgradeNode node) present)
      simp only [List.length_map] at same
      omega
    · simp [OrderedMap.set_of_not_mem _ present]

theorem length_foldl_setNode_le :
    (nodes.foldl setNode acc).length ≤ acc.length + nodes.length := by
  induction nodes generalizing acc with
  | nil => simp
  | cons node nodes ih =>
    have step := @length_setNode_le acc node
    have rest := @ih (setNode acc node)
    rw [List.foldl_cons, List.length_cons]
    omega

/-- Where every node gets an entry of its own, no id occurs twice or is `__proto__`. -/
theorem distinct_of_length
    (all : (nodes.foldl setNode acc).length = acc.length + nodes.length) :
    (nodes.map (·.id)).Nodup ∧
      ∀ node ∈ nodes, node.id ≠ "__proto__" ∧ node.id ∉ acc.map Prod.fst := by
  induction nodes generalizing acc with
  | nil => simp
  | cons node nodes ih =>
    rw [List.foldl_cons, List.length_cons] at all
    have bound := @length_foldl_setNode_le nodes (setNode acc node)
    have grows : (setNode acc node).length = acc.length + 1 := by
      have step := @length_setNode_le acc node
      omega
    have named : node.id ≠ "__proto__" := by
      intro same
      rw [setNode, if_pos same] at grows
      omega
    have fresh : node.id ∉ acc.map Prod.fst := by
      intro present
      have same := congrArg List.length (OrderedMap.keys_set_of_mem (upgradeNode node) present)
      rw [setNode, if_neg named] at grows
      simp only [List.length_map] at same
      omega
    obtain ⟨distinct, apart⟩ := @ih (setNode acc node) (by omega)
    rw [setNode, if_neg named, OrderedMap.set_of_not_mem _ fresh] at apart
    simp only [List.map_append, List.map_cons, List.map_nil, List.mem_append,
      List.mem_singleton, not_or] at apart
    refine ⟨?_, fun n mem => ?_⟩
    · rw [List.map_cons, List.nodup_cons]
      refine ⟨fun mem => ?_, distinct⟩
      obtain ⟨n, listed, same⟩ := List.mem_map.mp mem
      exact (apart n listed).2.2 same
    · rcases List.mem_cons.mp mem with rfl | later
      · exact ⟨named, fresh⟩
      · exact ⟨(apart n later).1, (apart n later).2.1⟩

end record

/-! ### The chain of edges -/

section chain
variable {ids : List String} {e : WorkflowEdgeV3}

/-- An edge leads from some node to the next one. -/
theorem mem_upgradeEdges (mem : e ∈ upgradeEdges ids) :
    e = upgradeEdge e.from e.to ∧ ∃ i, ids[i]? = some e.from ∧ ids[i + 1]? = some e.to := by
  fun_induction upgradeEdges ids with
  | case1 a b rest blank ih =>
    obtain ⟨same, i, source, target⟩ := ih mem
    exact ⟨same, i + 1, source, target⟩
  | case2 a b rest named ih =>
    rcases List.mem_cons.mp mem with rfl | later
    · exact ⟨rfl, 0, rfl, rfl⟩
    · obtain ⟨same, i, source, target⟩ := ih later
      exact ⟨same, i + 1, source, target⟩
  | case3 ids short => cases mem

theorem sources_sublist : ((upgradeEdges ids).map (·.from)).Sublist ids := by
  fun_induction upgradeEdges ids with
  | case1 a b rest blank ih => exact ih.cons a
  | case2 a b rest named ih => exact ih.cons_cons a
  | case3 ids short => exact List.nil_sublist _

/-- Every node but the last has its edge. -/
theorem upgradeEdges_get {i : Nat} {a b : String} (named : "" ∉ ids) (here : ids[i]? = some a)
    (next : ids[i + 1]? = some b) : upgradeEdge a b ∈ upgradeEdges ids := by
  fun_induction upgradeEdges ids generalizing i with
  | case1 a' b' rest blank ih =>
    rcases blank with rfl | rfl <;> simp at named
  | case2 a' b' rest _ ih =>
    cases i with
    | zero =>
      obtain rfl := Option.some.inj here
      obtain rfl := Option.some.inj next
      exact List.mem_cons_self
    | succ i =>
      have later : "" ∉ b' :: rest := fun mem => named (List.mem_cons_of_mem _ mem)
      exact List.mem_cons_of_mem _ (ih later here next)
  | case3 ids short =>
    match ids, short with
    | [], _ => cases here
    | [_], _ => simp at next
    | a' :: b' :: rest, short => exact (short a' b' rest rfl).elim

end chain

/-! ### Acceptance -/

theorem jsLength_append (s t : String) : jsLength (s ++ t) = jsLength s + jsLength t := by
  simp [jsLength]

theorem jsLength_upgradeEdge («from» «to» : String) :
    jsLength (upgradeEdge «from» «to»).id = jsLength «from» + jsLength «to» + 4 := by
  have texts : (upgradeEdge «from» «to»).id = "e:" ++ «from» ++ "->" ++ «to» := rfl
  have one : jsLength "e:" = 2 := by decide
  have two : jsLength "->" = 2 := by decide
  rw [texts, jsLength_append, jsLength_append, jsLength_append, one, two]
  omega

theorem upgradeNode_unconditional {node : WorkflowNode} (plain : node.type ≠ .condition) :
    (upgradeNode node).type ≠ .condition := by
  cases node with
  | connectorGithubIssueCreate => exact fun same => nomatch same
  | _ => exact plain

section accepted
variable {dsl : WorkflowDsl}

theorem nodes_perm (chainable : Chainable dsl) : (upgradeV2ToV3 dsl).nodes.Perm
    (dsl.nodes.map fun node => (node.id, upgradeNode node)) := by
  have written := @foldl_setNode dsl.nodes [] (by simpa using chainable.ids) fun node mem =>
    (chainable.keys node mem).1
  rw [List.nil_append] at written
  exact written ▸ ownEntries_perm _

theorem mem_nodeIds (chainable : Chainable dsl) {id : String} :
    id ∈ (upgradeV2ToV3 dsl).nodeIds ↔ id ∈ dsl.nodes.map (·.id) := by
  rw [WorkflowDslV3.nodeIds, ((nodes_perm chainable).map Prod.fst).mem_iff, List.map_map]
  rfl

theorem nonempty_ids (schema : workflowDslSchema dsl) : "" ∉ dsl.nodes.map (·.id) := by
  intro mem
  obtain ⟨node, listed, same⟩ := List.mem_map.mp mem
  simp only [workflowDslSchema, Bool.and_eq_true, List.all_eq_true] at schema
  have valid := schema.2 node listed
  simp only [workflowNodeSchema, Bool.and_eq_true] at valid
  rw [same] at valid
  exact absurd valid.1 (by decide)

theorem upgradeNode_schema {node : WorkflowNode} (valid : workflowNodeSchema node) :
    workflowNodeSchema (upgradeNode node) := by
  cases node with
  | connectorGithubIssueCreate id config =>
    simp only [workflowNodeSchema, githubIssueCreateConfigSchema, Bool.and_eq_true] at valid
    simp only [upgradeNode, workflowNodeSchema, WorkflowNode.id, connectorActionConfigSchema,
      Bool.and_eq_true]
    exact ⟨valid.1, ⟨⟨by decide, by decide⟩, valid.2.2⟩, rfl⟩
  | _ => exact valid

/-- A node of the upgraded graph has at most one edge out of it. -/
theorem outgoing_length (chainable : Chainable dsl) (id : String) :
    ((upgradeV2ToV3 dsl).outgoing id).length ≤ 1 := by
  have distinct := sources_sublist.nodup chainable.ids
  have once := List.nodup_iff_count_le_one.mp distinct id
  rw [List.count, List.countP_map, List.countP_eq_length_filter] at once
  exact once

theorem upgrade_closed (chainable : Chainable dsl) : (upgradeV2ToV3 dsl).Closed := by
  intro e mem
  obtain ⟨-, i, source, target⟩ := mem_upgradeEdges mem
  exact ⟨(mem_nodeIds chainable).mpr (List.mem_of_getElem? source),
    (mem_nodeIds chainable).mpr (List.mem_of_getElem? target)⟩

/-- Edges go up in the order of the list. -/
theorem upgrade_ranked (chainable : Chainable dsl) : ∀ e ∈ (upgradeV2ToV3 dsl).edges,
    (dsl.nodes.map (·.id)).idxOf e.from < (dsl.nodes.map (·.id)).idxOf e.to := by
  intro e mem
  obtain ⟨-, i, source, target⟩ := mem_upgradeEdges mem
  obtain ⟨short, source⟩ := List.getElem?_eq_some_iff.mp source
  obtain ⟨short', target⟩ := List.getElem?_eq_some_iff.mp target
  rw [← source, ← target, chainable.ids.idxOf_getElem, chainable.ids.idxOf_getElem]
  omega

theorem accepted_of_chainable (schema : workflowDslSchema dsl) (chainable : Chainable dsl) :
    acceptedV3 (upgradeV2ToV3 dsl) := by
  have perm := nodes_perm chainable
  have count := @visitedCount_ranked _ (fun id => (dsl.nodes.map (·.id)).idxOf id)
    (upgrade_closed chainable) (upgrade_ranked chainable)
  have named := nonempty_ids schema
  simp only [workflowDslSchema, Bool.and_eq_true, List.all_eq_true] at schema
  have entry {entry : String × WorkflowNode} (mem : entry ∈ (upgradeV2ToV3 dsl).nodes) :
      ∃ node ∈ dsl.nodes, entry = (node.id, upgradeNode node) := by
    obtain ⟨node, listed, same⟩ := List.mem_map.mp (perm.mem_iff.mp mem)
    exact ⟨node, listed, same.symm⟩
  have length {id : String} (mem : id ∈ dsl.nodes.map (·.id)) : stringBetween 1 120 id := by
    obtain ⟨node, listed, rfl⟩ := List.mem_map.mp mem
    have valid := schema.2 node listed
    simp only [workflowNodeSchema, Bool.and_eq_true, nonempty, decide_eq_true_eq] at valid
    simp only [stringBetween, Bool.and_eq_true, decide_eq_true_eq]
    exact ⟨valid.1, (chainable.keys node listed).2⟩
  refine ⟨?_, ?_⟩
  · simp only [workflowDslV3Schema, Bool.and_eq_true, List.all_eq_true]
    refine ⟨⟨schema.1.1, fun e mem => ?_⟩, fun e mem => ?_⟩
    · obtain ⟨node, listed, rfl⟩ := entry mem
      exact ⟨length (List.mem_map_of_mem listed), upgradeNode_schema (schema.2 node listed)⟩
    · obtain ⟨same, i, source, target⟩ := mem_upgradeEdges mem
      simp only [workflowEdgeV3Schema, Bool.and_eq_true]
      refine ⟨⟨?_, length (List.mem_of_getElem? source)⟩, length (List.mem_of_getElem? target)⟩
      simp only [stringBetween, Bool.and_eq_true, decide_eq_true_eq]
      refine ⟨?_, chainable.edgeLengths e mem⟩
      rw [same, jsLength_upgradeEdge]
      omega
  · have edges : checkEdges (upgradeV2ToV3 dsl).nodeIds [] (upgradeV2ToV3 dsl).edges = none :=
      checkEdges_eq_none.mpr ⟨chainable.edgeIds, by simp, upgrade_closed chainable⟩
    have conditions : (upgradeV2ToV3 dsl).nodes.findSome?
        (checkConditionEdges (upgradeV2ToV3 dsl)) = none := by
      rw [List.findSome?_eq_none_iff]
      intro e mem
      obtain ⟨node, listed, rfl⟩ := entry mem
      have plain := chainable.unconditional node listed
      unfold checkConditionEdges
      rw [if_pos (upgradeNode_unconditional plain)]
    have regions : checkParallelRegions (upgradeV2ToV3 dsl) = none := by
      simp only [checkParallelRegions, List.findSome?_eq_none_iff]
      intro join _ rootId _
      have few := (List.length_filter_le (fun e : WorkflowEdgeV3 => e.kindOrAlways = .always)
        ((upgradeV2ToV3 dsl).outgoing rootId)).trans (outgoing_length chainable rootId)
      rw [if_pos (by omega)]
    have some_ : (upgradeV2ToV3 dsl).nodes.isEmpty = false := by
      have same := perm.length_eq
      rw [List.length_map] at same
      have nodes := schema.1.2
      cases empty : (upgradeV2ToV3 dsl).nodes with
      | nil =>
        rw [empty] at same
        rw [List.length_eq_zero_iff.mp same.symm] at nodes
        cases nodes
      | cons => rfl
    simp only [validateV3GraphConstraints, some_, edges, conditions, count, regions]
    simp

theorem chainable_of_accepted (accepted : acceptedV3 (upgradeV2ToV3 dsl))
    (count : (upgradeV2ToV3 dsl).nodes.length = dsl.nodes.length) : Chainable dsl := by
  obtain ⟨schema, valid⟩ := accepted
  have all : (dsl.nodes.foldl setNode []).length = dsl.nodes.length :=
    (ownEntries_perm _).length_eq.symm.trans count
  obtain ⟨ids, named⟩ := @distinct_of_length dsl.nodes [] (by simpa using all)
  have entries := @foldl_setNode dsl.nodes [] (by simpa using ids) fun node mem => (named node mem).1
  have present {node : WorkflowNode} (mem : node ∈ dsl.nodes) :
      (node.id, upgradeNode node) ∈ (upgradeV2ToV3 dsl).nodes := by
    refine (ownEntries_perm _).mem_iff.mpr ?_
    rw [entries, List.nil_append]
    exact List.mem_map_of_mem mem
  simp only [workflowDslV3Schema, Bool.and_eq_true, List.all_eq_true] at schema
  obtain ⟨⟨-, keys⟩, edges⟩ := schema
  unfold validateV3GraphConstraints at valid
  split at valid
  · cases valid
  split at valid
  · cases valid
  rename_i checked
  split at valid
  · cases valid
  rename_i conditions
  refine ⟨ids, fun node mem => ⟨(named node mem).1, ?_⟩, (checkEdges_eq_none.mp checked).1,
    fun e mem => ?_, fun node mem conditional => ?_⟩
  · have key := (keys _ (present mem)).1
    simp only [stringBetween, Bool.and_eq_true, decide_eq_true_eq] at key
    exact key.2
  · have edge := edges e mem
    simp only [workflowEdgeV3Schema, stringBetween, Bool.and_eq_true, decide_eq_true_eq] at edge
    exact edge.1.1.2
  · have checked := List.findSome?_eq_none_iff.mp conditions _ (present mem)
    have same : (upgradeNode node).type = .condition := by
      cases node with
      | condition => rfl
      | _ => cases conditional
    have always : ((upgradeV2ToV3 dsl).outgoing node.id |>.map (·.kindOrAlways)).count .condTrue = 0 := by
      refine List.count_eq_zero.mpr fun mem => ?_
      obtain ⟨e, leaves, kind⟩ := List.mem_map.mp mem
      rw [(mem_upgradeEdges (List.mem_of_mem_filter leaves)).1] at kind
      cases kind
    simp only [checkConditionEdges, same, always] at checked
    simp at checked

/-- The upgrade of a list is accepted, with a node for each of the list, exactly where the list
becomes a chain. -/
theorem accepted_iff_chainable (schema : workflowDslSchema dsl) :
    (acceptedV3 (upgradeV2ToV3 dsl) ∧
      (upgradeV2ToV3 dsl).nodes.length = dsl.nodes.length) ↔ Chainable dsl := by
  constructor
  · rintro ⟨accepted, count⟩
    exact chainable_of_accepted accepted count
  · intro chainable
    refine ⟨accepted_of_chainable schema chainable, ?_⟩
    rw [(nodes_perm chainable).length_eq, List.length_map]

end accepted

end Vespid.Workflow
