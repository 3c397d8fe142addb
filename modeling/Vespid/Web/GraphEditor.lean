import Vespid.Workflow.Upgrade

/-!
# The graph editor

A workflow is shown as flow nodes and flow edges and saved from them. Loading takes the key of a
node's entry for its id, saving files the node under the id it carries.
-/

namespace Vespid.Web

open Workflow

structure Position where
  x : Rat
  y : Rat
  deriving DecidableEq

structure Viewport where
  x : Rat
  y : Rat
  zoom : Rat
  deriving DecidableEq

structure EditorState where
  nodes : Option (List (String × Position))
  viewport : Option Viewport

structure FlowNode where
  id : String
  position : Position
  label : String
  node : WorkflowNode

structure FlowEdge where
  id : String
  source : String
  target : String
  label : String
  kind : Option String
  animated : Bool

/-! ### Loading -/

def numberOr (fallback : Rat) (fields : List (String × Json)) (key : String) : Rat :=
  match fields.lookup key with
  | some (.num n) => n
  | _ => fallback

def parsePosition (fields : List (String × Json)) : Position :=
  let position := ((fields.lookup "position").bind Json.asObject).getD []
  { x := numberOr 0 position "x", y := numberOr 0 position "y" }

def parseEditorState (input : Json) : Option EditorState :=
  input.asObject.map fun fields =>
    { nodes := match fields.lookup "nodes" with
        | some (.arr nodes) => some (((nodes.filterMap Json.asObject).map fun node =>
            (match node.lookup "id" with
              | some (.str id) => id
              | _ => "", parsePosition node)).filter fun node => node.1 ≠ "")
        | _ => none
      viewport := ((fields.lookup "viewport").bind Json.asObject).map fun viewport =>
        { x := numberOr 0 viewport "x", y := numberOr 0 viewport "y"
          zoom := numberOr 1 viewport "zoom" } }

def defaultPosition (index : Nat) : Position :=
  { x := 60 + (index % 4 : Nat) * 260, y := 60 + (index / 4 : Nat) * 140 }

/-- `positions`: a later entry for an id replaces an earlier one. -/
def positions (editorState : Option EditorState) : List (String × Position) :=
  OrderedMap.merge [] ((editorState.bind (·.nodes)).getD [])

def toFlowNodes (dsl : WorkflowDslV3) (editorState : Option EditorState) : List FlowNode :=
  dsl.nodes.mapIdx fun index entry =>
    { id := entry.1
      position := ((positions editorState).lookup entry.1).getD (defaultPosition index)
      label := entry.2.type.literal
      node := entry.2 }

def toFlowEdges (dsl : WorkflowDslV3) : List FlowEdge :=
  dsl.edges.map fun e =>
    { id := e.id, source := e.from, target := e.to, label := e.kindOrAlways.literal
      kind := some e.kindOrAlways.literal, animated := false }

def v3Dsl : WorkflowDslAny → WorkflowDslV3
  | .v3 dsl => dsl
  | .v2 dsl => upgradeV2ToV3 dsl

/-! ### Saving -/

/-- `nodesRecord[node.id] = node`, where the node has an id; under `__proto__`, the record gets a
prototype and no entry. -/
def recordNode (record : List (String × WorkflowNode)) (node : WorkflowNode) :
    List (String × WorkflowNode) :=
  if node.id = "" ∨ node.id = "__proto__" then record else OrderedMap.set record node.id node

def edgeKind (raw : String) : EdgeKind :=
  if raw = "cond_true" then .condTrue else if raw = "cond_false" then .condFalse else .always

theorem recordNode_nodup {record : List (String × WorkflowNode)}
    (distinct : (record.map Prod.fst).Nodup) (node : WorkflowNode) :
    ((recordNode record node).map Prod.fst).Nodup := by
  unfold recordNode
  split
  · exact distinct
  · exact OrderedMap.nodup_keys_set distinct ..

theorem foldl_recordNode_nodup (nodes : List WorkflowNode) {record : List (String × WorkflowNode)}
    (distinct : (record.map Prod.fst).Nodup) :
    ((nodes.foldl recordNode record).map Prod.fst).Nodup := by
  induction nodes generalizing record with
  | nil => exact distinct
  | cons node nodes ih => exact ih (recordNode_nodup distinct node)

structure Draft where
  dsl : WorkflowDslV3
  editorState : EditorState

def buildDraftDsl (v3Dsl : Option WorkflowDslV3) (nodes : List FlowNode) (edges : List FlowEdge)
    (viewport : Option Viewport) : Draft where
  dsl :=
    { trigger := (v3Dsl.map (·.trigger)).getD .manual
      nodes := ownEntries ((nodes.map (·.node)).foldl recordNode [])
      edges := edges.map fun e =>
        { id := e.id, «from» := e.source, «to» := e.target
          kind := some (edgeKind (e.kind.getD "always")) }
      keysDistinct :=
        ((ownEntries_perm _).map Prod.fst).nodup_iff.mpr (foldl_recordNode_nodup _ List.nodup_nil) }
  editorState := { nodes := some (nodes.map fun n => (n.id, n.position)), viewport }

/-- A workflow that is loaded and saved as it is shown. -/
def saved (dsl : WorkflowDslAny) (editorState : Json) (viewport : Option Viewport) : WorkflowDslV3 :=
  (buildDraftDsl (some (v3Dsl dsl)) (toFlowNodes (v3Dsl dsl) (parseEditorState editorState))
    (toFlowEdges (v3Dsl dsl)) viewport).dsl

/-! ### What a save keeps -/

/-- An id that a record can have as a key of its own. -/
def Recordable (id : String) : Prop := id ≠ "" ∧ id ≠ "__proto__"

section record
variable {record : List (String × WorkflowNode)} {entry : String × WorkflowNode}

theorem mem_recordNode {node : WorkflowNode} (mem : entry ∈ recordNode record node) :
    entry ∈ record ∨ entry = (node.id, node) ∧ Recordable node.id := by
  unfold recordNode at mem
  split at mem
  · exact .inl mem
  · next named =>
    obtain old | new := OrderedMap.mem_set mem
    · exact .inl old
    · exact .inr ⟨new, not_or.mp named⟩

theorem mem_foldl_recordNode {nodes : List WorkflowNode}
    (mem : entry ∈ nodes.foldl recordNode record) :
    entry ∈ record ∨ entry.2 ∈ nodes ∧ entry.2.id = entry.1 ∧ Recordable entry.1 := by
  induction nodes generalizing record with
  | nil => exact .inl mem
  | cons node nodes ih =>
    obtain before | ⟨listed, keyed⟩ := ih mem
    · obtain old | ⟨rfl, named⟩ := mem_recordNode before
      · exact .inl old
      · exact .inr ⟨List.mem_cons_self, rfl, named⟩
    · exact .inr ⟨List.mem_cons_of_mem _ listed, keyed⟩

/-- Nodes with ids of their own are filed one after the other. -/
theorem foldl_recordNode {nodes : List WorkflowNode}
    (distinct : (record.map Prod.fst ++ nodes.map (·.id)).Nodup)
    (named : ∀ node ∈ nodes, Recordable node.id) :
    nodes.foldl recordNode record = record ++ nodes.map fun node => (node.id, node) := by
  induction nodes generalizing record with
  | nil => simp
  | cons node nodes ih =>
    have fresh : node.id ∉ record.map Prod.fst := by
      intro mem
      exact (List.nodup_append.mp distinct).2.2 _ mem _ List.mem_cons_self rfl
    have written : recordNode record node = record ++ [(node.id, node)] := by
      obtain ⟨filled, plain⟩ := named node List.mem_cons_self
      rw [recordNode, if_neg (not_or.mpr ⟨filled, plain⟩), OrderedMap.set_of_not_mem _ fresh]
    have still : ((record ++ [(node.id, node)]).map Prod.fst ++ nodes.map (·.id)).Nodup := by
      simpa using distinct
    rw [List.foldl_cons, written, ih still fun n mem => named n (List.mem_cons_of_mem _ mem)]
    simp

end record

section saving
variable {dsl : WorkflowDslV3} {any : WorkflowDslAny} {editorState : Json}
  {viewport : Option Viewport}

theorem toFlowNodes_nodes (dsl : WorkflowDslV3) (editorState : Option EditorState) :
    (toFlowNodes dsl editorState).map (·.node) = dsl.nodes.map Prod.snd := by
  apply List.ext_getElem?
  intro i
  simp [toFlowNodes, List.getElem?_mapIdx, Function.comp_def]

theorem edgeKind_literal (kind : EdgeKind) : edgeKind kind.literal = kind := by
  cases kind <;> decide

/-- An edge as a save writes it: a missing kind is `always`. -/
def writtenEdge (e : WorkflowEdgeV3) : WorkflowEdgeV3 := { e with kind := some e.kindOrAlways }

theorem saved_trigger : (saved any editorState viewport).trigger = (v3Dsl any).trigger := rfl

theorem saved_edges :
    (saved any editorState viewport).edges = (v3Dsl any).edges.map writtenEdge := by
  simp [saved, buildDraftDsl, toFlowEdges, writtenEdge, edgeKind_literal]

theorem saved_nodes : (saved any editorState viewport).nodes =
    ownEntries (((v3Dsl any).nodes.map Prod.snd).foldl recordNode []) := by
  rw [← toFlowNodes_nodes]
  rfl

theorem mem_saved {entry : String × WorkflowNode}
    (mem : entry ∈ (saved any editorState viewport).nodes) :
    entry.2.id = entry.1 ∧ Recordable entry.1 := by
  rw [saved_nodes] at mem
  obtain old | ⟨-, keyed⟩ := mem_foldl_recordNode ((ownEntries_perm _).mem_iff.mp mem)
  · cases old
  · exact keyed

/-- Where every node stands under its id, all entries are filed again as they were. -/
theorem saved_perm (keys : (v3Dsl any).KeysAreIds)
    (named : ∀ id ∈ (v3Dsl any).nodeIds, Recordable id) :
    (saved any editorState viewport).nodes.Perm (v3Dsl any).nodes := by
  have ids : ((v3Dsl any).nodes.map Prod.snd).map (·.id) = (v3Dsl any).nodeIds := by
    rw [List.map_map]
    exact List.map_congr_left keys
  have entries : (((v3Dsl any).nodes.map Prod.snd).map fun node => (node.id, node)) =
      (v3Dsl any).nodes := by
    rw [List.map_map]
    conv_rhs => rw [← List.map_id (v3Dsl any).nodes]
    apply List.map_congr_left
    intro entry mem
    exact Prod.ext (keys entry mem) rfl
  rw [saved_nodes]
  refine (ownEntries_perm _).trans (List.Perm.of_eq ?_)
  rw [foldl_recordNode, List.nil_append, entries]
  · rw [ids]
    exact (v3Dsl any).keysDistinct
  · intro node mem
    have listed : node.id ∈ (v3Dsl any).nodeIds := ids ▸ List.mem_map_of_mem mem
    exact named _ listed

/-- The same trigger, the same nodes under the same keys and the same edges. -/
structure Shows (kept dsl : WorkflowDslV3) : Prop where
  trigger : kept.trigger = dsl.trigger
  nodes : kept.nodes.Perm dsl.nodes
  edges : kept.edges = dsl.edges.map writtenEdge

theorem shows_iff : Shows (saved any editorState viewport) (v3Dsl any) ↔
    (v3Dsl any).KeysAreIds ∧ ∀ id ∈ (v3Dsl any).nodeIds, Recordable id := by
  constructor
  · intro shows
    have entry : ∀ entry ∈ (v3Dsl any).nodes, entry.2.id = entry.1 ∧ Recordable entry.1 :=
      fun entry mem => mem_saved (shows.nodes.mem_iff.mpr mem)
    refine ⟨fun listed mem => (entry listed mem).1, ?_⟩
    intro id mem
    obtain ⟨listed, there, rfl⟩ := List.mem_map.mp mem
    exact (entry listed there).2
  · intro ⟨keys, named⟩
    exact ⟨saved_trigger, saved_perm keys named, saved_edges⟩

end saving

/-! ### Lists that are upgraded -/

section upgraded
variable {dsl : WorkflowDsl} {editorState : Json} {viewport : Option Viewport}

theorem upgradeNode_id (node : WorkflowNode) : (upgradeNode node).id = node.id := by
  cases node <;> rfl

theorem mem_foldl_setNode {nodes : List WorkflowNode} {acc : List (String × WorkflowNode)}
    {entry : String × WorkflowNode} (mem : entry ∈ nodes.foldl setNode acc) :
    entry ∈ acc ∨
      ∃ node ∈ nodes, entry = (node.id, upgradeNode node) ∧ node.id ≠ "__proto__" := by
  induction nodes generalizing acc with
  | nil => exact .inl mem
  | cons node nodes ih =>
    obtain before | ⟨later, listed, same⟩ := ih mem
    · unfold setNode at before
      split at before
      · exact .inl before
      · next plain =>
        obtain old | new := OrderedMap.mem_set before
        · exact .inl old
        · exact .inr ⟨node, List.mem_cons_self, new, plain⟩
    · exact .inr ⟨later, List.mem_cons_of_mem _ listed, same⟩

theorem mem_upgraded {entry : String × WorkflowNode} (mem : entry ∈ (upgradeV2ToV3 dsl).nodes) :
    ∃ node ∈ dsl.nodes, entry = (node.id, upgradeNode node) ∧ node.id ≠ "__proto__" := by
  obtain old | new := mem_foldl_setNode ((ownEntries_perm _).mem_iff.mp mem)
  · cases old
  · exact new

theorem upgraded_keys : (upgradeV2ToV3 dsl).KeysAreIds := by
  intro entry mem
  obtain ⟨node, -, rfl, -⟩ := mem_upgraded mem
  exact upgradeNode_id node

theorem upgraded_recordable (schema : workflowDslSchema dsl) :
    ∀ id ∈ (upgradeV2ToV3 dsl).nodeIds, Recordable id := by
  intro id mem
  obtain ⟨entry, listed, rfl⟩ := List.mem_map.mp mem
  obtain ⟨node, there, rfl, plain⟩ := mem_upgraded listed
  refine ⟨?_, plain⟩
  intro blank
  exact nonempty_ids schema (blank ▸ List.mem_map_of_mem there)

theorem upgraded_edges :
    (upgradeV2ToV3 dsl).edges.map writtenEdge = (upgradeV2ToV3 dsl).edges := by
  conv_rhs => rw [← List.map_id (upgradeV2ToV3 dsl).edges]
  apply List.map_congr_left
  intro e mem
  rw [(mem_upgradeEdges mem).1]
  rfl

theorem upgraded_shows (schema : workflowDslSchema dsl) :
    Shows (saved (.v2 dsl) editorState viewport) (upgradeV2ToV3 dsl) :=
  shows_iff.mpr ⟨upgraded_keys, upgraded_recordable schema⟩

/-- No node is lost and no edge is left dangling. -/
structure Complete (kept : WorkflowDslV3) (count : Nat) : Prop where
  nodes : kept.nodes.length = count
  closed : kept.Closed

/-- Where the ids are told apart, the upgrade has an entry for every one of them. -/
theorem upgraded_ids (distinct : (dsl.nodes.map (·.id)).Nodup)
    (plain : "__proto__" ∉ dsl.nodes.map (·.id)) :
    (upgradeV2ToV3 dsl).nodeIds.Perm (dsl.nodes.map (·.id)) := by
  have written := @foldl_setNode dsl.nodes [] (by simpa using distinct) fun node mem same =>
    plain (same ▸ List.mem_map_of_mem mem)
  have perm := (ownEntries_perm (dsl.nodes.foldl setNode [])).map Prod.fst
  rw [written, List.nil_append, List.map_map] at perm
  unfold WorkflowDslV3.nodeIds upgradeV2ToV3
  simpa only [written, List.nil_append, Function.comp_def] using perm

theorem upgraded_complete_iff : Complete (upgradeV2ToV3 dsl) dsl.nodes.length ↔
    (dsl.nodes.map (·.id)).Nodup ∧ "__proto__" ∉ dsl.nodes.map (·.id) := by
  constructor
  · intro complete
    have all : (dsl.nodes.foldl setNode []).length = dsl.nodes.length :=
      (ownEntries_perm _).length_eq.symm.trans complete.nodes
    obtain ⟨distinct, named⟩ := @distinct_of_length dsl.nodes [] (by simpa using all)
    refine ⟨distinct, ?_⟩
    intro mem
    obtain ⟨node, listed, same⟩ := List.mem_map.mp mem
    exact (named node listed).1 same
  · intro ⟨distinct, plain⟩
    have ids := upgraded_ids distinct plain
    constructor
    · have length := ids.length_eq
      rwa [WorkflowDslV3.nodeIds, List.length_map, List.length_map] at length
    · intro e mem
      obtain ⟨-, i, source, target⟩ := mem_upgradeEdges mem
      exact ⟨ids.mem_iff.mpr (List.mem_of_getElem? source),
        ids.mem_iff.mpr (List.mem_of_getElem? target)⟩

end upgraded

theorem Shows.complete_iff {kept dsl : WorkflowDslV3} (shows : Shows kept dsl) (count : Nat) :
    Complete kept count ↔ Complete dsl count := by
  have ids : kept.nodeIds.Perm dsl.nodeIds := shows.nodes.map Prod.fst
  have closed : kept.Closed ↔ dsl.Closed := by
    unfold WorkflowDslV3.Closed
    rw [shows.edges, List.forall_mem_map]
    simp only [writtenEdge, ids.mem_iff]
  constructor
  · intro complete
    exact ⟨shows.nodes.length_eq.symm.trans complete.nodes, closed.mp complete.closed⟩
  · intro complete
    exact ⟨shows.nodes.length_eq.trans complete.nodes, closed.mpr complete.closed⟩

theorem accepted_filled {dsl : WorkflowDslV3} (accepted : acceptedV3 dsl) {id : String}
    (mem : id ∈ dsl.nodeIds) : id ≠ "" := by
  rintro rfl
  obtain ⟨entry, listed, blank⟩ := List.mem_map.mp mem
  have schema := accepted.1
  simp only [workflowDslV3Schema, Bool.and_eq_true, List.all_eq_true] at schema
  have named := (schema.1.2 entry listed).1
  rw [blank] at named
  revert named
  decide

/-- A graph that is only displayed is saved as it was if every node stands under its own id; a list
is always saved as its upgrade, which is complete if its ids are told apart. -/
theorem displayed_unchanged (editorState : Json) (viewport : Option Viewport) :
    (∀ dsl : WorkflowDslV3, acceptedV3 dsl →
      (Shows (saved (.v3 dsl) editorState viewport) dsl ∧
          Complete (saved (.v3 dsl) editorState viewport) dsl.nodes.length ↔
        dsl.KeysAreIds ∧ "__proto__" ∉ dsl.nodeIds)) ∧
    ∀ dsl : WorkflowDsl, workflowDslSchema dsl →
      Shows (saved (.v2 dsl) editorState viewport) (upgradeV2ToV3 dsl) ∧
      (saved (.v2 dsl) editorState viewport).edges = (upgradeV2ToV3 dsl).edges ∧
      (Complete (saved (.v2 dsl) editorState viewport) dsl.nodes.length ↔
        (dsl.nodes.map (·.id)).Nodup ∧ "__proto__" ∉ dsl.nodes.map (·.id)) := by
  constructor
  · intro dsl accepted
    have recordable : (∀ id ∈ dsl.nodeIds, Recordable id) ↔ "__proto__" ∉ dsl.nodeIds := by
      constructor
      · intro named mem
        exact (named _ mem).2 rfl
      · intro plain id mem
        exact ⟨accepted_filled accepted mem, fun same => plain (same ▸ mem)⟩
    have shows : Shows (saved (.v3 dsl) editorState viewport) dsl ↔
        dsl.KeysAreIds ∧ ∀ id ∈ dsl.nodeIds, Recordable id :=
      @shows_iff (.v3 dsl) editorState viewport
    rw [← recordable, ← shows]
    constructor
    · intro ⟨kept, _⟩
      exact kept
    · intro kept
      have complete : Complete dsl dsl.nodes.length := ⟨rfl, (validate_none accepted.2).1⟩
      exact ⟨kept, (kept.complete_iff _).mpr complete⟩
  · intro dsl schema
    have shows : Shows (saved (.v2 dsl) editorState viewport) (upgradeV2ToV3 dsl) :=
      upgraded_shows schema
    exact ⟨shows, shows.edges.trans upgraded_edges,
      (shows.complete_iff _).trans upgraded_complete_iff⟩

/-! ### A key that is not the node's id -/

namespace Sample

def request (id : String) : WorkflowNode := .httpRequest id none

/-- Two nodes under `a` and `b` with ids of `first` and `second`. -/
def pair (first second : String) : WorkflowDslV3 where
  trigger := .manual
  nodes := [("a", request first), ("b", request second)]
  edges := [{ id := "e", «from» := "a", «to» := "b", kind := none }]
  keysDistinct := by simp

/-- Two nodes without an edge that carry one id. -/
def repeated : WorkflowDslV3 := { pair "x" "x" with edges := [] }

theorem pair_accepted : acceptedV3 (pair "a" "b") := by decide +kernel

end Sample

theorem displayed_unchanged_pair :
    Shows (saved (.v3 (Sample.pair "a" "b")) .null none) (Sample.pair "a" "b") ∧
      Complete (saved (.v3 (Sample.pair "a" "b")) .null none) 2 :=
  ((displayed_unchanged .null none).1 (Sample.pair "a" "b") Sample.pair_accepted).mpr
    ⟨by decide, by decide⟩

/-- Of two nodes that carry one id, a save keeps the second; with an edge between such nodes, the
edge is left dangling. -/
theorem repeated_id_lost :
    acceptedV3 Sample.repeated ∧
    (saved (.v3 Sample.repeated) .null none).nodeIds = ["x"] ∧
    ¬ Shows (saved (.v3 Sample.repeated) .null none) Sample.repeated ∧
    acceptedV3 (Sample.pair "x" "y") ∧
    ¬ (saved (.v3 (Sample.pair "x" "y")) .null none).Closed := by
  refine ⟨by decide +kernel, by decide +kernel, ?_, by decide +kernel, ?_⟩
  · intro shows
    have keys := (@shows_iff (.v3 Sample.repeated) .null none).mp shows
    exact absurd keys.1 (by decide)
  · intro closed
    have left := (closed _ (List.mem_singleton.mpr rfl)).1
    revert left
    decide +kernel

end Vespid.Web
