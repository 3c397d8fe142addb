import Vespid.AgentRuntime.Routing
import Mathlib.Data.List.Pairwise
import Mathlib.Data.List.Sort

/-!
# The best binding

The binding a request is routed to is the least of the eligible ones by dimension, priority and
id. Ids are compared by the collation of the runtime, which is a consistent order but equates
texts that are canonically equivalent.
-/

namespace Vespid.AgentRuntime

open List

section sorted
variable {α : Type} {le : α → α → Bool}

/-- The head of a sorted list is a least element. -/
theorem head?_mergeSort_least (trans : ∀ a b c, le a b → le b c → le a c)
    (total : ∀ a b, le a b || le b a) {l : List α} {first : α}
    (head : (l.mergeSort le).head? = some first) : first ∈ l ∧ ∀ a ∈ l, a ≠ first → le first a := by
  have ordered := pairwise_mergeSort trans total l
  obtain ⟨rest, sorted⟩ := List.head?_eq_some_iff.mp head
  rw [sorted, pairwise_cons] at ordered
  have same : ∀ a, a ∈ first :: rest ↔ a ∈ l := by
    intro a
    rw [← sorted]
    exact mem_mergeSort
  refine ⟨(same first).mp mem_cons_self, ?_⟩
  intro a member different
  obtain rfl | later := mem_cons.mp ((same a).mpr member)
  · exact absurd rfl different
  · exact ordered.1 a later

/-- Sorting by an order that tells the elements apart forgets how they were listed. -/
theorem mergeSort_perm_eq (trans : ∀ a b c, le a b → le b c → le a c)
    (total : ∀ a b, le a b || le b a) {l₁ l₂ : List α} (perm : l₁.Perm l₂)
    (apart : ∀ a ∈ l₁, ∀ b ∈ l₁, le a b → le b a → a = b) :
    l₁.mergeSort le = l₂.mergeSort le := by
  refine Perm.eq_of_pairwise ?_ (pairwise_mergeSort trans total l₁)
    (pairwise_mergeSort trans total l₂)
    ((mergeSort_perm l₁ le).trans (perm.trans (mergeSort_perm l₂ le).symm))
  intro a b left right
  exact apart a (mem_mergeSort.mp left) b (perm.mem_iff.mpr (mem_mergeSort.mp right))

end sorted

/-- A binding of the organization that matches the request. -/
def Eligible (context : SessionRouteContext) (binding : AgentBindingRecord) : Prop :=
  binding.organizationId = context.organizationId ∧ matchesBinding binding context = true

instance (context : SessionRouteContext) : DecidablePred (Eligible context) :=
  fun _ => inferInstanceAs (Decidable (_ ∧ _))

/-- By dimension, then the higher priority, then the id. -/
def Precedes (js : JsRuntime) (left right : AgentBindingRecord) : Prop :=
  dimensionsRank left.dimension < dimensionsRank right.dimension ∨
    dimensionsRank left.dimension = dimensionsRank right.dimension ∧
      (right.priority < left.priority ∨
        left.priority = right.priority ∧ js.localeCompare left.id right.id = .lt)

variable {js : JsRuntime}

theorem candidateOrder_iff {left right : AgentBindingRecord} :
    candidateOrder js left right = true ↔
      dimensionsRank left.dimension < dimensionsRank right.dimension ∨
        dimensionsRank left.dimension = dimensionsRank right.dimension ∧
          (right.priority < left.priority ∨
            left.priority = right.priority ∧ (js.localeCompare left.id right.id).isLE) := by
  unfold candidateOrder
  by_cases rank : dimensionsRank left.dimension = dimensionsRank right.dimension
  · by_cases priority : left.priority = right.priority
    · simp [rank, priority]
    · simp only [rank, priority, ne_eq, not_true_eq_false, not_false_eq_true, ↓reduceIte,
        decide_eq_true_eq, lt_self_iff_false, true_and, false_and, or_false, false_or]
      omega
  · simp only [rank, ne_eq, not_false_eq_true, ↓reduceIte, decide_eq_true_eq, false_and, or_false]
    omega

/-- A binding that does not come after one the collation tells it from comes before it. -/
theorem candidateOrder_precedes {left right : AgentBindingRecord}
    (before : candidateOrder js left right = true)
    (apart : js.localeCompare left.id right.id ≠ .eq) : Precedes js left right := by
  obtain rank | ⟨rank, priority | ⟨priority, ids⟩⟩ := candidateOrder_iff.mp before
  · exact .inl rank
  · exact .inr ⟨rank, .inl priority⟩
  · refine .inr ⟨rank, .inr ⟨priority, ?_⟩⟩
    cases compared : js.localeCompare left.id right.id with
    | lt => rfl
    | eq => exact absurd compared apart
    | gt => simp [compared] at ids

section collation
variable [Std.TransCmp js.localeCompare]

theorem candidateOrder_total (left right : AgentBindingRecord) :
    (candidateOrder js left right || candidateOrder js right left) = true := by
  have swap : js.localeCompare right.id left.id = (js.localeCompare left.id right.id).swap :=
    Std.OrientedCmp.eq_swap
  rw [Bool.or_eq_true, candidateOrder_iff, candidateOrder_iff, swap]
  cases js.localeCompare left.id right.id <;> simp <;> omega

theorem candidateOrder_trans (a b c : AgentBindingRecord)
    (left : candidateOrder js a b = true) (right : candidateOrder js b c = true) :
    candidateOrder js a c = true := by
  rw [candidateOrder_iff] at left right ⊢
  obtain rank | ⟨rank, left⟩ := left
  · left
    omega
  obtain rank' | ⟨rank', right⟩ := right
  · left
    omega
  refine .inr ⟨rank.trans rank', ?_⟩
  obtain priority | ⟨priority, ids⟩ := left
  · left
    omega
  obtain priority' | ⟨priority', ids'⟩ := right
  · left
    omega
  · exact .inr ⟨priority.trans priority', Std.TransCmp.isLE_trans ids ids'⟩

theorem candidateOrder_antisymm {a b : AgentBindingRecord} (left : candidateOrder js a b = true)
    (right : candidateOrder js b a = true) : js.localeCompare a.id b.id = .eq := by
  have swap : js.localeCompare b.id a.id = (js.localeCompare a.id b.id).swap :=
    Std.OrientedCmp.eq_swap
  rw [candidateOrder_iff] at left right
  rw [swap] at right
  cases compared : js.localeCompare a.id b.id with
  | eq => rfl
  | lt => simp [compared] at right; omega
  | gt => simp [compared] at left; omega

end collation

/-- The collation tells the ids of different entries apart. -/
def ToldApart (js : JsRuntime) (bindings : List AgentBindingRecord) : Prop :=
  bindings.Pairwise fun left right => js.localeCompare left.id right.id ≠ .eq

def candidates (js : JsRuntime) (context : SessionRouteContext)
    (bindings : List AgentBindingRecord) : List AgentBindingRecord :=
  (bindings.filter fun binding => Eligible context binding).mergeSort (candidateOrder js)

/-- The answer for a selected binding. -/
def routeTo (lower : LowerCase) (context : SessionRouteContext) (defaultAgentId : AgentId)
    (selected : Option AgentBindingRecord) : SessionRouteResolved :=
  let routedAgentId := (selected.map (·.agentId)).getD defaultAgentId
  { routedAgentId
    sessionKey := buildSessionKey lower
      { agentId := routedAgentId.text
        organizationId := context.organizationId
        scope := context.scope
        actorUserId := context.actorUserId
        channel := context.channel
        account := context.account
        peer := context.peer }
    bindingId := selected.map (·.id) }

theorem filter_eligible (bindings : List AgentBindingRecord) (context : SessionRouteContext) :
    ((bindings.filter fun binding =>
      decide (binding.organizationId = context.organizationId)).filter fun binding =>
        matchesBinding binding context) =
      bindings.filter fun binding => Eligible context binding := by
  rw [List.filter_filter]
  congr 1
  funext binding
  rw [Bool.eq_iff_iff, decide_eq_true_iff]
  simp [Eligible, and_comm]

theorem resolveRoutedAgent_eq (lower : LowerCase) (bindings : List AgentBindingRecord)
    (context : SessionRouteContext) (defaultAgentId : AgentId) :
    resolveRoutedAgent js lower bindings context defaultAgentId =
      routeTo lower context defaultAgentId (candidates js context bindings).head? := by
  simp only [resolveRoutedAgent, routeTo, candidates, filter_eligible]

theorem candidates_nil {context : SessionRouteContext} {bindings : List AgentBindingRecord} :
    (candidates js context bindings).head? = none ↔
      ∀ binding ∈ bindings, ¬ Eligible context binding := by
  rw [List.head?_eq_none_iff, candidates, ← List.length_eq_zero_iff, List.length_mergeSort,
    List.length_eq_zero_iff, List.filter_eq_nil_iff]
  simp

section choice
variable [Std.TransCmp js.localeCompare] {context : SessionRouteContext}
  {bindings : List AgentBindingRecord}

theorem toldApart_ne (apart : ToldApart js bindings) {a b : AgentBindingRecord}
    (left : a ∈ bindings) (right : b ∈ bindings) (different : a ≠ b) :
    js.localeCompare a.id b.id ≠ .eq := by
  have : Std.Symm fun a b : AgentBindingRecord => js.localeCompare a.id b.id ≠ .eq := by
    constructor
    intro a b apart same
    exact apart (Std.OrientedCmp.eq_comm.mp same)
  exact List.Pairwise.forall apart left right different

theorem selected_least (apart : ToldApart js bindings) {selected : AgentBindingRecord}
    (head : (candidates js context bindings).head? = some selected) :
    selected ∈ bindings ∧ Eligible context selected ∧
      ∀ other ∈ bindings, Eligible context other → other ≠ selected →
        Precedes js selected other := by
  obtain ⟨member, least⟩ := head?_mergeSort_least candidateOrder_trans candidateOrder_total head
  obtain ⟨listed, eligible⟩ := List.mem_filter.mp member
  refine ⟨listed, of_decide_eq_true eligible, ?_⟩
  intro other member' eligible' different
  apply candidateOrder_precedes
  · exact least other (List.mem_filter.mpr ⟨member', decide_eq_true eligible'⟩) different
  · exact toldApart_ne apart listed member' different.symm

/-- The candidates depend on the eligible bindings alone, in whatever order they are listed. -/
theorem candidates_perm (apart : ToldApart js bindings) {more whole : List AgentBindingRecord}
    (other : ∀ binding ∈ more, ¬ Eligible context binding)
    (perm : whole.Perm (bindings ++ more)) :
    candidates js context whole = candidates js context bindings := by
  have eligible := perm.filter fun binding => decide (Eligible context binding)
  have none : more.filter (fun binding => decide (Eligible context binding)) = [] := by
    rw [List.filter_eq_nil_iff]
    intro binding member
    simpa using other binding member
  rw [List.filter_append, none, List.append_nil] at eligible
  apply Eq.symm
  apply mergeSort_perm_eq candidateOrder_trans candidateOrder_total eligible.symm
  intro a left b right before after
  by_contra different
  exact toldApart_ne apart (List.mem_of_mem_filter left) (List.mem_of_mem_filter right) different
    (candidateOrder_antisymm before after)

end choice

/-- The agent of the eligible binding that precedes all others is chosen, or the default agent
where none is eligible; neither the order of the list nor bindings that are not eligible change
the answer. -/
theorem routed_best (js : JsRuntime) [Std.TransCmp js.localeCompare] (lower : LowerCase)
    (bindings : List AgentBindingRecord) (context : SessionRouteContext)
    (defaultAgentId : AgentId) (apart : ToldApart js bindings) :
    ((∃ selected ∈ bindings, Eligible context selected ∧
        (∀ other ∈ bindings, Eligible context other → other ≠ selected →
          Precedes js selected other) ∧
        resolveRoutedAgent js lower bindings context defaultAgentId =
          routeTo lower context defaultAgentId (some selected)) ∨
      (∀ binding ∈ bindings, ¬ Eligible context binding) ∧
        resolveRoutedAgent js lower bindings context defaultAgentId =
          routeTo lower context defaultAgentId none) ∧
    (∀ others, others.Perm bindings →
      resolveRoutedAgent js lower others context defaultAgentId =
        resolveRoutedAgent js lower bindings context defaultAgentId) ∧
    (∀ more whole, (∀ binding ∈ more, binding.organizationId ≠ context.organizationId ∨
        matchesBinding binding context = false) → whole.Perm (bindings ++ more) →
      resolveRoutedAgent js lower whole context defaultAgentId =
        resolveRoutedAgent js lower bindings context defaultAgentId) := by
  have enlarged : ∀ more whole, (∀ binding ∈ more, ¬ Eligible context binding) →
      whole.Perm (bindings ++ more) →
      resolveRoutedAgent js lower whole context defaultAgentId =
        resolveRoutedAgent js lower bindings context defaultAgentId := by
    intro more whole other perm
    rw [resolveRoutedAgent_eq, resolveRoutedAgent_eq, candidates_perm apart other perm]
  refine ⟨?_, ?_, ?_⟩
  · cases head : (candidates js context bindings).head? with
    | none =>
      refine .inr ⟨candidates_nil.mp head, ?_⟩
      rw [resolveRoutedAgent_eq, head]
    | some selected =>
      obtain ⟨listed, eligible, least⟩ := selected_least apart head
      refine .inl ⟨selected, listed, eligible, least, ?_⟩
      rw [resolveRoutedAgent_eq, head]
  · intro others perm
    apply enlarged [] others
    · simp
    · simpa using perm
  · intro more whole other perm
    refine enlarged more whole ?_ perm
    intro binding member eligible
    obtain organization | unmatched := other binding member
    · exact organization eligible.1
    · simp [eligible.2] at unmatched

/-! ### Two ids that the collation equates -/

/-- The canonical decomposition of the letters used below. -/
def decomposed (id : String) : List Nat :=
  id.toList.flatMap fun c => if c = 'é' then ['e'.toNat, 0x301] else [c.toNat]

/-- A collation of decomposed texts. -/
def canonical : JsRuntime where
  localeCompare := compareOn decomposed
  number _ := none
  inherited _ _ := .undefined

instance : Std.TransCmp canonical.localeCompare :=
  inferInstanceAs (Std.TransCmp (compareOn decomposed))

def keepCase : LowerCase where
  lower s := s
  ascii _ _ := rfl

def catchAll (id agentId : String) (solid : (Scheduler.trim agentId.toList).isEmpty = false) :
    AgentBindingRecord where
  id := id
  organizationId := "org-1"
  agentId := ⟨agentId, solid⟩
  priority := 0
  dimension := .default
  «match» := .null

def visitor : SessionRouteContext where
  organizationId := "org-1"
  actorUserId := "u-1"
  channel := none
  account := none
  peer := none
  parentPeer := none
  orgRoles := []
  team := none
  scope := .main

theorem main_solid : (Scheduler.trim "main".toList).isEmpty = false := by decide

def main : AgentId := ⟨"main", main_solid⟩

theorem routed_best_canonical :
    resolveRoutedAgent canonical keepCase
        [catchAll "b" "sales" (by decide), catchAll "a" "support" (by decide)] visitor main =
      resolveRoutedAgent canonical keepCase
        [catchAll "a" "support" (by decide), catchAll "b" "sales" (by decide)] visitor main :=
  ((routed_best canonical keepCase
    [catchAll "a" "support" (by decide), catchAll "b" "sales" (by decide)] visitor main
    (by simp [ToldApart]; decide)).2.1 _ (List.Perm.swap _ _ _))

theorem candidates_sorted {context : SessionRouteContext} {bindings : List AgentBindingRecord}
    (eligible : ∀ binding ∈ bindings, Eligible context binding)
    (sorted : bindings.Pairwise fun a b => candidateOrder js a b = true) :
    candidates js context bindings = bindings := by
  have all : (bindings.filter fun binding => Eligible context binding) = bindings := by
    apply List.filter_eq_self.mpr
    intro binding member
    exact decide_eq_true (eligible binding member)
  rw [candidates, all]
  exact List.mergeSort_of_pairwise sorted

/-- Two catch-all bindings whose ids are written with one code point and with two: the one that is
listed first is taken. -/
theorem listing_order_decides :
    "é" ≠ "e\u0301" ∧
    (resolveRoutedAgent canonical keepCase
        [catchAll "é" "sales" (by decide), catchAll "e\u0301" "support" (by decide)] visitor
        main).routedAgentId.text = "sales" ∧
    (resolveRoutedAgent canonical keepCase
        [catchAll "e\u0301" "support" (by decide), catchAll "é" "sales" (by decide)] visitor
        main).routedAgentId.text = "support" := by
  refine ⟨by decide, ?_, ?_⟩
  all_goals
    rw [resolveRoutedAgent_eq, candidates_sorted (by decide) (by decide)]
    rfl

end Vespid.AgentRuntime
