import Mathlib.Data.List.Nodup
import Mathlib.Data.List.Perm.Subperm
import Mathlib.Logic.Relation

/-!
# Working off nodes with prerequisites

A finite list of nodes, the prerequisites of each, and the nodes that may run at all. Any
order that takes one ready node after the other ends in the same set: the least one that
contains every open node whose prerequisites it contains.
-/

namespace Readiness

structure Net (α : Type) where
  nodes : List α
  needs : α → List α
  opens : α → Prop

variable {α : Type} {W : Net α} {done : List α} {n m : α}

/-- The least set with every open node whose prerequisites it has. -/
inductive Reached (W : Net α) : α → Prop
  | intro {n : α} (listed : n ∈ W.nodes) (passable : W.opens n)
      (needs : ∀ m ∈ W.needs n, Reached W m) : Reached W n

/-- The orders in which ready nodes can be taken. -/
inductive Worked (W : Net α) : List α → Prop
  | nil : Worked W []
  | snoc {done : List α} {n : α} (worked : Worked W done) (listed : n ∈ W.nodes)
      (passable : W.opens n) (fresh : n ∉ done) (needs : ∀ m ∈ W.needs n, m ∈ done) :
      Worked W (done ++ [n])

/-- No node is ready any more. -/
def Finished (W : Net α) (done : List α) : Prop :=
  ∀ n ∈ W.nodes, W.opens n → (∀ m ∈ W.needs n, m ∈ done) → n ∈ done

theorem reached_iff :
    Reached W n ↔ n ∈ W.nodes ∧ W.opens n ∧ ∀ m ∈ W.needs n, Reached W m := by
  constructor
  · intro reached
    obtain ⟨listed, passable, needs⟩ := reached
    exact ⟨listed, passable, needs⟩
  · intro facts
    exact .intro facts.1 facts.2.1 facts.2.2

theorem Reached.least {S : α → Prop} (reached : Reached W n)
    (closed : ∀ n ∈ W.nodes, W.opens n → (∀ m ∈ W.needs n, S m) → S n) : S n := by
  induction reached with
  | intro listed passable needs ih => exact closed _ listed passable ih

theorem Reached.congr {V : Net α} (nodes : W.nodes = V.nodes) (needs : W.needs = V.needs)
    (opens : ∀ n, (∀ m ∈ W.needs n, Reached W m) → W.opens n → V.opens n)
    (reached : Reached W n) : Reached V n := by
  induction reached with
  | intro listed passable before ih =>
    exact .intro (nodes ▸ listed) (opens _ before passable) (needs ▸ ih)

/-! ### Orders -/

namespace Worked

theorem nodup (worked : Worked W done) : done.Nodup := by
  induction worked with
  | nil => exact List.nodup_nil
  | snoc _ _ _ fresh _ ih =>
    exact List.Nodup.append ih (List.nodup_singleton _) (by simpa using fresh)

theorem listed (worked : Worked W done) (mem : n ∈ done) : n ∈ W.nodes := by
  induction worked with
  | nil => cases mem
  | snoc _ listed _ _ _ ih =>
    rcases List.mem_append.mp mem with old | new
    · exact ih old
    · rw [List.mem_singleton.mp new]
      exact listed

theorem length_le (worked : Worked W done) : done.length ≤ W.nodes.length :=
  (worked.nodup.subperm fun _ mem => worked.listed mem).length_le

theorem needs_before {before after : List α} (worked : Worked W done)
    (split : done = before ++ n :: after) : ∀ m ∈ W.needs n, m ∈ before := by
  induction worked generalizing after with
  | nil => simp at split
  | @snoc done k _ _ _ _ needs ih =>
    rcases List.eq_nil_or_concat after with rfl | ⟨rest, last, rfl⟩
    · obtain ⟨rfl, same⟩ := List.append_inj' split rfl
      cases same
      exact needs
    · rw [List.concat_eq_append, ← List.cons_append, ← List.append_assoc] at split
      exact ih (List.append_inj' split rfl).1

theorem needs_mem (worked : Worked W done) (mem : n ∈ done) : ∀ m ∈ W.needs n, m ∈ done := by
  obtain ⟨before, after, rfl⟩ := List.append_of_mem mem
  intro m need
  exact List.mem_append_left _ (worked.needs_before rfl m need)

theorem reached (worked : Worked W done) (mem : n ∈ done) : Reached W n := by
  induction worked generalizing n with
  | nil => cases mem
  | snoc _ listed passable _ needs ih =>
    rcases List.mem_append.mp mem with old | new
    · exact ih old
    · rw [List.mem_singleton.mp new]
      exact .intro listed passable fun m need => ih (needs m need)

/-- A finished order has taken exactly the least set. -/
theorem mem_iff (worked : Worked W done) (finished : Finished W done) :
    n ∈ done ↔ Reached W n :=
  ⟨fun mem => worked.reached mem, fun reached => reached.least finished⟩

/-- Finished orders differ in their order only. -/
theorem perm {done' : List α} (worked : Worked W done) (finished : Finished W done)
    (worked' : Worked W done') (finished' : Finished W done') : done.Perm done' :=
  (List.perm_ext_iff_of_nodup worked.nodup worked'.nodup).mpr fun n => by
    rw [worked.mem_iff finished, worked'.mem_iff finished']

theorem congr {V : Net α} (worked : Worked W done) (nodes : W.nodes = V.nodes)
    (needs : W.needs = V.needs) (opens : ∀ n ∈ done, W.opens n → V.opens n) : Worked V done := by
  induction worked with
  | nil => exact .nil
  | snoc _ listed passable fresh before ih =>
    exact .snoc (ih fun n mem => opens n (List.mem_append_left _ mem)) (nodes ▸ listed)
      (opens _ (by simp) passable) fresh (needs ▸ before)

/-- Every order goes on to a finished one. -/
theorem finish {done : List α} (worked : Worked W done) : ∃ rest, Worked W (done ++ rest) ∧
    Finished W (done ++ rest) := by
  by_cases finished : Finished W done
  · exact ⟨[], by simpa using worked, by simpa using finished⟩
  · unfold Finished at finished
    push Not at finished
    obtain ⟨n, listed, passable, needs, fresh⟩ := finished
    have longer := worked.snoc listed passable fresh needs
    have bound : done.length + 1 ≤ W.nodes.length := by simpa using longer.length_le
    obtain ⟨rest, more, finished⟩ := longer.finish
    exact ⟨n :: rest, by simpa using more, by simpa using finished⟩
termination_by W.nodes.length - done.length

/-- What has been taken is not part of a cycle. -/
theorem acc (worked : Worked W done) (mem : n ∈ done) : Acc (fun m n => m ∈ W.needs n) n := by
  induction worked generalizing n with
  | nil => cases mem
  | snoc _ _ _ _ needs ih =>
    rcases List.mem_append.mp mem with old | new
    · exact ih old
    · rw [List.mem_singleton.mp new]
      exact .intro _ fun m need => ih (needs m need)

end Worked

/-- Outside cycles, a node is reached where it and everything before it is open. -/
theorem reached_iff_ancestors (acc : Acc (fun m n => m ∈ W.needs n) n) :
    Reached W n ↔ ∀ a, Relation.ReflTransGen (fun n m => m ∈ W.needs n) n a →
      a ∈ W.nodes ∧ W.opens a := by
  induction acc with
  | intro n _ ih =>
    constructor
    · intro reached a path
      obtain ⟨listed, passable, needs⟩ := reached_iff.mp reached
      rcases Relation.ReflTransGen.cases_head path with rfl | ⟨m, need, rest⟩
      · exact ⟨listed, passable⟩
      · exact (ih m need).mp (needs m need) a rest
    · intro ancestors
      obtain ⟨listed, passable⟩ := ancestors n .refl
      refine .intro listed passable fun m need => (ih m need).mpr ?_
      intro a path
      exact ancestors a (.head need path)

end Readiness
