import Mathlib.Data.List.Sort

/-!
# The best of a list

Sort by a comparison and keep the first entries. Whatever is left out, no entry kept is behind it.
-/

namespace Ranking

variable {α β : Type} (cmp : α → α → Ordering)

/-- The first `count` entries when `l` is sorted. -/
def best (count : Nat) (l : List α) : List α :=
  (l.mergeSort fun a b => (cmp a b).isLE).take count

/-- `chosen` are the `count` first entries of `l` in order, or all where there are fewer. -/
structure IsBest (count : Nat) (l chosen : List α) : Prop where
  ordered : chosen.Pairwise fun a b => (cmp a b).isLE = true
  length : chosen.length = min count l.length
  best : ∃ others, l.Perm (chosen ++ others) ∧
    ∀ a ∈ chosen, ∀ b ∈ others, (cmp a b).isLE = true

variable {cmp}

theorem isBest_best [Std.TransCmp cmp] (count : Nat) (l : List α) :
    IsBest cmp count l (best cmp count l) := by
  have swapped : ∀ a b, cmp b a = (cmp a b).swap := fun a b => Std.OrientedCmp.eq_swap
  have sorted : (l.mergeSort fun a b => (cmp a b).isLE).Pairwise
      fun a b => (cmp a b).isLE = true := by
    refine List.pairwise_mergeSort (fun a b c first second => ?_) (fun a b => ?_) l
    · exact Std.TransCmp.isLE_trans first second
    · rw [swapped a b]
      cases cmp a b <;> rfl
  rw [← List.take_append_drop count (l.mergeSort _)] at sorted
  obtain ⟨first, -, across⟩ := List.pairwise_append.mp sorted
  refine ⟨first, ?_, _, ?_, across⟩
  · rw [best, List.length_take, List.length_mergeSort]
  · rw [best, List.take_append_drop]
    exact (List.mergeSort_perm l _).symm

/-- The comparison of a feature. -/
theorem transCmp_on (cmp : β → β → Ordering) [Std.TransCmp cmp] (feature : α → β) :
    Std.TransCmp fun a b => cmp (feature a) (feature b) where
  eq_swap := Std.OrientedCmp.eq_swap
  isLE_trans := Std.TransCmp.isLE_trans

/-- The greater feature first. -/
theorem transCmp_desc (cmp : β → β → Ordering) [Std.TransCmp cmp] (feature : α → β) :
    Std.TransCmp fun a b => cmp (feature b) (feature a) where
  eq_swap := Std.OrientedCmp.eq_swap
  isLE_trans first second := Std.TransCmp.isLE_trans second first

end Ranking
