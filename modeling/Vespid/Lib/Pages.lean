import Mathlib.Data.List.Sort

/-!
# The first page of a sorted listing

A listing sorts its entries by a strict order on their keys and returns the first `limit` of
them. An entry is on the page when fewer than `limit` entries come before it.
-/

namespace Listing
variable {α : Type} {before : α → α → Bool} {l : List α} {x : α} {limit : Nat}

/-- Entries in `before` order come first; entries with equal keys stay as they are. -/
def page (before : α → α → Bool) (limit : Nat) (l : List α) : List α :=
  (l.mergeSort fun a b => !before b a).take limit

/-- A strict order that compares any two entries of a listing. -/
structure Orders (before : α → α → Bool) (l : List α) : Prop where
  asymm : ∀ a b, before a b = true → before b a = false
  negTrans : ∀ a b c, before b a = false → before c b = false → before c a = false
  total : ∀ a ∈ l, ∀ b ∈ l, a ≠ b → before a b = true ∨ before b a = true
  nodup : l.Nodup

theorem mem_take_iff (asymm : ∀ a b, before a b = true → before b a = false)
    (sorted : l.Pairwise fun a b => before a b = true) (mem : x ∈ l) :
    x ∈ l.take limit ↔ l.countP (before · x) < limit := by
  induction l generalizing limit with
  | nil => cases mem
  | cons y rest ih =>
    obtain ⟨first, sorted⟩ := List.pairwise_cons.mp sorted
    cases limit with
    | zero => simp
    | succ n =>
      rcases List.mem_cons.mp mem with rfl | later
      · have none : (x :: rest).countP (before · x) = 0 := by
          apply List.countP_eq_zero.mpr
          intro z there before_
          rcases List.mem_cons.mp there with rfl | there
          · rw [asymm z z before_] at before_
            cases before_
          · have behind := first z there
            rw [asymm z x before_] at behind
            cases behind
        simp [none]
      · have ahead : before y x = true := first x later
        have other : x ≠ y := by
          rintro rfl
          rw [asymm x x ahead] at ahead
          cases ahead
        rw [List.take_succ_cons, List.mem_cons, List.countP_cons, if_pos ahead]
        simp only [other, false_or, Nat.add_lt_add_iff_right]
        exact ih sorted later

theorem mem_page_iff (orders : Orders before l) (mem : x ∈ l) :
    x ∈ page before limit l ↔ l.countP (before · x) < limit := by
  have perm := List.mergeSort_perm l fun a b => !before b a
  have weakly : (l.mergeSort fun a b => !before b a).Pairwise fun a b => (!before b a) = true := by
    apply List.pairwise_mergeSort
    · intro a b c first second
      simpa using orders.negTrans a b c (by simpa using first) (by simpa using second)
    · intro a b
      cases ahead : before b a with
      | false => rfl
      | true => simp [orders.asymm b a ahead]
  have sorted : (l.mergeSort fun a b => !before b a).Pairwise fun a b => before a b = true := by
    refine (weakly.and (perm.nodup_iff.mpr orders.nodup)).imp_of_mem ?_
    rintro a b here there ⟨behind, apart⟩
    have not : before b a = false := by simpa using behind
    rcases orders.total a (perm.mem_iff.mp here) b (perm.mem_iff.mp there) apart with ahead | ahead
    · exact ahead
    · rw [not] at ahead
      cases ahead
  rw [page, mem_take_iff orders.asymm sorted (perm.mem_iff.mpr mem), perm.countP_eq]

theorem mem_of_mem_page (on : x ∈ page before limit l) : x ∈ l :=
  (List.mergeSort_perm l _).mem_iff.mp (List.mem_of_mem_take on)

theorem nodup_page (nodup : l.Nodup) : (page before limit l).Nodup :=
  List.Nodup.sublist (List.take_sublist ..) ((List.mergeSort_perm l _).nodup_iff.mpr nodup)

end Listing
