import Mathlib.Data.Set.Card
import Mathlib.Logic.Function.Basic

/-!
# Counting holders

The members of a crew that hold something, and how many there are when one member changes.
-/

namespace Interleaving
variable {κ : Type} {holds : κ → Prop} {crew : Nat → Option κ} {id n : Nat} {q : κ}
  {new : Option κ}

/-- The members that hold it. -/
def Holders (holds : κ → Prop) (crew : Nat → Option κ) : Set Nat :=
  {id | ∃ q, crew id = some q ∧ holds q}

theorem mem_holders : id ∈ Holders holds crew ↔ ∃ q, crew id = some q ∧ holds q := Iff.rfl

theorem holders_none : Holders holds (fun _ => none) = ∅ := by
  ext id
  simp [mem_holders]

/-- A member that changes adds itself at most. -/
theorem holders_update_subset :
    Holders holds (Function.update crew id new) ⊆ insert id (Holders holds crew) := by
  rintro i ⟨r, there, has⟩
  by_cases same : i = id
  · exact .inl same
  · rw [Function.update_of_ne same] at there
    exact .inr ⟨r, there, has⟩

theorem holders_join (bound : (Holders holds crew).encard ≤ n) :
    (Holders holds (Function.update crew id new)).encard ≤ (n + 1 : Nat) := by
  calc (Holders holds (Function.update crew id new)).encard
      ≤ (insert id (Holders holds crew)).encard := Set.encard_le_encard holders_update_subset
    _ ≤ (Holders holds crew).encard + 1 := Set.encard_insert_le ..
    _ ≤ (n + 1 : Nat) := by
      push_cast
      gcongr

/-- A member that does not hold it afterwards adds nothing. -/
theorem holders_update_of_not (still : ∀ r, new = some r → ¬holds r) :
    Holders holds (Function.update crew id new) = Holders holds crew \ {id} := by
  ext i
  by_cases same : i = id
  · subst same
    simp only [mem_holders, Function.update_self, Set.mem_sdiff, Set.mem_singleton_iff,
      not_true_eq_false, and_false, iff_false]
    rintro ⟨r, there, has⟩
    exact still r there has
  · simp [mem_holders, same]

theorem holders_stay (bound : (Holders holds crew).encard ≤ n)
    (still : ∀ r, new = some r → ¬holds r) :
    (Holders holds (Function.update crew id new)).encard ≤ n := by
  rw [holders_update_of_not still]
  exact (Set.encard_le_encard Set.sdiff_subset).trans bound

theorem holders_same (here : crew id = some q) {r : κ} (same : holds r ↔ holds q) :
    Holders holds (Function.update crew id (some r)) = Holders holds crew := by
  ext i
  by_cases eq : i = id
  · subst eq
    simp [mem_holders, here, same]
  · simp [mem_holders, eq]

/-- A holder that lets go leaves one less. -/
theorem holders_leave (bound : (Holders holds crew).encard ≤ n) (here : crew id = some q)
    (had : holds q) (lets : ∀ r, new = some r → ¬holds r) :
    ∃ m, n = m + 1 ∧ (Holders holds (Function.update crew id new)).encard ≤ m := by
  have member : id ∈ Holders holds crew := ⟨q, here, had⟩
  have less : (Holders holds crew \ {id}).encard + 1 ≤ n := by
    rw [Set.encard_sdiff_singleton_add_one member]
    exact bound
  rw [holders_update_of_not lets]
  cases n with
  | zero => simp at less
  | succ m =>
    refine ⟨m, rfl, ?_⟩
    push_cast at less
    exact (ENat.add_le_add_iff_right ENat.one_ne_top).mp less

/-- A member that starts to hold it makes one more. -/
theorem holders_gain (had : ∀ r, crew id = some r → ¬holds r) {r : κ} (has : holds r) :
    (Holders holds (Function.update crew id (some r))).encard = (Holders holds crew).encard + 1 := by
  have more : Holders holds (Function.update crew id (some r)) = insert id (Holders holds crew) := by
    refine Set.Subset.antisymm holders_update_subset fun i mem => ?_
    rcases mem with rfl | ⟨q, there, holding⟩
    · exact ⟨r, Function.update_self .., has⟩
    · by_cases same : i = id
      · subst same
        exact ⟨r, Function.update_self .., has⟩
      · exact ⟨q, by rwa [Function.update_of_ne same], holding⟩
  rw [more, Set.encard_insert_of_notMem]
  rintro ⟨q, there, holding⟩
  exact had q there holding

/-- A member that ceases to hold it makes one less. -/
theorem holders_loss (here : crew id = some q) (had : holds q)
    (lets : ∀ r, new = some r → ¬holds r) :
    (Holders holds (Function.update crew id new)).encard + 1 = (Holders holds crew).encard := by
  rw [holders_update_of_not lets]
  exact Set.encard_sdiff_singleton_add_one ⟨q, here, had⟩

/-- A member that holds it neither before nor after. -/
theorem holders_idle (had : ∀ r, crew id = some r → ¬holds r)
    (still : ∀ r, new = some r → ¬holds r) :
    Holders holds (Function.update crew id new) = Holders holds crew := by
  rw [holders_update_of_not still]
  exact Set.sdiff_singleton_eq_self fun ⟨q, there, holding⟩ => had q there holding

end Interleaving
