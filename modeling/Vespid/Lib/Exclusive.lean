import Mathlib.Logic.Function.Basic

/-!
# One holder at a time

A crew of handlers of which at most one holds something at a time. An invariant then has two
parts: what is true of the one that holds it, and what is true while none does. The rules
below say what is left to show when one member of the crew changes.
-/

namespace Interleaving
variable {κ : Type} {holds : κ → Prop} {hand hand' : κ → Prop} {free free' : Prop}
  {crew : Nat → Option κ} {id : Nat} {q q' : κ}

/-- Members that do not hold it. -/
def NoneHolds (holds : κ → Prop) (crew : Nat → Option κ) : Prop :=
  ∀ i q, crew i = some q → ¬holds q

/-- At most one member holds it, and then `hand` is true of it; otherwise `free` is true. -/
structure Exclusive (holds hand : κ → Prop) (free : Prop) (crew : Nat → Option κ) : Prop where
  held : ∀ i q, crew i = some q → holds q → hand q
  single : ∀ i j q r, crew i = some q → crew j = some r → holds q → holds r → i = j
  unheld : NoneHolds holds crew → free

/-- A member after one of them has changed. -/
theorem update_cases {new : Option κ} {i : Nat} {r : κ}
    (here : Function.update crew id new i = some r) :
    (i = id ∧ new = some r) ∨ (i ≠ id ∧ crew i = some r) := by
  by_cases same : i = id
  · subst same
    exact .inl ⟨rfl, by simpa using here⟩
  · exact .inr ⟨same, by rwa [Function.update_of_ne same] at here⟩

namespace Exclusive

/-- Nobody else holds what member `id` holds. -/
theorem others (inv : Exclusive holds hand free crew) (here : crew id = some q) (has : holds q) :
    ∀ i r, i ≠ id → crew i = some r → ¬holds r :=
  fun i r other there too => other (inv.single i id r q there here too has)

theorem take_of_others (others : ∀ i r, i ≠ id → crew i = some r → ¬holds r) (has : holds q')
    (now : hand' q') : Exclusive holds hand' free' (Function.update crew id (some q')) := by
  have only (i : Nat) (r : κ) (there : Function.update crew id (some q') i = some r)
      (too : holds r) : i = id ∧ r = q' := by
    rcases update_cases there with ⟨same, new⟩ | ⟨other, there⟩
    · exact ⟨same, (Option.some.inj new).symm⟩
    · exact (others i r other there too).elim
  refine ⟨fun i r there too => ?_, fun i j r r' there there' too too' => ?_, fun nobody => ?_⟩
  · rw [(only i r there too).2]
    exact now
  · rw [(only i r there too).1, (only j r' there' too').1]
  · exact (nobody id q' (Function.update_self ..) has).elim

/-- The holder goes on holding it. -/
theorem pass (inv : Exclusive holds hand free crew) (here : crew id = some q) (had : holds q)
    (has : holds q') (now : hand' q') :
    Exclusive holds hand' free' (Function.update crew id (some q')) :=
  take_of_others (inv.others here had) has now

/-- A member takes it while nobody holds it. -/
theorem take (nobody : NoneHolds holds crew) (has : holds q') (now : hand' q') :
    Exclusive holds hand' free' (Function.update crew id (some q')) :=
  take_of_others (fun i r _ there => nobody i r there) has now

/-- The holder lets go of it. -/
theorem release (inv : Exclusive holds hand free crew) (here : crew id = some q) (had : holds q)
    {new : Option κ} (lets : ∀ r, new = some r → ¬holds r) (now : free') :
    Exclusive holds hand' free' (Function.update crew id new) := by
  have nobody : NoneHolds holds (Function.update crew id new) := by
    intro i r there
    rcases update_cases there with ⟨-, same⟩ | ⟨other, there⟩
    · exact lets r same
    · exact inv.others here had i r other there
  exact ⟨fun i r there too => (nobody i r there too).elim,
    fun i _ r _ there _ too _ => (nobody i r there too).elim, fun _ => now⟩

/-- A member that does not hold it changes. -/
theorem stand (inv : Exclusive holds hand free crew) (idle : ∀ r, crew id = some r → ¬holds r)
    {new : Option κ} (still : ∀ r, new = some r → ¬holds r) (kept : ∀ q, hand q → hand' q)
    (freed : NoneHolds holds crew → free → free') :
    Exclusive holds hand' free' (Function.update crew id new) := by
  have before (i : Nat) (r : κ) (there : Function.update crew id new i = some r) (too : holds r) :
      crew i = some r := by
    rcases update_cases there with ⟨-, same⟩ | ⟨-, there⟩
    · exact (still r same too).elim
    · exact there
  refine ⟨fun i r there too => kept r (inv.held i r (before i r there too) too),
    fun i j r r' there there' too too' =>
      inv.single i j r r' (before i r there too) (before j r' there' too') too too', fun nobody => ?_⟩
  have free : NoneHolds holds crew := by
    intro i r there
    by_cases same : i = id
    · subst same
      exact idle r there
    · exact nobody i r (by rwa [Function.update_of_ne same])
  exact freed free (inv.unheld free)

end Exclusive

end Interleaving
