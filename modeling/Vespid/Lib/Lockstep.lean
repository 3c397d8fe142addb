import Vespid.Lib.Program

/-!
# Two programs under the same replies

Programs are compared by the events that are visible and by what they return. Events that
are not visible may be issued by either of them.
-/

namespace Interleaving.Program
variable {I : Interface} {α α' β β' ω : Type} {answer : (op : I.Op) → I.Reply op}
  {visible : Event I → Option ω}

theorem valueWith_bind (p : Program I α) (f : α → Program I β) :
    (p >>= f).valueWith answer = (f (p.valueWith answer)).valueWith answer := by
  induction p with
  | done value => rfl
  | call op next ih => exact ih (answer op)

variable (answer visible) in
/-- The visible events of a run. -/
def shown (p : Program I α) : List ω := (p.traceWith answer).filterMap visible

variable (answer visible) in
/-- The programs show the same, and what they return is related. -/
def Lockstep (R : α → α' → Prop) (p : Program I α) (q : Program I α') : Prop :=
  p.shown answer visible = q.shown answer visible ∧ R (p.valueWith answer) (q.valueWith answer)

theorem shown_bind (p : Program I α) (f : α → Program I β) :
    (p >>= f).shown answer visible =
      p.shown answer visible ++ (f (p.valueWith answer)).shown answer visible := by
  rw [shown, traceWith_bind, List.filterMap_append]
  rfl

theorem shown_call (op : I.Op) (next : I.Reply op → Program I α) :
    (call op next).shown answer visible =
      (visible ⟨op, answer op⟩).toList ++ (next (answer op)).shown answer visible := by
  simp only [shown, traceWith, List.filterMap_cons]
  cases visible ⟨op, answer op⟩ <;> rfl

namespace Lockstep
variable {R : α → α' → Prop} {S : β → β' → Prop} {p : Program I α} {q : Program I α'}

theorem done {a : α} {b : α'} (related : R a b) :
    Lockstep answer visible R (Program.done a : Program I α) (Program.done b) := ⟨rfl, related⟩

theorem bind {f : α → Program I β} {g : α' → Program I β'} (first : Lockstep answer visible R p q)
    (rest : ∀ a b, R a b → Lockstep answer visible S (f a) (g b)) :
    Lockstep answer visible S (p >>= f) (q >>= g) := by
  obtain ⟨shown, related⟩ := first
  obtain ⟨shown', related'⟩ := rest _ _ related
  refine ⟨?_, ?_⟩
  · rw [shown_bind, shown_bind, shown, shown']
  · rw [valueWith_bind, valueWith_bind]
    exact related'

theorem refl (p : Program I α) : Lockstep answer visible (fun a b => a = b) p p := ⟨rfl, rfl⟩

/-- Both issue an operation, and it shows the same. -/
theorem both {op op' : I.Op} {next : I.Reply op → Program I α} {next' : I.Reply op' → Program I α'}
    (same : visible ⟨op, answer op⟩ = visible ⟨op', answer op'⟩)
    (rest : Lockstep answer visible R (next (answer op)) (next' (answer op'))) :
    Lockstep answer visible R (call op next) (call op' next') := by
  refine ⟨?_, rest.2⟩
  rw [shown_call, shown_call, same, rest.1]

end Lockstep

/-- Nothing is shown where no operation is visible. -/
theorem shown_eq_nil {p : Program I α}
    (only : p.Only fun op => ∀ reply, visible ⟨op, reply⟩ = none) : p.shown answer visible = [] := by
  induction p with
  | done value => rfl
  | call op next ih =>
    rw [shown_call, only.1, ih _ (only.2 _)]
    rfl

end Interleaving.Program
