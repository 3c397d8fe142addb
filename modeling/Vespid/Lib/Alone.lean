import Vespid.Lib.Program

/-!
# A program that runs alone

Where nothing else touches a store, a program is a function of it.
-/

namespace Interleaving

namespace Program
variable {I : Interface} {α β σ : Type}

/-- Each operation is performed on the store that the ones before have left. -/
def runAlone (perform : (op : I.Op) → σ → Option (I.Reply op × σ)) :
    Program I α → σ → Option (α × σ)
  | done value, store => some (value, store)
  | call op next, store =>
    (perform op store).bind fun answered => (next answered.1).runAlone perform answered.2

variable {perform : (op : I.Op) → σ → Option (I.Reply op × σ)} {store : σ}

@[simp] theorem runAlone_done (value : α) :
    (done value : Program I α).runAlone perform store = some (value, store) := rfl

theorem runAlone_call {op : I.Op} {next : I.Reply op → Program I α} {reply : I.Reply op}
    {after : σ} (performed : perform op store = some (reply, after)) :
    (call op next).runAlone perform store = (next reply).runAlone perform after := by
  rw [runAlone, performed]
  rfl

theorem runAlone_bind {p : Program I α} {f : α → Program I β} {value : α} {after : σ}
    (first : p.runAlone perform store = some (value, after)) :
    (p >>= f).runAlone perform store = (f value).runAlone perform after := by
  induction p generalizing store with
  | done _ =>
    cases first
    rfl
  | call op next ih =>
    rw [runAlone] at first
    obtain ⟨⟨reply, between⟩, performed, rest⟩ := Option.bind_eq_some_iff.mp first
    rw [call_bind, runAlone_call performed]
    exact ih reply rest

end Program

end Interleaving
