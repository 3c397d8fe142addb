/-!
# Histories of events

A machine takes one event after another; an event it refuses leaves its state as it is.
-/

namespace History
variable {σ ε : Type}

/-- The states that histories lead to whose events all meet `C`, a condition on the state before
the event and the event. -/
inductive Reached (step : σ → ε → σ) (C : σ → ε → Prop) (start : σ) : σ → Prop where
  | start : Reached step C start start
  | next {s : σ} (before : Reached step C start s) (e : ε) (meets : C s e) :
      Reached step C start (step s e)

variable {step : σ → ε → σ} {C : σ → ε → Prop} {start s : σ}

/-- What every event that meets `C` keeps holds of every state reached. -/
theorem Reached.invariant (Inv : σ → Prop) (kept : ∀ s e, Inv s → C s e → Inv (step s e))
    (first : Inv start) (reached : Reached step C start s) : Inv s := by
  induction reached with
  | start => exact first
  | next _ e meets ih => exact kept _ e ih meets

theorem Reached.mono {D : σ → ε → Prop} (weaker : ∀ s e, C s e → D s e)
    (reached : Reached step C start s) : Reached step D start s := by
  induction reached with
  | start => exact .start
  | next _ e meets ih => exact ih.next e (weaker _ _ meets)

theorem Reached.trans {t : σ} (first : Reached step C start s) (rest : Reached step C s t) :
    Reached step C start t := by
  induction rest with
  | start => exact first
  | next _ e meets ih => exact ih.next e meets

/-- Take the events in order, as long as each meets `C`. -/
def run (step : σ → ε → σ) (C : σ → ε → Prop) [∀ s e, Decidable (C s e)] (s : σ) :
    List ε → Option σ
  | [] => some s
  | e :: rest => if C s e then run step C (step s e) rest else none

theorem reached_of_run [∀ s e, Decidable (C s e)] {events : List ε} {t : σ}
    (ran : run step C s events = some t) : Reached step C s t := by
  induction events generalizing s with
  | nil =>
    obtain rfl := Option.some.inj ran
    exact .start
  | cons e rest ih =>
    rw [run] at ran
    split at ran
    · next meets =>
      have first : Reached step C s (step s e) := Reached.start.next e meets
      exact first.trans (ih ran)
    · cases ran

/-- The states two histories lead to that differ in hidden events, and in what `Same` leaves open
in the others. -/
inductive Alike (step : σ → ε → σ) (C : σ → ε → Prop) (hidden : ε → Prop) (Same : ε → ε → Prop)
    (start : σ) : σ → σ → Prop where
  | start : Alike step C hidden Same start start start
  | both {s t : σ} {e f : ε} (before : Alike step C hidden Same start s t) (meets : C s e)
      (meets' : C t f) (same : Same e f) : Alike step C hidden Same start (step s e) (step t f)
  | left {s t : σ} {e : ε} (before : Alike step C hidden Same start s t) (meets : C s e)
      (hides : hidden e) : Alike step C hidden Same start (step s e) t
  | right {s t : σ} {e : ε} (before : Alike step C hidden Same start s t) (meets : C t e)
      (hides : hidden e) : Alike step C hidden Same start s (step t e)

/-- Two histories look alike if no hidden event changes what is seen and the others change it
alike. -/
theorem Alike.invariant {hidden : ε → Prop} {Same : ε → ε → Prop} {t : σ} (Low : σ → σ → Prop)
    (symm : ∀ s t, Low s t → Low t s)
    (unseen : ∀ s t e, Low s t → C s e → hidden e → Low (step s e) t)
    (seen : ∀ s t e f, Low s t → C s e → C t f → Same e f → Low (step s e) (step t f))
    (first : Low start start) (alike : Alike step C hidden Same start s t) : Low s t := by
  induction alike with
  | start => exact first
  | both _ meets meets' same ih => exact seen _ _ _ _ ih meets meets' same
  | left _ meets hides ih => exact unseen _ _ _ ih meets hides
  | right _ meets hides ih => exact symm _ _ (unseen _ _ _ (symm _ _ ih) meets hides)

end History
