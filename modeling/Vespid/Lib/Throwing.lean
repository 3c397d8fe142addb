import Vespid.Lib.Program

/-!
# Programs that may throw

A program whose operations can fail is a program that returns its value or what was thrown.
The rules below follow `do` blocks, `try` with `catch`, and operations that never throw.
-/

namespace Interleaving

/-- Programs that return a value or throw. -/
abbrev Throwing (I : Interface) (ε α : Type) := ExceptT ε (Program I) α

namespace Throwing
variable {I : Interface} {ε δ α β Γ : Type} {P : Protocol I Γ}

/-- What holds of a value that is returned, and of an error that is thrown. -/
def Ends (ok : α → Γ → Prop) (thrown : ε → Γ → Prop) : Except ε α → Γ → Prop
  | .ok value, g => ok value g
  | .error error, g => thrown error g

@[simp] theorem ends_ok (ok : α → Γ → Prop) (thrown : ε → Γ → Prop) (value : α) (g : Γ) :
    Ends ok thrown (.ok value) g ↔ ok value g := Iff.rfl

@[simp] theorem ends_error (ok : α → Γ → Prop) (thrown : ε → Γ → Prop) (error : ε) (g : Γ) :
    Ends ok thrown (.error error) g ↔ thrown error g := Iff.rfl

/-- `wp` of a program that may throw. -/
def wp (P : Protocol I Γ) (ok : α → Γ → Prop) (thrown : ε → Γ → Prop) (p : Throwing I ε α)
    (g : Γ) : Prop :=
  Program.wp P (Ends ok thrown) p.run g

variable {ok : β → Γ → Prop} {thrown : ε → Γ → Prop} {g : Γ}

theorem wp_mono {ok' : β → Γ → Prop} {thrown' : ε → Γ → Prop} {p : Throwing I ε β}
    (returns : ∀ value g, ok value g → ok' value g)
    (throws : ∀ error g, thrown error g → thrown' error g) (holds : p.wp P ok thrown g) :
    p.wp P ok' thrown' g := by
  refine Program.wp_mono (fun result g held => ?_) holds
  cases result with
  | ok value => exact returns value g held
  | error error => exact throws error g held

theorem wp_pure {value : β} (holds : ok value g) :
    (pure value : Throwing I ε β).wp P ok thrown g := holds

theorem wp_throw {error : ε} (holds : thrown error g) :
    (throw error : Throwing I ε β).wp P ok thrown g := holds

theorem wp_bind {p : Throwing I ε α} {f : α → Throwing I ε β} {Q : α → Γ → Prop}
    (first : p.wp P Q thrown g) (rest : ∀ value g', Q value g' → (f value).wp P ok thrown g') :
    (p >>= f).wp P ok thrown g := by
  refine Program.wp_seq first fun result g' held => ?_
  cases result with
  | ok value => exact rest value g' held
  | error error => exact held

theorem wp_tryCatch {p : Throwing I ε β} {handle : ε → Throwing I ε β} {Q : ε → Γ → Prop}
    (body : p.wp P ok Q g) (caught : ∀ error g', Q error g' → (handle error).wp P ok thrown g') :
    (tryCatch p handle).wp P ok thrown g := by
  refine Program.wp_seq body fun result g' held => ?_
  cases result with
  | ok value => exact held
  | error error => exact caught error g' held

/-- A program whose result is looked at throws nothing. -/
theorem wp_observe {p : Throwing I δ α} {f : Except δ α → Throwing I ε β} {Q : α → Γ → Prop}
    {failed : δ → Γ → Prop} (body : p.wp P Q failed g)
    (returned : ∀ value g', Q value g' → (f (.ok value)).wp P ok thrown g')
    (threw : ∀ error g', failed error g' → (f (.error error)).wp P ok thrown g') :
    (ExceptT.lift p.run >>= f : Throwing I ε β).wp P ok thrown g := by
  refine wp_bind (Q := Ends Q failed) ?_ fun result g' held => ?_
  · refine Program.wp_seq body fun result g' held => ?_
    exact held
  · cases result with
    | ok value => exact returned value g' held
    | error error => exact threw error g' held

end Throwing

end Interleaving
