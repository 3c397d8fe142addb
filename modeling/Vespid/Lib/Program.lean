/-!
# Programs over an interface

A program either has finished with a value or waits for the reply to one operation. A
handler written as such a program can be interleaved with others between any two of its
operations, and run alone against a fixed environment. `wp` is the weakest precondition
with respect to a protocol, the ghost automaton that follows the operations a program has
issued and their replies.
-/

namespace Interleaving

/-- The operations a program can issue, each with the type of its reply. -/
structure Interface where
  Op : Type
  Reply : Op → Type

/-- A finished value, or one operation and what follows each of its replies. -/
inductive Program (I : Interface) (α : Type) where
  | done (value : α)
  | call (op : I.Op) (next : I.Reply op → Program I α)

/-- One operation and its reply. -/
structure Event (I : Interface) where
  op : I.Op
  reply : I.Reply op

namespace Program
variable {I : Interface} {α β γ : Type}

def bind : Program I α → (α → Program I β) → Program I β
  | done value, f => f value
  | call op next, f => call op fun reply => (next reply).bind f

instance : Monad (Program I) where
  pure := done
  bind := bind

/-- Issue one operation and return its reply. -/
def issue (op : I.Op) : Program I (I.Reply op) := call op done

@[simp] theorem pure_def (value : α) : (pure value : Program I α) = done value := rfl

@[simp] theorem done_bind (value : α) (f : α → Program I β) : done value >>= f = f value := rfl

@[simp] theorem call_bind (op : I.Op) (next : I.Reply op → Program I α) (f : α → Program I β) :
    call op next >>= f = call op fun reply => next reply >>= f := rfl

@[simp] theorem issue_eq (op : I.Op) : issue op = call op done := rfl

@[simp] theorem map_done (f : α → β) (value : α) :
    f <$> (done value : Program I α) = done (f value) := rfl

@[simp] theorem map_call (f : α → β) (op : I.Op) (next : I.Reply op → Program I α) :
    f <$> call op next = call op fun reply => f <$> next reply := rfl

end Program

/-- A ghost automaton over operations: what may be issued, which replies are possible, and
what the issuer knows after a reply. -/
structure Protocol (I : Interface) (Γ : Type) where
  permits : Γ → I.Op → Prop
  expects : (op : I.Op) → I.Reply op → Prop
  observe : Γ → (op : I.Op) → I.Reply op → Γ

namespace Program
variable {I : Interface} {α β Γ : Type}

/-- Every operation is permitted where it is issued, and a finished value satisfies `post`. -/
def wp (P : Protocol I Γ) (post : α → Γ → Prop) : Program I α → Γ → Prop
  | done value, g => post value g
  | call op next, g =>
    P.permits g op ∧ ∀ reply, P.expects op reply → (next reply).wp P post (P.observe g op reply)

variable {P : Protocol I Γ}

@[simp] theorem wp_done (post : α → Γ → Prop) (value : α) (g : Γ) :
    (done value : Program I α).wp P post g ↔ post value g := Iff.rfl

@[simp] theorem wp_call (post : α → Γ → Prop) (op : I.Op) (next : I.Reply op → Program I α) (g : Γ) :
    (call op next).wp P post g ↔
      P.permits g op ∧ ∀ reply, P.expects op reply → (next reply).wp P post (P.observe g op reply) :=
  Iff.rfl

theorem wp_mono {post post' : α → Γ → Prop} (weaker : ∀ value g, post value g → post' value g)
    {p : Program I α} {g : Γ} (holds : p.wp P post g) : p.wp P post' g := by
  induction p generalizing g with
  | done value => exact weaker value g holds
  | call op next ih =>
    exact ⟨holds.1, fun reply possible => ih reply (holds.2 reply possible)⟩

theorem wp_bind (post : β → Γ → Prop) (p : Program I α) (f : α → Program I β) (g : Γ) :
    (p >>= f).wp P post g ↔ p.wp P (fun value g' => (f value).wp P post g') g := by
  induction p generalizing g with
  | done value => rfl
  | call op next ih =>
    simp only [call_bind, wp_call]
    exact and_congr_right fun _ => forall_congr' fun reply => imp_congr_right fun _ => ih reply _

/-- Sequencing through an intermediate assertion. -/
theorem wp_seq {mid : α → Γ → Prop} {post : β → Γ → Prop} {p : Program I α} {f : α → Program I β}
    {g : Γ} (first : p.wp P mid g) (rest : ∀ value g', mid value g' → (f value).wp P post g') :
    (p >>= f).wp P post g :=
  (wp_bind post p f g).mpr (wp_mono rest first)

/-! ### Programs over another interface -/

/-- Carry out each operation by a program over another interface. -/
def interpret {J : Interface} (handle : (op : I.Op) → Program J (I.Reply op)) :
    Program I α → Program J α
  | done value => done value
  | call op next => handle op >>= fun reply => (next reply).interpret handle

/-- Interpretation by handlers that keep the views of two protocols related. -/
theorem wp_interpret {J : Interface} {Δ : Type} {Q : Protocol J Δ} (related : Γ → Δ → Prop)
    {handle : (op : I.Op) → Program J (I.Reply op)}
    (handles : ∀ g h op, related g h → P.permits g op → (handle op).wp Q
      (fun reply h' => P.expects op reply ∧ related (P.observe g op reply) h') h)
    {post : α → Γ → Prop} {p : Program I α} {g : Γ} {h : Δ} (start : related g h)
    (follows : p.wp P post g) :
    (p.interpret handle).wp Q (fun value h' => ∃ g', related g' h' ∧ post value g') h := by
  induction p generalizing g h with
  | done value => exact ⟨g, start, follows⟩
  | call op next ih =>
    refine wp_seq (handles g h op start follows.1) ?_
    rintro reply h' ⟨expected, kept⟩
    exact ih reply kept (follows.2 reply expected)

/-! ### Programs confined to some operations -/

/-- Whatever the replies, only allowed operations are issued. -/
def Only (allowed : I.Op → Prop) : Program I α → Prop
  | done _ => True
  | call op next => allowed op ∧ ∀ reply, (next reply).Only allowed

variable {allowed : I.Op → Prop}

@[simp] theorem only_done (value : α) : (done value : Program I α).Only allowed := trivial

@[simp] theorem only_call (op : I.Op) (next : I.Reply op → Program I α) :
    (call op next).Only allowed ↔ allowed op ∧ ∀ reply, (next reply).Only allowed := Iff.rfl

theorem only_bind {p : Program I α} {f : α → Program I β} (first : p.Only allowed)
    (rest : ∀ value, (f value).Only allowed) : (p >>= f).Only allowed := by
  induction p with
  | done value => exact rest value
  | call op next ih => exact ⟨first.1, fun reply => ih reply (first.2 reply)⟩

theorem only_mono {wider : I.Op → Prop} (wide : ∀ op, allowed op → wider op) {p : Program I α}
    (only : p.Only allowed) : p.Only wider := by
  induction p with
  | done value => trivial
  | call op next ih => exact ⟨wide op only.1, fun reply => ih reply (only.2 reply)⟩

/-- A view that permits the allowed operations and survives them lasts to the end. -/
theorem wp_of_only (keeps : Γ → Prop) {p : Program I α} {g : Γ} (only : p.Only allowed)
    (permits : ∀ g op, keeps g → allowed op → P.permits g op)
    (kept : ∀ g op reply, keeps g → allowed op → keeps (P.observe g op reply)) (start : keeps g) :
    p.wp P (fun _ g => keeps g) g := by
  induction p generalizing g with
  | done value => exact start
  | call op next ih =>
    exact ⟨permits g op start only.1, fun reply _ =>
      ih reply (only.2 reply) (kept g op reply start only.1)⟩

/-! ### Finished runs -/

/-- The program issues the operations of `trace`, gets its replies and returns `value`. -/
def Runs : Program I α → List (Event I) → α → Prop
  | done v, trace, value => trace = [] ∧ v = value
  | call op next, trace, value =>
    ∃ reply rest, trace = ⟨op, reply⟩ :: rest ∧ (next reply).Runs rest value

/-- Whatever the replies `answers` admits, the value returned satisfies `post`. -/
def Returns (answers : (op : I.Op) → I.Reply op → Prop) (post : α → Prop) : Program I α → Prop
  | done value => post value
  | call op next => ∀ reply, answers op reply → (next reply).Returns answers post

variable {answers : (op : I.Op) → I.Reply op → Prop}

@[simp] theorem returns_done (post : α → Prop) (value : α) :
    (done value : Program I α).Returns answers post ↔ post value := Iff.rfl

@[simp] theorem returns_call (post : α → Prop) (op : I.Op) (next : I.Reply op → Program I α) :
    (call op next).Returns answers post ↔
      ∀ reply, answers op reply → (next reply).Returns answers post := Iff.rfl

theorem returns_bind {mid : α → Prop} {post : β → Prop} {p : Program I α} {f : α → Program I β}
    (first : p.Returns answers mid) (rest : ∀ value, mid value → (f value).Returns answers post) :
    (p >>= f).Returns answers post := by
  induction p with
  | done value => exact rest value first
  | call op next ih =>
    intro reply answered
    exact ih reply (first reply answered)

theorem returns_true (p : Program I α) : p.Returns answers fun _ => True := by
  induction p with
  | done value => trivial
  | call op next ih => exact fun reply _ => ih reply

theorem Runs.returns {post : α → Prop} {p : Program I α} {trace : List (Event I)} {value : α}
    (run : p.Runs trace value) (returns : p.Returns answers post)
    (answered : ∀ event ∈ trace, answers event.op event.reply) : post value := by
  induction p generalizing trace with
  | done v =>
    obtain ⟨-, rfl⟩ := run
    exact returns
  | call op next ih =>
    obtain ⟨reply, rest, rfl, run⟩ := run
    exact ih reply run (returns reply (answered _ List.mem_cons_self))
      fun event mem => answered event (List.mem_cons_of_mem _ mem)

theorem Runs.only {p : Program I α} {trace : List (Event I)} {value : α} (run : p.Runs trace value)
    (only : p.Only allowed) : ∀ event ∈ trace, allowed event.op := by
  induction p generalizing trace with
  | done v =>
    obtain ⟨rfl, -⟩ := run
    intro event mem
    cases mem
  | call op next ih =>
    obtain ⟨reply, rest, rfl, run⟩ := run
    intro event mem
    rcases List.mem_cons.mp mem with rfl | later
    · exact only.1
    · exact ih reply run (only.2 reply) event later

/-- Where replies are as `answers` admits, only allowed operations are issued. -/
def Asks (answers : (op : I.Op) → I.Reply op → Prop) (allowed : I.Op → Prop) : Program I α → Prop
  | done _ => True
  | call op next => allowed op ∧ ∀ reply, answers op reply → (next reply).Asks answers allowed

@[simp] theorem asks_call (op : I.Op) (next : I.Reply op → Program I α) :
    (call op next).Asks answers allowed ↔
      allowed op ∧ ∀ reply, answers op reply → (next reply).Asks answers allowed := Iff.rfl

theorem Runs.asks {p : Program I α} {trace : List (Event I)} {value : α} (run : p.Runs trace value)
    (asks : p.Asks answers allowed) (answered : ∀ event ∈ trace, answers event.op event.reply) :
    ∀ event ∈ trace, allowed event.op := by
  induction p generalizing trace with
  | done v =>
    obtain ⟨rfl, -⟩ := run
    intro event mem
    cases mem
  | call op next ih =>
    obtain ⟨reply, rest, rfl, run⟩ := run
    intro event mem
    rcases List.mem_cons.mp mem with rfl | later
    · exact asks.1
    · exact ih reply run (asks.2 reply (answered _ List.mem_cons_self))
        (fun event mem => answered event (List.mem_cons_of_mem _ mem)) event later

/-! ### Fixed replies -/

/-- The events of a run in which every operation has its own reply. -/
def traceWith (answer : (op : I.Op) → I.Reply op) : Program I α → List (Event I)
  | done _ => []
  | call op next => ⟨op, answer op⟩ :: (next (answer op)).traceWith answer

/-- What it returns. -/
def valueWith (answer : (op : I.Op) → I.Reply op) : Program I α → α
  | done value => value
  | call op next => (next (answer op)).valueWith answer

theorem runs_with (answer : (op : I.Op) → I.Reply op) (p : Program I α) :
    p.Runs (p.traceWith answer) (p.valueWith answer) := by
  induction p with
  | done value => exact ⟨rfl, rfl⟩
  | call op next ih => exact ⟨answer op, _, rfl, ih (answer op)⟩

theorem traceWith_bind (answer : (op : I.Op) → I.Reply op) (p : Program I α)
    (f : α → Program I β) : (p >>= f).traceWith answer =
      p.traceWith answer ++ (f (p.valueWith answer)).traceWith answer := by
  induction p with
  | done value => rfl
  | call op next ih =>
    simp only [call_bind, traceWith, valueWith, List.cons_append, ih]

theorem eq_of_mem_traceWith {answer : (op : I.Op) → I.Reply op} {p : Program I α} {event : Event I}
    (mem : event ∈ p.traceWith answer) : event = ⟨event.op, answer event.op⟩ := by
  induction p with
  | done value => cases mem
  | call op next ih =>
    rcases List.mem_cons.mp mem with rfl | later
    · rfl
    · exact ih _ later

end Program

end Interleaving
