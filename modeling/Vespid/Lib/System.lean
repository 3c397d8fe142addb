import Vespid.Lib.Program
import Mathlib.Logic.Function.Basic

/-!
# Systems of interleaved handlers

A system runs any number of handlers over one store. A launch starts a handler, which then
issues one operation per step; between two operations of one handler, the others and the
environment may step. A handler that loops yields its loop state and continues with the body
of the loop; a handler that ends reports its outcome to the store.
-/

namespace Interleaving

/-- What is needed to run handlers over `I`: the store, how operations and the environment
change it, and the programs of the handlers. -/
structure System (I : Interface) where
  Store : Type
  Launch : Type
  Loop : Type
  Outcome : Type
  Choice : Type
  Tick : Type
  perform : (op : I.Op) → Store → Choice → Option (I.Reply op × Store)
  launch : Launch → Store → Option Store
  entry : Launch → Program I (Loop ⊕ Outcome)
  body : Launch → Loop → Program I (Loop ⊕ Outcome)
  finish : Launch → Outcome → Store → Store
  tick : Tick → Store → Option Store

namespace System
variable {I : Interface}

/-- A running handler: why it was started, what it did so far and what is left. -/
structure Process (S : System I) where
  launch : S.Launch
  history : List (Event I)
  program : Program I (S.Loop ⊕ S.Outcome)

structure State (S : System I) where
  store : S.Store
  process : Nat → Option S.Process

inductive Action (S : System I) where
  | launch (id : Nat) (l : S.Launch)
  | call (id : Nat) (choice : S.Choice)
  | loop (id : Nat)
  | finish (id : Nat)
  | tick (t : S.Tick)

variable {S : System I}

def State.update (s : S.State) (store : S.Store) (id : Nat) (p : Option S.Process) : S.State :=
  { store, process := fun i => if i = id then p else s.process i }

@[simp] theorem State.update_store (s : S.State) (store : S.Store) (id : Nat) (p : Option S.Process) :
    (s.update store id p).store = store := rfl

@[simp] theorem State.update_process_self (s : S.State) (store : S.Store) (id : Nat)
    (p : Option S.Process) : (s.update store id p).process id = p := by simp [State.update]

theorem State.update_process_other (s : S.State) (store : S.Store) {id i : Nat}
    (p : Option S.Process) (different : i ≠ id) : (s.update store id p).process i = s.process i := by
  simp [State.update, different]

/-- One step of handler `id`. -/
def Process.step (p : S.Process) (s : S.State) (id : Nat) (choice : S.Choice) : Option S.State :=
  match p.program with
  | .done _ => none
  | .call op next => (S.perform op s.store choice).map fun result =>
      s.update result.2 id (some { p with
        history := p.history ++ [⟨op, result.1⟩], program := next result.1 })

def step (s : S.State) : S.Action → Option S.State
  | .launch id l =>
    match s.process id with
    | some _ => none
    | none => (S.launch l s.store).map fun store =>
        s.update store id (some { launch := l, history := [], program := S.entry l })
  | .call id choice => (s.process id).bind fun p => p.step s id choice
  | .loop id =>
    match s.process id with
    | some { launch := l, history, program := .done (.inl loop) } =>
      some (s.update s.store id (some { launch := l, history, program := S.body l loop }))
    | _ => none
  | .finish id =>
    match s.process id with
    | some { launch := l, program := .done (.inr outcome), .. } =>
      some (s.update (S.finish l outcome s.store) id none)
    | _ => none
  | .tick t => (S.tick t s.store).map fun store => { s with store }

/-- Everything one step can do. -/
inductive Stepped (s : S.State) : S.Action → S.State → Prop where
  | launch {id : Nat} {l : S.Launch} {store : S.Store} (free : s.process id = none)
      (launched : S.launch l s.store = some store) :
      Stepped s (.launch id l)
        (s.update store id (some { launch := l, history := [], program := S.entry l }))
  | call {id : Nat} {choice : S.Choice} {l : S.Launch} {history : List (Event I)} {op : I.Op}
      {next : I.Reply op → Program I (S.Loop ⊕ S.Outcome)} {reply : I.Reply op} {store : S.Store}
      (here : s.process id = some { launch := l, history, program := .call op next })
      (performed : S.perform op s.store choice = some (reply, store)) :
      Stepped s (.call id choice) (s.update store id (some {
        launch := l, history := history ++ [⟨op, reply⟩], program := next reply }))
  | loop {id : Nat} {l : S.Launch} {history : List (Event I)} {loop : S.Loop}
      (here : s.process id = some { launch := l, history, program := .done (.inl loop) }) :
      Stepped s (.loop id)
        (s.update s.store id (some { launch := l, history, program := S.body l loop }))
  | finish {id : Nat} {l : S.Launch} {history : List (Event I)} {outcome : S.Outcome}
      (here : s.process id = some { launch := l, history, program := .done (.inr outcome) }) :
      Stepped s (.finish id) (s.update (S.finish l outcome s.store) id none)
  | tick {t : S.Tick} {store : S.Store} (ticked : S.tick t s.store = some store) :
      Stepped s (.tick t) { s with store }

theorem step_cases {s s' : S.State} {a : S.Action} (h : step s a = some s') : Stepped s a s' := by
  cases a with
  | launch id l =>
    simp only [step] at h
    split at h
    · cases h
    · obtain ⟨store, launched, rfl⟩ := Option.map_eq_some_iff.mp h
      exact .launch ‹_› launched
  | call id choice =>
    obtain ⟨⟨l, history, program⟩, here, h⟩ := Option.bind_eq_some_iff.mp h
    cases program with
    | done value => cases h
    | call op next =>
      obtain ⟨⟨reply, store⟩, performed, rfl⟩ := Option.map_eq_some_iff.mp h
      exact .call here performed
  | loop id =>
    simp only [step] at h
    split at h
    · cases h
      exact .loop ‹_›
    · cases h
  | finish id =>
    simp only [step] at h
    split at h
    · cases h
      exact .finish ‹_›
    · cases h
  | tick t =>
    obtain ⟨store, ticked, rfl⟩ := Option.map_eq_some_iff.mp h
    exact .tick ticked

/-- Runs from `s` whose steps all meet `C`, a condition on the state before the step and the
action taken. -/
inductive Steps (C : S.State → S.Action → Prop) (s : S.State) : S.State → Prop where
  | refl : Steps C s s
  | tail {t u : S.State} {a : S.Action} (run : Steps C s t) (meets : C t a)
      (stepped : step t a = some u) : Steps C s u

variable {C : S.State → S.Action → Prop} {s t u : S.State}

theorem Steps.trans (first : Steps C s t) (rest : Steps C t u) : Steps C s u := by
  induction rest with
  | refl => exact first
  | tail _ meets stepped ih => exact ih.tail meets stepped

theorem Steps.mono {D : S.State → S.Action → Prop} (weaker : ∀ t a, C t a → D t a)
    (run : Steps C s t) : Steps D s t := by
  induction run with
  | refl => exact .refl
  | tail _ meets stepped ih => exact ih.tail (weaker _ _ meets) stepped

/-- What every step that meets `C` keeps holds at the end of every run. -/
theorem Steps.invariant (Inv : S.State → Prop)
    (kept : ∀ t a u, Inv t → C t a → Stepped t a u → Inv u) (start : Inv s)
    (run : Steps C s t) : Inv t := by
  induction run with
  | refl => exact start
  | tail _ meets stepped ih => exact kept _ _ _ ih meets (step_cases stepped)

/-- Take the listed actions in order, as long as each is taken where `C` holds. -/
def exec (C : S.State → S.Action → Prop) [∀ s a, Decidable (C s a)] (s : S.State) :
    List S.Action → Option S.State
  | [] => some s
  | a :: rest => if C s a then (step s a).bind fun t => exec C t rest else none

theorem steps_of_exec [∀ s a, Decidable (C s a)] {actions : List S.Action}
    (h : exec C s actions = some t) : Steps C s t := by
  induction actions generalizing s with
  | nil =>
    obtain rfl := Option.some.inj h
    exact .refl
  | cons a rest ih =>
    rw [exec] at h
    split at h
    · obtain ⟨u, stepped, h⟩ := Option.bind_eq_some_iff.mp h
      exact (Steps.refl.tail ‹_› stepped).trans (ih h)
    · cases h

/-- The handler an action is about. -/
def Action.handler : S.Action → Option Nat
  | launch id _ | call id _ | loop id | finish id => some id
  | tick _ => none

theorem step_process_other {a : S.Action} {id : Nat} (other : a.handler ≠ some id)
    (h : step s a = some t) : t.process id = s.process id := by
  cases step_cases h with
  | tick => rfl
  | _ => exact State.update_process_other _ _ _ (by rintro rfl; exact other rfl)

theorem exec_process_other [∀ s a, Decidable (C s a)] {actions : List S.Action} {id : Nat}
    (other : ∀ a ∈ actions, a.handler ≠ some id) (h : exec C s actions = some t) :
    t.process id = s.process id := by
  induction actions generalizing s with
  | nil => rw [Option.some.inj h]
  | cons a rest ih =>
    rw [exec] at h
    split at h
    · obtain ⟨u, stepped, h⟩ := Option.bind_eq_some_iff.mp h
      rw [ih (fun b mem => other b (List.mem_cons_of_mem _ mem)) h,
        step_process_other (other a List.mem_cons_self) stepped]
    · cases h

/-- Where the listed actions are about the first `n` handlers only, no other one runs. -/
theorem idle_of_exec [∀ s a, Decidable (C s a)] {actions : List S.Action} (n : Nat)
    (idle : ∀ id, s.process id = none) (below : ∀ a ∈ actions, ∀ id ∈ a.handler, id < n)
    (h : exec C s actions = some t) (ended : ∀ id < n, (t.process id).isNone) :
    ∀ id, t.process id = none := by
  intro id
  by_cases small : id < n
  · simpa using ended id small
  · rw [exec_process_other _ h, idle id]
    intro a mem same
    exact small (below a mem id (by simp [same]))

/-- Runs of the first `n` handlers, where what holds while no other one runs is enough. -/
theorem Steps.of_first {D : S.State → S.Action → Prop} {n : Nat}
    (idle : ∀ id, n ≤ id → s.process id = none)
    (weaker : ∀ t a, (∀ id, n ≤ id → t.process id = none) → D t a → C t a)
    (run : Steps (fun t a => (∀ id ∈ a.handler, id < n) ∧ D t a) s t) :
    Steps C s t ∧ ∀ id, n ≤ id → t.process id = none := by
  induction run with
  | refl => exact ⟨.refl, idle⟩
  | @tail t u a _ meets stepped ih =>
    refine ⟨ih.1.tail (weaker t a ih.2 meets.2) stepped, fun id large => ?_⟩
    rw [step_process_other _ stepped, ih.2 id large]
    intro same
    have small := meets.1 id (by simp [same])
    omega

/-! ### A program on its own -/

/-- Run a program with no other handler between its operations; `oracle` makes the choices. -/
def alone {α : Type} (S : System I) (oracle : I.Op → S.Choice) :
    Program I α → S.Store → Option (List (Event I) × α × S.Store)
  | .done value, st => some ([], value, st)
  | .call op next, st =>
    (S.perform op st (oracle op)).bind fun result =>
      (alone S oracle (next result.1) result.2).map fun rest =>
        (⟨op, result.1⟩ :: rest.1, rest.2)

theorem runs_of_alone {α : Type} {oracle : I.Op → S.Choice} {p : Program I α} {st st' : S.Store}
    {trace : List (Event I)} {value : α} (h : alone S oracle p st = some (trace, value, st')) :
    p.Runs trace value := by
  induction p generalizing st trace with
  | done v =>
    obtain ⟨rfl, rest⟩ := Prod.mk.inj (Option.some.inj h)
    obtain ⟨rfl, rfl⟩ := Prod.mk.inj rest
    exact ⟨rfl, rfl⟩
  | call op next ih =>
    obtain ⟨result, -, h⟩ := Option.bind_eq_some_iff.mp h
    obtain ⟨⟨rest, last⟩, run, same⟩ := Option.map_eq_some_iff.mp h
    obtain ⟨rfl, rfl⟩ := Prod.mk.inj same
    exact ⟨result.1, rest, rfl, ih _ run⟩

end System

end Interleaving
