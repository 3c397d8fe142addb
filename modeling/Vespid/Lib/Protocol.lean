import Mathlib.Data.List.Induction
import Vespid.Lib.System

/-!
# Handlers that follow a protocol

When every program of a system's handlers follows a protocol, each running handler's
remaining program does so from what its history taught it. Invariants of the whole system
are then proved about operations and views, without looking at the programs again.
-/

namespace Interleaving
variable {I : Interface} {Γ : Type}

/-- What an issuer knows after `history`. -/
def Protocol.after (P : Protocol I Γ) (g : Γ) (history : List (Event I)) : Γ :=
  history.foldl (fun g event => P.observe g event.op event.reply) g

variable {P : Protocol I Γ} {S : System I}

@[simp] theorem Protocol.after_nil (g : Γ) : P.after g [] = g := rfl

@[simp] theorem Protocol.after_concat (g : Γ) (history : List (Event I)) (event : Event I) :
    P.after g (history ++ [event]) = P.observe (P.after g history) event.op event.reply := by
  simp [Protocol.after, List.foldl_append]

theorem Protocol.after_append (g : Γ) (first rest : List (Event I)) :
    P.after g (first ++ rest) = P.after (P.after g first) rest := List.foldl_append

/-- The operations of a history are permitted where they are issued. -/
def Protocol.Permitted (P : Protocol I Γ) : Γ → List (Event I) → Prop
  | _, [] => True
  | g, event :: rest =>
    P.permits g event.op ∧ Permitted P (P.observe g event.op event.reply) rest

theorem Protocol.permitted_append {g : Γ} {first rest : List (Event I)}
    (before : P.Permitted g first) (later : P.Permitted (P.after g first) rest) :
    P.Permitted g (first ++ rest) := by
  induction first generalizing g with
  | nil => exact later
  | cons event first ih => exact ⟨before.1, ih before.2 later⟩

/-- A finished run of a program that follows a protocol. -/
theorem Program.Runs.follows {α : Type} {post : α → Γ → Prop} {p : Program I α}
    {trace : List (Event I)} {value : α} {g : Γ} (run : p.Runs trace value) (follows : p.wp P post g)
    (expected : ∀ event ∈ trace, P.expects event.op event.reply) :
    P.Permitted g trace ∧ post value (P.after g trace) := by
  induction p generalizing trace g with
  | done v =>
    obtain ⟨rfl, rfl⟩ := run
    exact ⟨trivial, follows⟩
  | call op next ih =>
    obtain ⟨reply, rest, rfl, run⟩ := run
    have later := follows.2 reply (expected _ List.mem_cons_self)
    obtain ⟨permitted, ended⟩ := ih reply run later
      fun event mem => expected event (List.mem_cons_of_mem _ mem)
    exact ⟨⟨follows.1, permitted⟩, ended⟩

/-- The programs of `S` follow `P`: entries from `start`, loop bodies from every view that
fits the loop state, and replies are those `P` expects. -/
structure Certified (S : System I) (P : Protocol I Γ) where
  start : S.Launch → Γ
  looping : S.Launch → S.Loop → Γ → Prop
  ended : S.Launch → S.Outcome → Γ → Prop
  entry_follows : ∀ l, (S.entry l).wp P (fun v g => v.elim (looping l · g) (ended l · g)) (start l)
  body_follows : ∀ l loop g, looping l loop g →
    (S.body l loop).wp P (fun v g => v.elim (looping l · g) (ended l · g)) g
  replies : ∀ op st choice reply st', S.perform op st choice = some (reply, st') →
    P.expects op reply

namespace Certified
variable (cert : Certified S P)

/-- What a running handler knows. -/
def view (p : S.Process) : Γ := P.after (cert.start p.launch) p.history

/-- The remaining program of a handler follows the protocol from its view. -/
def Follows (p : S.Process) : Prop :=
  p.program.wp P (fun v g => v.elim (cert.looping p.launch · g) (cert.ended p.launch · g))
    (cert.view p)

def AllFollow (s : S.State) : Prop := ∀ id p, s.process id = some p → cert.Follows p

theorem allFollow_idle {s : S.State} (idle : ∀ id, s.process id = none) : cert.AllFollow s := by
  intro id p here
  rw [idle id] at here
  cases here

theorem allFollow_update {s : S.State} (store : S.Store) (id : Nat) {p : Option S.Process}
    (all : cert.AllFollow s) (new : ∀ q, p = some q → cert.Follows q) :
    cert.AllFollow (s.update store id p) := by
  intro i q here
  by_cases same : i = id
  · subst same
    exact new q (by simpa using here)
  · exact all i q (by rwa [System.State.update_process_other s store p same] at here)

theorem allFollow_step {s s' : S.State} {a : S.Action} (all : cert.AllFollow s)
    (stepped : System.Stepped s a s') : cert.AllFollow s' := by
  cases stepped with
  | launch free launched =>
    refine cert.allFollow_update _ _ all ?_
    rintro q ⟨⟩
    exact cert.entry_follows _
  | call here performed =>
    refine cert.allFollow_update _ _ all ?_
    rintro q ⟨⟩
    have follows := (all _ _ here).2 _ (cert.replies _ _ _ _ _ performed)
    simpa only [Follows, view, Protocol.after_concat] using follows
  | loop here =>
    refine cert.allFollow_update _ _ all ?_
    rintro q ⟨⟩
    exact cert.body_follows _ _ _ (all _ _ here)
  | finish here =>
    refine cert.allFollow_update _ _ all ?_
    rintro q ⟨⟩
  | tick => exact all

variable {cert}

/-- An operation about to be performed is permitted by the view of its issuer. -/
theorem permitted {s : S.State} {id : Nat} {l : S.Launch} {history : List (Event I)} {op : I.Op}
    {next : I.Reply op → Program I (S.Loop ⊕ S.Outcome)} (all : cert.AllFollow s)
    (here : s.process id = some { launch := l, history, program := .call op next }) :
    P.permits (P.after (cert.start l) history) op :=
  (all _ _ here).1

variable (cert)

/-- The induction rule for invariants of a certified system started with no handler running. -/
theorem invariant (Inv : S.State → Prop) {C : S.State → S.Action → Prop} {s t : S.State}
    (idle : ∀ id, s.process id = none) (start : Inv s)
    (kept : ∀ t a u, cert.AllFollow t → Inv t → C t a → System.Stepped t a u → Inv u)
    (run : System.Steps C s t) : cert.AllFollow t ∧ Inv t :=
  run.invariant (fun s => cert.AllFollow s ∧ Inv s)
    (fun t a u both meets stepped =>
      ⟨cert.allFollow_step both.1 stepped, kept t a u both.1 both.2 meets stepped⟩)
    ⟨cert.allFollow_idle idle, start⟩

theorem allFollow_reachable {C : S.State → S.Action → Prop} {s t : S.State}
    (idle : ∀ id, s.process id = none) (run : System.Steps C s t) : cert.AllFollow t :=
  (cert.invariant (fun _ => True) idle trivial (fun _ _ _ _ _ _ _ => trivial) run).1

/-! ### Handlers as their stages

What invariants need of a state: its store and, for each running handler, why it was started
and what it knows. -/

/-- The running handlers, each by its launch and its view. -/
def crew (s : S.State) (id : Nat) : Option (S.Launch × Γ) :=
  (s.process id).map fun p => (p.launch, cert.view p)

/-- The operation an action performs, with the view of its issuer. -/
def issued (s : S.State) : S.Action → Option (Γ × I.Op)
  | .call id _ => (s.process id).bind fun p =>
    match p.program with
    | .call op _ => some (cert.view p, op)
    | .done _ => none
  | _ => none

/-- `C` holds of the operation an action performs, if it performs one. -/
def Performing (C : Γ → I.Op → Prop) (s : S.State) (a : S.Action) : Prop :=
  ∀ q, cert.issued s a = some q → C q.1 q.2

instance {C : Γ → I.Op → Prop} [∀ g op, Decidable (C g op)] {s : S.State} {a : S.Action} :
    Decidable (cert.Performing C s a) :=
  match h : cert.issued s a with
  | none => isTrue (by simp [Performing, h])
  | some q => decidable_of_iff (C q.1 q.2) (by simp [Performing, h])

theorem issued_cases {s : S.State} {a : S.Action} {g : Γ} {op : I.Op}
    (issues : cert.issued s a = some (g, op)) :
    ∃ id choice p, a = .call id choice ∧ s.process id = some p ∧ cert.view p = g := by
  cases a with
  | call id choice =>
    obtain ⟨p, here, issues⟩ := Option.bind_eq_some_iff.mp issues
    split at issues
    · cases issues
      exact ⟨id, choice, p, rfl, here, rfl⟩
    · cases issues
  | _ => cases issues

/-- What holds of a launch's start and is kept by every observation holds of every view. -/
theorem view_invariant (Has : S.Launch → Γ → Prop) (starts : ∀ l, Has l (cert.start l))
    (kept : ∀ l g op reply, Has l g → Has l (P.observe g op reply)) (p : S.Process) :
    Has p.launch (cert.view p) := by
  obtain ⟨l, history, program⟩ := p
  simp only [view]
  induction history using List.reverseRecOn with
  | nil => exact starts l
  | append_singleton history event ih =>
    rw [Protocol.after_concat]
    exact kept _ _ _ _ ih

/-- Everything a step can do to the store and the running handlers. -/
inductive Happened (s : S.State) : S.Action → S.Store → (Nat → Option (S.Launch × Γ)) → Prop where
  | launch {id : Nat} {l : S.Launch} {store : S.Store} (free : cert.crew s id = none)
      (launched : S.launch l s.store = some store) :
      Happened s (.launch id l) store (Function.update (cert.crew s) id (some (l, cert.start l)))
  | call {id : Nat} {choice : S.Choice} {l : S.Launch} {g : Γ} {op : I.Op} {reply : I.Reply op}
      {store : S.Store} (here : cert.crew s id = some (l, g))
      (issues : cert.issued s (.call id choice) = some (g, op)) (permitted : P.permits g op)
      (performed : S.perform op s.store choice = some (reply, store)) :
      Happened s (.call id choice) store
        (Function.update (cert.crew s) id (some (l, P.observe g op reply)))
  | loop {id : Nat} : Happened s (.loop id) s.store (cert.crew s)
  | finish {id : Nat} {l : S.Launch} {g : Γ} {o : S.Outcome} (here : cert.crew s id = some (l, g))
      (ended : cert.ended l o g) :
      Happened s (.finish id) (S.finish l o s.store) (Function.update (cert.crew s) id none)
  | tick {t : S.Tick} {store : S.Store} (ticked : S.tick t s.store = some store) :
      Happened s (.tick t) store (cert.crew s)

theorem crew_update (s : S.State) (store : S.Store) (id : Nat) (p : Option S.Process) :
    cert.crew (s.update store id p) =
      Function.update (cert.crew s) id (p.map fun p => (p.launch, cert.view p)) := by
  funext i
  by_cases same : i = id
  · subst same
    simp [crew]
  · simp [crew, same, System.State.update_process_other s store p same]

variable {cert}

theorem happened {s t : S.State} {a : S.Action} (all : cert.AllFollow s)
    (stepped : System.Stepped s a t) : cert.Happened s a t.store (cert.crew t) := by
  cases stepped with
  | launch free launched =>
    rw [crew_update]
    exact .launch (by simp [crew, free]) launched
  | call here performed =>
    rename_i id choice l history op next reply store
    have seen : cert.crew s id = some (l, P.after (cert.start l) history) := by
      simp [crew, here, view]
    have issues : cert.issued s (.call id choice) =
        some (P.after (cert.start l) history, op) := by simp [issued, here, view]
    rw [crew_update, System.State.update_store]
    simpa only [Option.map_some, view, Protocol.after_concat] using
      Happened.call seen issues (permitted all here) performed
  | loop here =>
    rename_i id l history loop
    have same : cert.crew (s.update s.store id
        (some { launch := l, history, program := S.body l loop })) = cert.crew s := by
      rw [crew_update]
      exact Function.update_eq_self_iff.mpr (by simp [crew, here, view])
    rw [same]
    exact .loop
  | finish here =>
    rename_i id l history outcome
    rw [crew_update]
    exact .finish (by simp [crew, here, view]) (all _ _ here)
  | tick ticked => exact .tick ticked

end Certified

end Interleaving
