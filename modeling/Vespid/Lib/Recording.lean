import Vespid.Lib.Protocol

/-!
# Systems that keep a record

A record of what the handlers of a system do, in the order they do it. It changes nothing of the
runs. A record is explained when every entry is admitted by the entries before it; for handlers that
follow a protocol this is a matter of what one operation needs.
-/

namespace Interleaving
variable {I : Interface} {α Γ : Type}

/-- Every entry is admitted by those before it. -/
def Explained (R : List α → α → Prop) (log : List α) : Prop :=
  ∀ before entry after, log = before ++ entry :: after → R before entry

section explained
variable {R : List α → α → Prop} {log : List α}

theorem explained_nil : Explained R [] := by
  intro before entry after split
  simp at split

theorem explained_concat {entry : α} (explained : Explained R log) (admitted : R log entry) :
    Explained R (log ++ [entry]) := by
  intro before e after split
  obtain rfl | ⟨init, last, rfl⟩ := List.eq_nil_or_concat after
  · obtain ⟨rfl, same⟩ := List.append_inj' split rfl
    obtain rfl := List.singleton_inj.mp same
    exact admitted
  · rw [List.concat_eq_append, ← List.cons_append, ← List.append_assoc] at split
    exact explained before e init (List.append_inj' split rfl).1

theorem explained_option {entry : Option α} (explained : Explained R log)
    (admitted : ∀ e ∈ entry, R log e) : Explained R (log ++ entry.toList) := by
  cases entry with
  | none => simpa using explained
  | some e => exact explained_concat explained (admitted e rfl)

end explained

/-- `S` with a record of what its handlers do. -/
def System.recording (S : System I) (record : (op : I.Op) → I.Reply op → Option α) : System I where
  Store := S.Store × List α
  Launch := S.Launch
  Loop := S.Loop
  Outcome := S.Outcome
  Choice := S.Choice
  Tick := S.Tick
  perform op st choice := (S.perform op st.1 choice).map fun done =>
    (done.1, done.2, st.2 ++ (record op done.1).toList)
  launch l st := (S.launch l st.1).map fun store => (store, st.2)
  entry := S.entry
  body := S.body
  finish l o st := (S.finish l o st.1, st.2)
  tick t st := (S.tick t st.1).map fun store => (store, st.2)

section recording
variable {S : System I} {record : (op : I.Op) → I.Reply op → Option α}

/-! ### The record changes nothing -/

def eraseProcess (p : (S.recording record).Process) : S.Process := ⟨p.launch, p.history, p.program⟩

def erase (s : (S.recording record).State) : S.State :=
  { store := s.store.1, process := fun id => (s.process id).map eraseProcess }

def recordAction : S.Action → (S.recording record).Action
  | .launch id l => .launch id l
  | .call id choice => .call id choice
  | .loop id => .loop id
  | .finish id => .finish id
  | .tick t => .tick t

theorem erase_update (s : (S.recording record).State) (store : S.Store × List α) (id : Nat)
    (p : Option (S.recording record).Process) :
    erase (s.update store id p) = (erase s).update store.1 id (p.map eraseProcess) := by
  unfold erase System.State.update
  congr 1
  funext i
  dsimp only
  split <;> rfl

/-- A step with the record is a step without it. -/
theorem erase_step (s : (S.recording record).State) (a : S.Action) :
    (System.step s (recordAction a)).map erase = System.step (erase s) a := by
  cases a with
  | launch id l =>
    simp only [System.step, recordAction, erase]
    cases s.process id with
    | some p => rfl
    | none =>
      simp only [System.recording]
      cases S.launch l s.store.1 with
      | none => rfl
      | some store => exact congrArg some (erase_update s (store, s.store.2) id _)
  | call id choice =>
    simp only [System.step, recordAction, erase]
    cases s.process id with
    | none => rfl
    | some p =>
      obtain ⟨l, history, program⟩ := p
      simp only [Option.bind_some, Option.map_some, System.Process.step, eraseProcess]
      cases program with
      | done value => rfl
      | call op next =>
        simp only [System.recording]
        cases S.perform op s.store.1 choice with
        | none => rfl
        | some done =>
          exact congrArg some
            (erase_update s (done.2, s.store.2 ++ (record op done.1).toList) id _)
  | loop id =>
    simp only [System.step, recordAction, erase]
    cases s.process id with
    | none => rfl
    | some p =>
      obtain ⟨l, history, program⟩ := p
      rcases program with (loop | outcome) | ⟨op, next⟩
      · exact congrArg some (erase_update s s.store id _)
      · rfl
      · rfl
  | finish id =>
    simp only [System.step, recordAction, erase]
    cases s.process id with
    | none => rfl
    | some p =>
      obtain ⟨l, history, program⟩ := p
      rcases program with (loop | outcome) | ⟨op, next⟩
      · rfl
      · exact congrArg some (erase_update s _ id _)
      · rfl
  | tick t =>
    simp only [System.step, recordAction, erase, System.recording]
    cases S.tick t s.store.1 with
    | none => rfl
    | some store => rfl

theorem exists_recordAction (a : (S.recording record).Action) :
    ∃ b : S.Action, recordAction b = a := by
  cases a with
  | launch id l => exact ⟨.launch id l, rfl⟩
  | call id choice => exact ⟨.call id choice, rfl⟩
  | loop id => exact ⟨.loop id, rfl⟩
  | finish id => exact ⟨.finish id, rfl⟩
  | tick t => exact ⟨.tick t, rfl⟩

theorem erased_run {s u : (S.recording record).State}
    (run : System.Steps (fun _ _ => True) s u) :
    System.Steps (fun _ _ => True) (erase s) (erase u) := by
  induction run with
  | refl => exact .refl
  | tail _ _ stepped ih =>
    rename_i t u a _ _
    obtain ⟨b, rfl⟩ := exists_recordAction a
    have taken : System.step (erase t) b = some (erase u) := by
      rw [← erase_step, stepped]
      rfl
    exact ih.tail trivial taken

/-- Every run has a record. -/
theorem recorded_run {s : (S.recording record).State} {t : S.State}
    (run : System.Steps (fun _ _ => True) (erase s) t) :
    ∃ u, System.Steps (fun _ _ => True) s u ∧ erase u = t := by
  induction run with
  | refl => exact ⟨s, .refl, rfl⟩
  | tail _ _ stepped ih =>
    obtain ⟨u, run, rfl⟩ := ih
    rw [← erase_step] at stepped
    obtain ⟨v, taken, same⟩ := Option.map_eq_some_iff.mp stepped
    exact ⟨v, run.tail trivial taken, same⟩

/-! ### Protocols and the record -/

variable {P : Protocol I Γ}

/-- The programs follow the same protocol. -/
def Certified.recording (cert : Certified S P) : Certified (S.recording record) P where
  start := cert.start
  looping := cert.looping
  ended := cert.ended
  entry_follows := cert.entry_follows
  body_follows := cert.body_follows
  replies op st choice reply st' performed := by
    obtain ⟨⟨reply', store⟩, done, same⟩ := Option.map_eq_some_iff.mp performed
    obtain ⟨rfl, -⟩ := Prod.mk.inj same
    exact cert.replies op st.1 choice reply' store done

/-- What makes the record of a system explained: an invariant of the store and its record, what a
handler's view says of the record, and that an operation keeps both and is admitted. -/
structure Explains (cert : Certified S P) (record : (op : I.Op) → I.Reply op → Option α)
    (R : List α → α → Prop) (Inv : S.Store → List α → Prop) (Knows : Γ → List α → Prop) : Prop where
  starts : ∀ l log, Knows (cert.start l) log
  grows : ∀ g log more, Knows g log → Knows g (log ++ more)
  admits : ∀ g op st choice reply st' log, P.permits g op → Knows g log → Inv st log →
    S.perform op st choice = some (reply, st') → ∀ entry ∈ record op reply, R log entry
  learns : ∀ g op st choice reply st' log, P.permits g op → Knows g log → Inv st log →
    S.perform op st choice = some (reply, st') →
      Knows (P.observe g op reply) (log ++ (record op reply).toList)
  keeps : ∀ g op st choice reply st' log, P.permits g op → Knows g log → Inv st log →
    S.perform op st choice = some (reply, st') → Inv st' (log ++ (record op reply).toList)
  launches : ∀ l st st' log, Inv st log → S.launch l st = some st' → Inv st' log
  finishes : ∀ l o st log, Inv st log → Inv (S.finish l o st) log
  ticks : ∀ t st st' log, Inv st log → S.tick t st = some st' → Inv st' log

variable {cert : Certified S P} {R : List α → α → Prop} {Inv : S.Store → List α → Prop}
  {Knows : Γ → List α → Prop}

/-- Between any two steps the record is explained, the store fits it, and so does what each handler
knows. -/
structure Recorded (cert : Certified S P) (R : List α → α → Prop) (Inv : S.Store → List α → Prop)
    (Knows : Γ → List α → Prop) (s : (S.recording record).State) : Prop where
  explained : Explained R s.store.2
  fits : Inv s.store.1 s.store.2
  knows : ∀ id l g, cert.recording.crew s id = some (l, g) → Knows g s.store.2

theorem recorded_step (rules : Explains cert record R Inv Knows) {s t : (S.recording record).State}
    {a : (S.recording record).Action} (all : cert.recording.AllFollow s)
    (recorded : Recorded cert R Inv Knows s) (stepped : System.Stepped s a t) :
    Recorded cert R Inv Knows t := by
  have happened := Certified.happened all stepped
  obtain ⟨explained, fits, knows⟩ := recorded
  suffices goal : ∀ store crew, cert.recording.Happened s a store crew →
      Explained R store.2 ∧ Inv store.1 store.2 ∧
        ∀ id l g, crew id = some (l, g) → Knows g store.2 by
    obtain ⟨e, f, k⟩ := goal _ _ happened
    exact ⟨e, f, k⟩
  intro store crew happened
  cases happened with
  | launch free launched =>
    obtain ⟨st, did, rfl⟩ := Option.map_eq_some_iff.mp launched
    refine ⟨explained, rules.launches _ _ _ _ fits did, fun i l g here => ?_⟩
    rw [Function.update_apply] at here
    split at here
    · cases here
      exact rules.starts _ _
    · exact knows i l g here
  | call here issues permitted performed =>
    obtain ⟨⟨reply, st⟩, done, same⟩ := Option.map_eq_some_iff.mp performed
    obtain ⟨rfl, rfl⟩ := Prod.mk.inj same
    have knew := knows _ _ _ here
    refine ⟨explained_option explained (rules.admits _ _ _ _ _ _ _ permitted knew fits done),
      rules.keeps _ _ _ _ _ _ _ permitted knew fits done, fun i l g here => ?_⟩
    rw [Function.update_apply] at here
    split at here
    · cases here
      exact rules.learns _ _ _ _ _ _ _ permitted knew fits done
    · exact rules.grows _ _ _ (knows i l g here)
  | loop => exact ⟨explained, fits, knows⟩
  | finish here ended =>
    refine ⟨explained, rules.finishes _ _ _ _ fits, fun i l g here => ?_⟩
    rw [Function.update_apply] at here
    split at here
    · cases here
    · exact knows i l g here
  | tick ticked =>
    obtain ⟨st, did, rfl⟩ := Option.map_eq_some_iff.mp ticked
    exact ⟨explained, rules.ticks _ _ _ _ fits did, knows⟩

/-- From a start with no handler running and nothing recorded, every run is explained. -/
theorem recorded_of_run (rules : Explains cert record R Inv Knows)
    {s t : (S.recording record).State} (idle : ∀ id, s.process id = none) (empty : s.store.2 = []) (first : Inv s.store.1 [])
    (run : System.Steps (fun _ _ => True) s t) : Recorded cert R Inv Knows t := by
  refine (cert.recording.invariant (Recorded cert R Inv Knows) idle ?_
    (fun _ _ _ all recorded _ stepped => recorded_step rules all recorded stepped) run).2
  refine ⟨?_, ?_, fun id l g here => ?_⟩
  · rw [empty]
    exact explained_nil
  · rw [empty]
    exact first
  · simp [Certified.crew, idle id] at here

end recording

end Interleaving
