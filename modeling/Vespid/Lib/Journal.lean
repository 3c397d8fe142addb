import Mathlib.Data.List.Basic

/-!
# Journals

A journal lists entries in the order in which they were applied to a state. An entry may fail to
apply. Where each entry has an inverse, taking the newest entries back one by one leads to the
state before them.
-/

namespace Journal

variable {ε σ α : Type}

/-- Apply the entries of a journal, oldest first. -/
def replay (apply : α → σ → Except ε σ) (journal : List α) (s : σ) : Except ε σ :=
  journal.foldlM (fun s entry => apply entry s) s

/-- Whatever one of these entries has done, its inverse takes back. -/
def Undoes (among : α → Prop) (apply undo : α → σ → Except ε σ) : Prop :=
  ∀ entry, among entry → ∀ s s', apply entry s = .ok s' → undo entry s' = .ok s

variable {among : α → Prop} {apply undo : α → σ → Except ε σ} {s t : σ}

@[simp] theorem replay_nil (s : σ) : replay apply [] s = .ok s := rfl

@[simp] theorem replay_cons (entry : α) (rest : List α) (s : σ) :
    replay apply (entry :: rest) s = apply entry s >>= replay apply rest := rfl

theorem replay_append (first rest : List α) (s : σ) :
    replay apply (first ++ rest) s = replay apply first s >>= replay apply rest :=
  List.foldlM_append

theorem replay_cons_eq_ok {entry : α} {rest : List α} :
    replay apply (entry :: rest) s = .ok t ↔
      ∃ u, apply entry s = .ok u ∧ replay apply rest u = .ok t := by
  rw [replay_cons]
  cases apply entry s with
  | error e => simp [bind, Except.bind]
  | ok u => simp [bind, Except.bind]

theorem replay_append_eq_ok {first rest : List α} :
    replay apply (first ++ rest) s = .ok t ↔
      ∃ u, replay apply first s = .ok u ∧ replay apply rest u = .ok t := by
  rw [replay_append]
  cases replay apply first s with
  | error e => simp [bind, Except.bind]
  | ok u => simp [bind, Except.bind]

/-- Taking back a whole journal, newest entry first. -/
theorem replay_undo (undoes : Undoes among apply undo) {journal : List α}
    (all : ∀ entry ∈ journal, among entry) (replayed : replay apply journal s = .ok t) : replay undo journal.reverse t = .ok s := by
  induction journal generalizing s with
  | nil =>
    cases replayed
    rfl
  | cons entry rest ih =>
    obtain ⟨u, here, later⟩ := replay_cons_eq_ok.mp replayed
    rw [List.reverse_cons]
    exact replay_append_eq_ok.mpr
      ⟨u, ih (fun entry mem => all entry (List.mem_cons_of_mem _ mem)) later,
        replay_cons_eq_ok.mpr ⟨s, undoes entry (all entry List.mem_cons_self) s u here, rfl⟩⟩

/-- Taking back the newest entries leads to the state that the older ones give. -/
theorem replay_undo_append (undoes : Undoes among apply undo) {older newer : List α} {u : σ}
    (all : ∀ entry ∈ newer, among entry) (replayed : replay apply (older ++ newer) s = .ok t)
    (undone : replay undo newer.reverse t = .ok u) : replay apply older s = .ok u := by
  obtain ⟨v, first, rest⟩ := replay_append_eq_ok.mp replayed
  rw [replay_undo undoes all rest] at undone
  cases undone
  exact first

end Journal
