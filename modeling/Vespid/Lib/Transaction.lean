import Mathlib.Data.List.Basic

/-!
# Transactions on one database connection

A connection has at most one open transaction. A `BEGIN` inside it is ignored, and the first
`COMMIT` or `ROLLBACK` ends it together with the settings that are local to it. A statement that
fails aborts the open transaction; outside of one, a statement is committed at once.
-/

namespace Sql

/-- A statement as it was issued, with its outcome. -/
structure Statement (Query : Type) where
  query : Query
  writes : Bool
  fails : Bool

def Statement.effect {Query : Type} (s : Statement Query) : List Query :=
  if s.writes then [s.query] else []

structure Transaction (Query Setting : Type) where
  writes : List Query
  setting : Option Setting
  aborted : Bool

/-- `ran` are the statements issued, each with the local setting it ran under. -/
structure Connection (Query Setting : Type) where
  tx : Option (Transaction Query Setting)
  committed : List Query
  ran : List (Query × Option Setting)

namespace Connection
variable {Query Setting : Type}

def idle : Connection Query Setting := { tx := none, committed := [], ran := [] }

def aborted (c : Connection Query Setting) : Bool := c.tx.any (·.aborted)

def begin (c : Connection Query Setting) : Connection Query Setting :=
  match c.tx with
  | some _ => c
  | none => { c with tx := some { writes := [], setting := none, aborted := false } }

/-- The `COMMIT` of an aborted transaction rolls it back. -/
def commit (c : Connection Query Setting) : Connection Query Setting :=
  match c.tx with
  | none => c
  | some tx => { c with tx := none, committed := c.committed ++ if tx.aborted then [] else tx.writes }

def rollback (c : Connection Query Setting) : Connection Query Setting := { c with tx := none }

def setLocal (setting : Setting) (c : Connection Query Setting) : Connection Query Setting :=
  { c with tx := c.tx.map fun tx => { tx with setting := some setting } }

def issue (c : Connection Query Setting) (s : Statement Query) : Connection Query Setting :=
  let ran := c.ran ++ [(s.query, c.tx.bind (·.setting))]
  match c.tx with
  | none => { c with ran, committed := c.committed ++ if s.fails then [] else Statement.effect s }
  | some tx =>
    if tx.aborted then { c with ran }
    else if s.fails then { c with ran, tx := some { tx with aborted := true } }
    else { c with ran, tx := some { tx with writes := tx.writes ++ Statement.effect s } }

def issueAll (c : Connection Query Setting) (body : List (Statement Query)) :
    Connection Query Setting :=
  body.foldl issue c

@[simp] theorem issueAll_nil (c : Connection Query Setting) : c.issueAll [] = c := rfl

@[simp] theorem issueAll_cons (c : Connection Query Setting) (s : Statement Query)
    (rest : List (Statement Query)) : c.issueAll (s :: rest) = (c.issue s).issueAll rest := rfl

/-- What has been issued stays on record. -/
theorem ran_issue (c : Connection Query Setting) (s : Statement Query) :
    (c.issue s).ran = c.ran ++ [(s.query, c.tx.bind (·.setting))] := by
  unfold issue
  split
  · rfl
  · split
    · rfl
    · split <;> rfl

theorem ran_issueAll (c : Connection Query Setting) (body : List (Statement Query)) :
    c.ran <+: (c.issueAll body).ran := by
  induction body generalizing c with
  | nil => exact List.prefix_refl _
  | cons s rest ih =>
    have first : c.ran <+: (c.issue s).ran := ⟨_, (ran_issue c s).symm⟩
    exact first.trans (ih _)

/-! ### Inside one transaction -/

/-- `c` is inside a transaction under `setting` whose statements so far are `issued`. -/
structure Within (setting : Setting) (issued : List (Statement Query))
    (c : Connection Query Setting) : Prop where
  inTx : ∃ tx, c.tx = some tx ∧ tx.setting = some setting ∧ tx.aborted = issued.any (·.fails) ∧
    (tx.aborted = false → tx.writes = issued.flatMap Statement.effect)
  uncommitted : c.committed = []
  under : ∀ entry ∈ c.ran, entry.2 = some setting

variable {setting : Setting} {issued : List (Statement Query)} {c : Connection Query Setting}

theorem within_begin : Within setting [] (setLocal setting (begin (idle : Connection Query Setting))) where
  inTx := ⟨_, rfl, rfl, rfl, fun _ => rfl⟩
  uncommitted := rfl
  under _ mem := by cases mem

theorem Within.issue (within : Within setting issued c) (s : Statement Query) :
    Within setting (issued ++ [s]) (c.issue s) := by
  obtain ⟨⟨tx, open_, local_, aborted, writes⟩, uncommitted, under⟩ := within
  have ran : ∀ entry ∈ (c.issue s).ran, entry.2 = some setting := by
    intro entry mem
    rw [ran_issue] at mem
    rcases List.mem_append.mp mem with old | new
    · exact under entry old
    · obtain rfl := List.mem_singleton.mp new
      simp [open_, local_]
  unfold Connection.issue at ran ⊢
  simp only [open_] at ran ⊢
  cases earlier : tx.aborted with
  | true =>
    have still : (issued ++ [s]).any (·.fails) = true := by simp [← aborted, earlier]
    simp only [earlier, if_true] at ran ⊢
    exact ⟨⟨tx, rfl, local_, by rw [still, earlier], by simp [earlier]⟩, uncommitted, ran⟩
  | false =>
    have none_ : issued.any (·.fails) = false := by rw [← aborted, earlier]
    simp only [earlier, Bool.false_eq_true, if_false] at ran ⊢
    cases failing : s.fails with
    | true =>
      simp only [failing, if_true] at ran ⊢
      exact ⟨⟨_, rfl, local_, by simp [failing], by simp⟩, uncommitted, ran⟩
    | false =>
      simp only [failing, Bool.false_eq_true, if_false] at ran ⊢
      refine ⟨⟨_, rfl, local_, ?_, ?_⟩, uncommitted, ran⟩
      · rw [List.any_append, none_]
        simp [failing]
      · intro _
        simp [writes earlier]

theorem Within.issueAll (within : Within setting issued c) (body : List (Statement Query)) :
    Within setting (issued ++ body) (c.issueAll body) := by
  induction body generalizing issued c with
  | nil => simpa using within
  | cons s rest ih => simpa using ih (within.issue s)

theorem Within.begin_eq (within : Within setting issued c) : c.begin = c := by
  obtain ⟨tx, open_, -⟩ := within.inTx
  simp [begin, open_]

theorem Within.aborted_eq (within : Within setting issued c) :
    c.aborted = issued.any (·.fails) := by
  obtain ⟨tx, open_, -, aborted, -⟩ := within.inTx
  simp [Connection.aborted, open_, aborted]

/-- What a transaction commits. -/
theorem Within.committed_commit (within : Within setting issued c) :
    c.commit.committed = if issued.any (·.fails) then [] else issued.flatMap Statement.effect := by
  obtain ⟨tx, open_, -, aborted, writes⟩ := within.inTx
  simp only [commit, open_, within.uncommitted, List.nil_append, ← aborted]
  cases failed : tx.aborted with
  | true => simp
  | false => simp [writes failed]

end Connection

end Sql
