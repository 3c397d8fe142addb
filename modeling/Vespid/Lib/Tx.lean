/-!
# Code inside a transaction

The code between `BEGIN` and `COMMIT` issues statements one after the other and may catch what
they throw. A statement that fails aborts the transaction, and every later one fails for that
reason alone, also where the first failure was caught.
-/

namespace Sql

inductive Failure where
  | uniqueViolation
  | outOfRange
  | invalidText
  | inFailedTransaction
  | thrown (message : String)
  deriving DecidableEq

/-- The tables as the transaction sees them. -/
structure Session (σ : Type) where
  tables : σ
  aborted : Bool

variable {σ α β : Type}

abbrev Tx (σ α : Type) := Session σ → Except Failure α × Session σ

namespace Tx

def pure (value : α) : Tx σ α := fun s => (.ok value, s)

def throw (failure : Failure) : Tx σ α := fun s => (.error failure, s)

def bind (p : Tx σ α) (f : α → Tx σ β) : Tx σ β := fun s =>
  match p s with
  | (.ok value, s) => f value s
  | (.error failure, s) => (.error failure, s)

/-- The handler runs in the transaction that the failure has left. -/
def tryCatch (p : Tx σ α) (handler : Failure → Tx σ α) : Tx σ α := fun s =>
  match p s with
  | (.ok value, s) => (.ok value, s)
  | (.error failure, s) => handler failure s

def statement (query : σ → Except Failure (α × σ)) : Tx σ α := fun s =>
  if s.aborted then (.error .inFailedTransaction, s)
  else match query s.tables with
    | .ok (value, tables) => (.ok value, { s with tables })
    | .error failure => (.error failure, { s with aborted := true })

instance : Monad (Tx σ) where
  pure := pure
  bind := bind

end Tx

/-- `BEGIN`, the code, and `COMMIT`, or `ROLLBACK` where it throws. -/
def transact (code : Tx σ α) (tables : σ) : Except Failure α × σ :=
  match code { tables, aborted := false } with
  | (.ok value, s) => (.ok value, if s.aborted then tables else s.tables)
  | (.error failure, _) => (.error failure, tables)

open Tx

theorem statement_ok {query : σ → Except Failure (α × σ)} {tables after : σ} {value : α}
    (runs : query tables = .ok (value, after)) :
    statement query { tables, aborted := false } = (.ok value, { tables := after, aborted := false })
    := by
  simp [statement, runs]

theorem statement_error {query : σ → Except Failure (α × σ)} {tables : σ} {failure : Failure}
    (fails : query tables = .error failure) :
    statement query { tables, aborted := false } = (.error failure, { tables, aborted := true }) := by
  simp [statement, fails]

theorem statement_aborted (query : σ → Except Failure (α × σ)) (tables : σ) :
    statement query { tables, aborted := true } =
      (.error .inFailedTransaction, { tables, aborted := true }) := rfl

theorem bind_ok {p : Tx σ α} {f : α → Tx σ β} {s s' : Session σ} {value : α}
    (first : p s = (.ok value, s')) : (p >>= f) s = f value s' := by
  show Tx.bind p f s = _
  rw [Tx.bind, first]

theorem bind_error {p : Tx σ α} {f : α → Tx σ β} {s s' : Session σ} {failure : Failure}
    (first : p s = (.error failure, s')) : (p >>= f) s = (.error failure, s') := by
  show Tx.bind p f s = _
  rw [Tx.bind, first]

/-- `INSERT`, and where the key is taken, a `SELECT` of the row that has it. -/
def insertOrRead (insert : σ → Except Failure (α × σ)) (read : σ → Option α) (missing : String) :
    Tx σ α :=
  tryCatch (statement insert) fun failure =>
    if failure = .uniqueViolation then
      statement (fun tables => .ok (read tables, tables)) >>= fun existing =>
        match existing with
        | none => throw (.thrown missing)
        | some row => Tx.pure row
    else throw failure

theorem insertOrRead_ok {insert : σ → Except Failure (α × σ)} {tables after : σ} {row : α}
    (read : σ → Option α) (missing : String) (runs : insert tables = .ok (row, after)) :
    insertOrRead insert read missing { tables, aborted := false } =
      (.ok row, { tables := after, aborted := false }) := by
  simp only [insertOrRead, Tx.tryCatch, statement_ok runs]

/-- The row that has the key is never read: the insert that met it has aborted the transaction. -/
theorem insertOrRead_error {insert : σ → Except Failure (α × σ)} {tables : σ} {failure : Failure}
    (read : σ → Option α) (missing : String) (fails : insert tables = .error failure) :
    ∃ failure', insertOrRead insert read missing { tables, aborted := false } =
      (.error failure', { tables, aborted := true }) := by
  simp only [insertOrRead, Tx.tryCatch, statement_error fails]
  by_cases unique : failure = .uniqueViolation
  · refine ⟨.inFailedTransaction, ?_⟩
    simp only [unique, ↓reduceIte]
    exact bind_error (statement_aborted _ tables)
  · refine ⟨failure, ?_⟩
    simp only [unique, ↓reduceIte]
    rfl

end Sql
