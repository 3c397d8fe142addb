import Mathlib.Data.List.Basic

/-!
# What a failing operation ends

The control flow of a function whose operations may throw, with its branches taken: which
operations it gets to and whether it throws itself.
-/

namespace Exceptions

/-- An operation as it turned out. -/
structure Operation where
  name : String
  throws : Bool
  deriving DecidableEq

inductive Code where
  | skip
  | call (op : Operation)
  | seq (first rest : Code)
  | tryCatch (body handler : Code)
  | tryFinally (body finalizer : Code)
  /-- A call that is not awaited. -/
  | detach (body : Code)

namespace Code

def calls : List Operation → Code
  | [] => skip
  | op :: rest => seq (call op) (calls rest)

/-- The operations performed, and whether the code throws. -/
def run : Code → List Operation × Bool
  | skip => ([], false)
  | call op => ([op], op.throws)
  | seq first rest =>
    if first.run.2 then first.run else (first.run.1 ++ rest.run.1, rest.run.2)
  | tryCatch body handler =>
    if body.run.2 then (body.run.1 ++ handler.run.1, handler.run.2) else body.run
  | tryFinally body finalizer =>
    (body.run.1 ++ finalizer.run.1, body.run.2 || finalizer.run.2)
  | detach body => (body.run.1, false)

def throws (code : Code) : Bool := code.run.2

@[simp] theorem throws_skip : skip.throws = false := rfl

@[simp] theorem throws_call (op : Operation) : (call op).throws = op.throws := rfl

@[simp] theorem throws_seq (first rest : Code) :
    (seq first rest).throws = (first.throws || rest.throws) := by
  unfold throws
  rw [run]
  cases thrown : first.run.2 <;> simp [thrown]

@[simp] theorem throws_tryCatch (body handler : Code) :
    (tryCatch body handler).throws = (body.throws && handler.throws) := by
  unfold throws
  rw [run]
  cases thrown : body.run.2 <;> simp [thrown]

@[simp] theorem throws_tryFinally (body finalizer : Code) :
    (tryFinally body finalizer).throws = (body.throws || finalizer.throws) := rfl

@[simp] theorem throws_detach (body : Code) : (detach body).throws = false := rfl

@[simp] theorem throws_calls (ops : List Operation) : (calls ops).throws = ops.any (·.throws) := by
  induction ops with
  | nil => rfl
  | cons op rest ih => simp [calls, ih]

/-- A `finally` block is run in any case. -/
theorem run_tryFinally (body finalizer : Code) {op : Operation} (mem : op ∈ finalizer.run.1) :
    op ∈ (tryFinally body finalizer).run.1 := List.mem_append_right _ mem

end Code

/-! ### Loops over records -/

variable {Record : Type}

/-- Handle records one after the other; a record whose handler throws is the last. -/
def handleBatch (threw : Record → Bool) : List Record → List Record × Bool
  | [] => ([], false)
  | record :: rest =>
    if threw record then ([record], true)
    else (record :: (handleBatch threw rest).1, (handleBatch threw rest).2)

/-- Read and handle batches for as long as nothing is thrown. -/
def handleBatches (threw : Record → Bool) : List (List Record) → List Record × Bool
  | [] => ([], false)
  | batch :: rest =>
    let now := handleBatch threw batch
    if now.2 then now
    else (now.1 ++ (handleBatches threw rest).1, (handleBatches threw rest).2)

variable {threw : Record → Bool}

theorem handleBatch_append (first rest : List Record) : handleBatch threw (first ++ rest) =
    if (handleBatch threw first).2 then handleBatch threw first
    else ((handleBatch threw first).1 ++ (handleBatch threw rest).1, (handleBatch threw rest).2) := by
  induction first with
  | nil => simp [handleBatch]
  | cons record first ih =>
    rw [List.cons_append, handleBatch, ih, handleBatch]
    cases threw record with
    | true => simp
    | false => cases ended : (handleBatch threw first).2 <;> simp [ended]

/-- How the records come in batches makes no difference. -/
theorem handleBatches_flatten (batches : List (List Record)) :
    handleBatches threw batches = handleBatch threw batches.flatten := by
  induction batches with
  | nil => rfl
  | cons batch rest ih => rw [handleBatches, List.flatten_cons, handleBatch_append, ih]

theorem handleBatch_all_iff (records : List Record) : (handleBatch threw records).1 = records ↔
    ∀ record ∈ records.dropLast, threw record = false := by
  induction records with
  | nil => simp [handleBatch]
  | cons record rest ih =>
    cases rest with
    | nil =>
      unfold handleBatch
      split <;> simp [handleBatch]
    | cons next rest =>
      rw [List.dropLast_cons_cons, List.forall_mem_cons, ← ih, handleBatch]
      cases thrown : threw record with
      | true => simp
      | false => simp

end Exceptions
