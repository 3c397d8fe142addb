import Mathlib.Order.Basic

/-!
# The run queue

The job of one run in the BullMQ queue, whose job id is the run id. The queue library is not
in the repository; the functions below follow what its callers rely on: `add` with the id of
a job that still exists does nothing, `remove` of an active job fails, and a job that throws
is retried while it has attempts left.
-/

namespace Vespid

inductive RunJob where
  | absent
  | waiting (attemptsMade attempts : Nat)
  | delayed (attemptsMade attempts : Nat)
  | active (attemptsMade attempts : Nat)
  | completed
  | failed
  deriving DecidableEq

namespace RunJob

/-- Waiting, delayed or due for retry. -/
def pending : RunJob → Bool
  | waiting .. | delayed .. => true
  | _ => false

def isActive : RunJob → Bool
  | active .. => true
  | _ => false

/-- Active, with attempts left when it throws. -/
def attemptsLeft : RunJob → Bool
  | active made attempts => made + 1 < attempts
  | _ => false

/-- Active, or kept after it finished. -/
def kept : RunJob → Bool
  | active .. | completed | failed => true
  | _ => false

/-- `queue.add` with the run id as job id. -/
def add (job : RunJob) (delayMs attempts : Nat) : RunJob :=
  match job with
  | absent => if delayMs = 0 then waiting 0 attempts else delayed 0 attempts
  | job => job

/-- `queue.remove`; a failing removal leaves the job. -/
def remove : RunJob → RunJob
  | active made attempts => active made attempts
  | _ => absent

/-- A worker takes the job. -/
def take : RunJob → Option RunJob
  | waiting made attempts | delayed made attempts => some (active made attempts)
  | _ => none

/-- The worker's handler returned. -/
def succeed : RunJob → RunJob
  | active .. => completed
  | job => job

/-- The worker's handler threw. -/
def throw : RunJob → RunJob
  | active made attempts =>
    if made + 1 < attempts then delayed (made + 1) attempts else failed
  | job => job

/-- Retention drops a finished job. -/
def evict : RunJob → Option RunJob
  | completed | failed => some absent
  | _ => none

/-! ### What the queue's operations keep -/

variable {job job' : RunJob}

theorem take_pending (taken : job.take = some job') : job.pending ∧ job'.isActive := by
  cases job <;> simp only [take, Option.some.injEq, reduceCtorEq] at taken <;> subst taken <;>
    exact ⟨rfl, rfl⟩

theorem not_pending_of_active (active : job.isActive) : job.pending = false := by
  cases job <;> first | rfl | cases active

theorem add_of_not_kept (free : job.kept = false) (delayMs attempts : Nat) :
    (job.add delayMs attempts).pending := by
  cases job <;> simp only [kept, reduceCtorEq] at free
  · simp only [add]
    split <;> rfl
  · rfl
  · rfl

theorem not_active_of_not_kept (free : job.kept = false) : job.isActive = false := by
  cases job <;> first | rfl | cases free

theorem remove_of_active (active : job.isActive) : job.remove = job := by
  cases job <;> first | rfl | cases active

theorem remove_not_pending (job : RunJob) : job.remove.pending = false := by
  cases job <;> rfl

theorem throw_pending (left : job.attemptsLeft) : job.throw.pending := by
  cases job <;> simp only [attemptsLeft, Bool.false_eq_true, decide_eq_true_eq] at left
  simp [throw, left, pending]

theorem succeed_not_pending (active : job.isActive) : job.succeed.pending = false := by
  cases job <;> first | rfl | cases active

theorem evict_cases (evicted : job.evict = some job') :
    job.pending = false ∧ job.isActive = false ∧ job' = absent := by
  cases job <;> simp only [evict, Option.some.injEq, reduceCtorEq] at evicted <;> subst evicted <;>
    exact ⟨rfl, rfl, rfl⟩

end RunJob

end Vespid
