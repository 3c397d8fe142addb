import Vespid.Lib.Transaction

/-!
# Tenant units

`withTenantContext` runs a callback in one transaction whose local settings name the tenant. A
repository function that opens a transaction of its own shares the connection, so its `COMMIT`
ends the callback's transaction.
-/

namespace Vespid.Db

open Sql

/-- `app.current_user_id` and `app.current_org_id` -/
structure Tenant where
  userId : String
  organizationId : String
  deriving DecidableEq

/-- `set_config` with `input.userId ?? ""` and `input.organizationId ?? ""` -/
def tenantOf (userId organizationId : Option String) : Tenant :=
  { userId := userId.getD "", organizationId := organizationId.getD "" }

variable {Query : Type}

/-- What a callback asks of its connection, with the outcome it had: a statement, or
`db.transaction`, whose body may throw and whose `COMMIT` may fail. -/
inductive Call (Query : Type) where
  | statement (s : Statement Query)
  | transaction (body : List (Statement Query)) (throws commitFails : Bool)

namespace Call

def statements : Call Query → List (Statement Query)
  | statement s => [s]
  | transaction body .. => body

/-- Drizzle's `transaction` on a connection: what an aborted transaction answers to `BEGIN` is an
error, which is thrown before the body is run. -/
def run (c : Connection Query Tenant) : Call Query → Connection Query Tenant
  | statement s => c.issue s
  | transaction body throws commitFails =>
    if c.aborted then c
    else
      let ran := c.begin.issueAll body
      if throws || commitFails then ran.rollback else ran.commit

end Call

def runCalls (c : Connection Query Tenant) (calls : List (Call Query)) : Connection Query Tenant :=
  calls.foldl Call.run c

/-- `withTenantContext`: the connection after a callback that has made these calls and then has
returned or thrown. -/
def withTenantContext (tenant : Tenant) (calls : List (Call Query)) (throws : Bool) :
    Connection Query Tenant :=
  let ran := runCalls (Connection.idle.begin.setLocal tenant) calls
  if throws then ran.rollback else ran.commit

/-! ### Appending a session event -/

inductive AppendQuery where
  | existingEvent
  | lockSession
  | lastSeq
  | insertEvent
  | touchSession
  deriving DecidableEq

/-- What the database answers to the statements of one append. -/
structure AppendAnswers where
  existing : Bool
  locked : Bool
  fails : AppendQuery → Bool
  commitFails : Bool

def appendStatement (answers : AppendAnswers) (writes : Bool) (query : AppendQuery) :
    Statement AppendQuery :=
  { query, writes, fails := answers.fails query }

/-- The statements up to and including the first that fails, and whether one does. -/
def untilFailure : List (Statement Query) → List (Statement Query) × Bool
  | [] => ([], false)
  | s :: rest =>
    if s.fails then ([s], true)
    else (s :: (untilFailure rest).1, (untilFailure rest).2)

/-- `appendAgentSessionEvent`; an event without an idempotency key is not looked for. -/
def appendAgentSessionEvent (keyed : Bool) (answers : AppendAnswers) : Call AppendQuery :=
  let lookup := if keyed then [appendStatement answers false .existingEvent] else []
  if keyed && answers.existing && !answers.fails .existingEvent then
    .transaction lookup false answers.commitFails
  else
    let insert := if answers.locked then [appendStatement answers false .lastSeq,
      appendStatement answers true .insertEvent, appendStatement answers true .touchSession] else []
    let body := untilFailure (lookup ++ [appendStatement answers false .lockSession] ++ insert)
    .transaction body.1 (body.2 || !answers.locked) answers.commitFails

/-! ### When a unit is one transaction -/

/-- Every statement of the callback ran as the tenant. -/
def KeepsTenant (tenant : Tenant) (c : Connection Query Tenant) : Prop :=
  ∀ entry ∈ c.ran, entry.2 = some tenant

/-- Whether statements that share a transaction write something that can be committed. -/
def CanCommit (issued : List (Statement Query)) : Prop :=
  issued.any (·.fails) = false ∧ ∃ s ∈ issued, s.writes = true

/-- A transaction of its own is the last thing the callback does, and where the callback throws
after it, it commits nothing. Before it, `issued` are the statements so far; an aborted
transaction opens no other. -/
def EndsUnit (throws : Bool) : List (Statement Query) → List (Call Query) → Prop
  | _, [] => True
  | issued, .statement s :: rest => EndsUnit throws (issued ++ [s]) rest
  | issued, .transaction body bodyThrows commitFails :: rest =>
    if issued.any (·.fails) then EndsUnit throws issued rest
    else (∀ call ∈ rest, call.statements = []) ∧
      (throws → CanCommit (issued ++ body) → bodyThrows ∨ commitFails)

section unit
variable {tenant : Tenant} {c : Connection Query Tenant} {issued : List (Statement Query)}

theorem runCalls_cons (call : Call Query) (rest : List (Call Query)) :
    runCalls c (call :: rest) = runCalls (call.run c) rest := rfl

theorem ran_call (call : Call Query) : c.ran <+: (call.run c).ran := by
  cases call with
  | statement s => exact ⟨_, (Connection.ran_issue c s).symm⟩
  | transaction body throws commitFails =>
    simp only [Call.run]
    split
    · exact List.prefix_refl _
    · have begun : c.begin.ran = c.ran := by
        unfold Connection.begin
        split <;> rfl
      have inner : c.ran <+: (c.begin.issueAll body).ran :=
        begun ▸ Connection.ran_issueAll c.begin body
      have commits : (c.begin.issueAll body).commit.ran = (c.begin.issueAll body).ran := by
        unfold Connection.commit
        split <;> rfl
      split
      · exact inner
      · exact commits ▸ inner

theorem ran_calls (calls : List (Call Query)) : c.ran <+: (runCalls c calls).ran := by
  induction calls generalizing c with
  | nil => exact List.prefix_refl _
  | cons call rest ih => exact (ran_call call).trans ih

/-- Outside of a transaction, a call without statements does nothing. -/
theorem run_quiet {call : Call Query} (outside : c.tx = none) (quiet : call.statements = []) :
    call.run c = c := by
  obtain ⟨tx, committed, ran⟩ := c
  subst outside
  cases call with
  | statement s => cases quiet
  | transaction body throws commitFails =>
    obtain rfl : body = [] := quiet
    simp [Call.run, Connection.aborted, Connection.begin, Connection.commit, Connection.rollback]

theorem runCalls_quiet {calls : List (Call Query)} (outside : c.tx = none)
    (quiet : ∀ call ∈ calls, call.statements = []) : runCalls c calls = c := by
  induction calls with
  | nil => rfl
  | cons call rest ih =>
    rw [runCalls_cons, run_quiet outside (quiet call List.mem_cons_self)]
    exact ih fun call mem => quiet call (List.mem_cons_of_mem _ mem)

/-- Outside of a transaction, a statement runs as nobody. -/
theorem run_loud {call : Call Query} (outside : c.tx = none) (loud : call.statements ≠ []) :
    ∃ entry ∈ (call.run c).ran, entry.2 = none := by
  cases call with
  | statement s => exact ⟨(s.query, none), by simp [Call.run, Connection.ran_issue, outside], rfl⟩
  | transaction body throws commitFails =>
    obtain ⟨s, rest, rfl⟩ := List.exists_cons_of_ne_nil loud
    have first : (s.query, none) ∈ (c.begin.issue s).ran := by
      rw [Connection.ran_issue]
      simp [Connection.begin, outside]
    have inner : (s.query, none) ∈ (c.begin.issueAll (s :: rest)).ran :=
      (Connection.ran_issueAll (c.begin.issue s) rest).subset first
    have commits : (c.begin.issueAll (s :: rest)).commit.ran = (c.begin.issueAll (s :: rest)).ran := by
      unfold Connection.commit
      split <;> rfl
    refine ⟨(s.query, none), ?_, rfl⟩
    have open_ : c.aborted = false := by simp [Connection.aborted, outside]
    simp only [Call.run, open_, Bool.false_eq_true, if_false]
    split
    · exact inner
    · exact commits ▸ inner

theorem runCalls_loud {calls : List (Call Query)} (outside : c.tx = none)
    (loud : ∃ call ∈ calls, call.statements ≠ []) :
    ∃ entry ∈ (runCalls c calls).ran, entry.2 = none := by
  induction calls with
  | nil =>
    obtain ⟨_, mem, -⟩ := loud
    cases mem
  | cons call rest ih =>
    by_cases first : call.statements = []
    · rw [runCalls_cons, run_quiet outside first]
      obtain ⟨other, mem, loud⟩ := loud
      rcases List.mem_cons.mp mem with rfl | mem
      · exact absurd first loud
      · exact ih ⟨other, mem, loud⟩
    · obtain ⟨entry, mem, nobody⟩ := run_loud outside first
      exact ⟨entry, (ran_calls rest).subset mem, nobody⟩

/-- How `withTenantContext` ends. -/
def endUnit (throws : Bool) (c : Connection Query Tenant) : Connection Query Tenant :=
  if throws then c.rollback else c.commit

theorem ran_endUnit (throws : Bool) : (endUnit throws c).ran = c.ran := by
  unfold endUnit Connection.rollback Connection.commit
  split
  · rfl
  · split <;> rfl

theorem endUnit_outside (throws : Bool) (outside : c.tx = none) : endUnit throws c = c := by
  obtain ⟨tx, committed, ran⟩ := c
  subst outside
  cases throws <;> rfl

theorem flatMap_effect_eq_nil : issued.flatMap Statement.effect = [] ↔
    ∀ s ∈ issued, s.writes = false := by
  simp [List.flatMap_eq_nil_iff, Statement.effect]

/-- The transaction a nested call ends, and what it leaves. -/
theorem run_nested (within : c.Within tenant issued) (alive : issued.any (·.fails) = false)
    (body : List (Statement Query)) (bodyThrows commitFails : Bool) :
    let left := (Call.transaction body bodyThrows commitFails).run c
    left.tx = none ∧ KeepsTenant tenant left ∧
      (left.committed = [] ↔ (CanCommit (issued ++ body) → bodyThrows ∨ commitFails)) := by
  have inner := within.issueAll body
  have open_ : c.aborted = false := within.aborted_eq.trans alive
  simp only [Call.run, open_, Bool.false_eq_true, if_false, within.begin_eq]
  cases undone : bodyThrows || commitFails with
  | true =>
    simp only [Bool.or_eq_true] at undone
    exact ⟨rfl, inner.under, iff_of_true inner.uncommitted fun _ => undone⟩
  | false =>
    obtain ⟨tx, there, -⟩ := inner.inTx
    have kept : ((c.issueAll body).commit).ran = (c.issueAll body).ran := by
      simp [Connection.commit, there]
    simp only [Bool.or_eq_false_iff] at undone
    refine ⟨by simp [Connection.commit, there], fun entry mem => inner.under entry (kept ▸ mem), ?_⟩
    rw [if_neg (by simp), inner.committed_commit]
    simp only [undone, Bool.false_eq_true, or_self, imp_false, CanCommit]
    cases (issued ++ body).any (·.fails) with
    | true => simp
    | false =>
      rw [if_neg (by simp), flatMap_effect_eq_nil]
      simp

theorem unit_from (within : c.Within tenant issued) (calls : List (Call Query)) (throws : Bool) :
    (KeepsTenant tenant (endUnit throws (runCalls c calls)) ∧
      (throws → (endUnit throws (runCalls c calls)).committed = [])) ↔
      EndsUnit throws issued calls := by
  induction calls generalizing c issued with
  | nil =>
    refine iff_of_true ⟨?_, ?_⟩ trivial
    · intro entry mem
      rw [ran_endUnit] at mem
      exact within.under entry mem
    · rintro rfl
      exact within.uncommitted
  | cons call rest ih =>
    rw [runCalls_cons]
    cases call with
    | statement s => exact ih (within.issue s)
    | transaction body bodyThrows commitFails =>
      unfold EndsUnit
      split
      · next failed =>
        have same : (Call.transaction body bodyThrows commitFails).run c = c := by
          simp [Call.run, within.aborted_eq, failed]
        rw [same]
        exact ih within
      · next alive =>
        have alive : issued.any (·.fails) = false := by simpa using alive
        obtain ⟨outside, keeps, commits⟩ := run_nested within alive body bodyThrows commitFails
        by_cases quiet : ∀ call ∈ rest, call.statements = []
        · rw [runCalls_quiet outside quiet, endUnit_outside throws outside, commits]
          exact and_congr (iff_of_true keeps quiet) Iff.rfl
        · have loud : ∃ call ∈ rest, call.statements ≠ [] := by simpa using quiet
          obtain ⟨entry, mem, nobody⟩ := runCalls_loud outside loud
          refine iff_of_false ?_ fun ends => quiet ends.1
          rintro ⟨keeps, -⟩
          have own := keeps entry (by rw [ran_endUnit]; exact mem)
          rw [nobody] at own
          cases own

/-- Every statement of the callback runs as its tenant and nothing is committed where it throws,
exactly where a transaction of its own is the last thing it does and commits nothing then. -/
theorem unit_iff (tenant : Tenant) (calls : List (Call Query)) (throws : Bool) :
    (KeepsTenant tenant (withTenantContext tenant calls throws) ∧
      (throws → (withTenantContext tenant calls throws).committed = [])) ↔
      EndsUnit throws [] calls :=
  unit_from Connection.within_begin calls throws

end unit

/-! ### A write after an appended event -/

namespace Sample

def answers : AppendAnswers :=
  { existing := false, locked := true, fails := fun _ => false, commitFails := false }

def written : Call AppendQuery := .statement { query := .insertEvent, writes := true, fails := false }

end Sample

/-- The statement after an appended event runs as nobody, and what came before it is committed
although the callback throws. -/
theorem unit_broken : ¬∀ (tenant : Tenant) (calls : List (Call AppendQuery)) (throws : Bool),
    KeepsTenant tenant (withTenantContext tenant calls throws) ∧
      (throws → (withTenantContext tenant calls throws).committed = []) := by
  intro unit
  obtain ⟨-, undone⟩ := unit (tenantOf (some "user") (some "org"))
    [Sample.written, appendAgentSessionEvent false Sample.answers, Sample.written] true
  exact absurd (undone rfl) (by decide)

end Vespid.Db
