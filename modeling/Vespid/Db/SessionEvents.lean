import Mathlib.Data.List.Nodup
import Vespid.Lib.Exclusive
import Vespid.Lib.Protocol
import Vespid.Scheduler.Cron
import Vespid.Workflow.Dsl

/-!
# The events of a session

An append first looks for an event with its idempotency key, then locks the session's row, reads the
last number and inserts the next one. The lock orders the numbers; the look is not under it.
-/

namespace Vespid.Db.SessionEvents

open Interleaving

/-- What an append is to record. -/
structure NewEvent where
  eventType : String
  level : Option String
  payload : Json

/-- A row of `agent_session_events`. -/
structure EventRow where
  seq : Nat
  idempotencyKey : Option String
  eventType : String
  level : String
  payload : Json

/-- A call of `appendAgentSessionEvent`, with a ticket of its own. -/
structure Launched where
  ticket : Nat
  idempotencyKey : Option String
  event : NewEvent

def Launched.row (l : Launched) (seq : Nat) : EventRow where
  seq := seq
  idempotencyKey := l.idempotencyKey
  eventType := l.event.eventType
  level := l.event.level.getD "info"
  payload := l.event.payload

/-- `z.string().min(1).max(200)` -/
def idempotencyKeySchema (key : String) : Bool := Workflow.stringBetween 1 200 key

def isBlank (key : String) : Bool := (Scheduler.trim key.toList).isEmpty

/-- Text that Postgres takes as a parameter. -/
def isText (key : String) : Bool := key.toList.all fun c => c ≠ Char.ofNat 0

/-! ### Statements -/

inductive FindReply where
  | found (row : Option EventRow)
  | rejected
  | failed

inductive InsertReply where
  | inserted
  | uniqueViolation
  | failed

inductive EventOp where
  | findByKey (ticket : Nat) (key : String)
  /-- `for("update")` -/
  | lockSession (ticket : Nat)
  | lastSeq
  | insert (ticket : Nat) (row : EventRow)
  | touchSession
  | commit (ticket : Nat)
  | rollback (ticket : Nat)

/-- `none` and `false` are errors of the store. -/
abbrev EventOp.Reply : EventOp → Type
  | findByKey _ _ => FindReply
  | lockSession _ => Option Bool
  | lastSeq => Option (Option Nat)
  | insert _ _ => InsertReply
  | touchSession | commit _ => Bool
  | rollback _ => Unit

abbrev EventOps : Interface where
  Op := EventOp
  Reply := EventOp.Reply

abbrev EventProgram := Program EventOps

abbrev ask (op : EventOp) : EventProgram op.Reply := Program.issue (I := EventOps) op

inductive Answer where
  | event (row : EventRow)
  | sessionNotFound
  | uniqueViolation
  | rejected
  | failed

/-! ### The append -/

/-- From the lock on. -/
def appendLocked (l : Launched) : EventProgram (EventRow ⊕ Answer) := do
  match ← ask (.lockSession l.ticket) with
  | none => return .inr .failed
  | some false => return .inr .sessionNotFound
  | some true =>
    match ← ask .lastSeq with
    | none => return .inr .failed
    | some last =>
      let row := l.row (last.elim 0 (· + 1))
      match ← ask (.insert l.ticket row) with
      | .failed => return .inr .failed
      | .uniqueViolation => return .inr .uniqueViolation
      | .inserted =>
        if ← ask .touchSession then return .inl row else return .inr .failed

/-- The transaction without its end. -/
def appendBody (l : Launched) : EventProgram (EventRow ⊕ Answer) :=
  match l.idempotencyKey.filter fun key => !isBlank key with
  | none => appendLocked l
  | some key => do
    match ← ask (.findByKey l.ticket key) with
    | .found (some existing) => return .inl existing
    | .found none => appendLocked l
    | .rejected => return .inr .rejected
    | .failed => return .inr .failed

/-- What throws is rolled back and thrown on. -/
def appendAgentSessionEvent (l : Launched) : EventProgram Answer := do
  match ← appendBody l with
  | .inr answer =>
    ask (.rollback l.ticket)
    return answer
  | .inl row =>
    if ← ask (.commit l.ticket) then return .event row
    else
      ask (.rollback l.ticket)
      return .failed

/-! ### The session -/

/-- The rows of the session, those not yet committed, the lock, the keys of transactions that found
no event and have not ended, and the answers. -/
structure EventStore where
  committed : List EventRow
  pending : List (Nat × EventRow)
  lock : Option Nat
  checked : List (Nat × String)
  nextTicket : Nat
  answers : List (Launched × Answer)

namespace EventStore
variable (st : EventStore)

/-- The unique indexes; rows without a key have no key in common. -/
def conflicts (row other : EventRow) : Bool :=
  row.seq = other.seq || (row.idempotencyKey.isSome && row.idempotencyKey = other.idempotencyKey)

def unlocked (ticket : Nat) : Option Nat := if st.lock = some ticket then none else st.lock

def commit (ticket : Nat) : EventStore :=
  { st with
    committed := st.committed ++ (st.pending.filter fun entry => entry.1 = ticket).map (·.2)
    pending := st.pending.filter fun entry => entry.1 ≠ ticket
    lock := st.unlocked ticket
    checked := st.checked.filter fun entry => entry.1 ≠ ticket }

def rollback (ticket : Nat) : EventStore :=
  { st with
    pending := st.pending.filter fun entry => entry.1 ≠ ticket
    lock := st.unlocked ticket
    checked := st.checked.filter fun entry => entry.1 ≠ ticket }

end EventStore

/-- How a statement ends; a commit that is lost has taken effect all the same. -/
inductive Luck where
  | fine | fails | lost
  deriving DecidableEq

/-- `none` where the statement waits for another transaction. -/
def performEvent (sessionThere : Bool) (st : EventStore) (luck : Luck) :
    (op : EventOp) → Option (op.Reply × EventStore)
  | .findByKey ticket key =>
    if !isText key then some (.rejected, st)
    else if luck ≠ .fine then some (.failed, st)
    else
      match st.committed.find? fun row => row.idempotencyKey = some key with
      | some row => some (.found (some row), st)
      | none => some (.found none, { st with checked := (ticket, key) :: st.checked })
  | .lockSession ticket =>
    if luck ≠ .fine then some (none, st)
    else if !sessionThere then some (some false, st)
    else if st.lock.any (· ≠ ticket) then none
    else some (some true, { st with lock := some ticket })
  | .lastSeq =>
    if luck ≠ .fine then some (none, st)
    else some (some ((st.committed.map (·.seq)).max?), st)
  | .insert ticket row =>
    if luck ≠ .fine then some (.failed, st)
    else if st.committed.any (EventStore.conflicts row) then some (.uniqueViolation, st)
    else if st.pending.any (fun entry => EventStore.conflicts row entry.2) then none
    else some (.inserted, { st with pending := (ticket, row) :: st.pending })
  | .touchSession => some (decide (luck = .fine), st)
  | .commit ticket =>
    match luck with
    | .fine => some (true, st.commit ticket)
    | .fails => some (false, st)
    | .lost => some (false, st.commit ticket)
  | .rollback ticket => some ((), st.rollback ticket)

/-- Any number of appends to one session. -/
abbrev eventSystem (sessionThere : Bool) : System EventOps where
  Store := EventStore
  Launch := Launched
  Loop := Empty
  Outcome := Answer
  Choice := Luck
  Tick := Empty
  perform op st choice := performEvent sessionThere st choice op
  launch l st :=
    if l.ticket = st.nextTicket then some { st with nextTicket := st.nextTicket + 1 } else none
  entry l := .inr <$> appendAgentSessionEvent l
  body _ loop := nomatch loop
  finish l answer st := { st with answers := (l, answer) :: st.answers }
  tick t := nomatch t

def emptySession (sessionThere : Bool) : (eventSystem sessionThere).State where
  store :=
    { committed := [], pending := [], lock := none, checked := [], nextTicket := 0, answers := [] }
  process _ := none

/-! ### The claim and its condition -/

/-- The numbers are `0` to `n - 1`; appends with one key return one event, which is the only one
with it, and none of them fails for its key. -/
structure Dense (st : EventStore) : Prop where
  dense : st.committed.map (·.seq) = List.range st.committed.length
  same : ∀ a ∈ st.answers, ∀ b ∈ st.answers, ∀ key, idempotencyKeySchema key = true →
    a.1.idempotencyKey = some key → b.1.idempotencyKey = some key →
      ∀ row row', a.2 = .event row → b.2 = .event row' → row = row' ∧ row ∈ st.committed
  single : ∀ row ∈ st.committed, ∀ other ∈ st.committed, ∀ key, idempotencyKeySchema key = true →
    row.idempotencyKey = some key → other.idempotencyKey = some key → row = other
  unfailed : ∀ a ∈ st.answers, ∀ key, idempotencyKeySchema key = true →
    a.1.idempotencyKey = some key → a.2 ≠ .uniqueViolation ∧ a.2 ≠ .rejected

/-- How far an append is. -/
inductive Stage where
  | asking
  | passed
  | holding
  | numbered (next : Nat)
  | inserted (row : EventRow)
  | found (row : EventRow)
  | done (row : EventRow)
  | broken
  | refused

/-- The append holds the lock from `holding` to its commit; one that is broken may. -/
def Stage.holds : Stage → Prop
  | holding | numbered _ | inserted _ => True
  | _ => False

/-- It found no event with its key and has not ended. -/
def Stage.looked : Stage → Prop
  | passed => True
  | stage => stage.holds

structure EventView where
  launched : Launched
  stage : Stage

def Launched.asks (l : Launched) : Option String :=
  l.idempotencyKey.filter fun key => !isBlank key

def starting (l : Launched) : EventView where
  launched := l
  stage := if l.asks.isSome then .asking else .passed

/-- Errors that are not the key's. -/
def Answer.fair : Answer → Prop
  | uniqueViolation | rejected => False
  | _ => True

def eventProtocol : Protocol EventOps EventView where
  permits v op := match op with
    | .findByKey ticket key =>
      v.stage = .asking ∧ ticket = v.launched.ticket ∧ v.launched.asks = some key
    | .lockSession ticket => v.stage = .passed ∧ ticket = v.launched.ticket
    | .lastSeq => v.stage = .holding
    | .insert ticket row => ticket = v.launched.ticket ∧
      ∃ next, v.stage = .numbered next ∧ row = v.launched.row next
    | .touchSession => ∃ row, v.stage = .inserted row
    | .commit ticket => ticket = v.launched.ticket ∧
      ∃ row, v.stage = .inserted row ∨ v.stage = .found row
    | .rollback ticket => ticket = v.launched.ticket
  expects _ _ := True
  observe v op reply := match op, reply with
    | .findByKey _ _, .found (some row) => { v with stage := .found row }
    | .findByKey _ _, .found none => { v with stage := .passed }
    | .findByKey _ _, .rejected => { v with stage := .refused }
    | .findByKey _ _, .failed => { v with stage := .broken }
    | .lockSession _, some true => { v with stage := .holding }
    | .lockSession _, _ => { v with stage := .broken }
    | .lastSeq, some last => { v with stage := .numbered (last.elim 0 (· + 1)) }
    | .lastSeq, none => { v with stage := .broken }
    | .insert _ row, .inserted => { v with stage := .inserted row }
    | .insert _ _, .uniqueViolation => { v with stage := .refused }
    | .insert _ _, .failed => { v with stage := .broken }
    | .touchSession, true => v
    | .touchSession, false => { v with stage := .broken }
    | .commit _, true => match v.stage with
      | .inserted row | .found row => { v with stage := .done row }
      | _ => v
    | .commit _, false => { v with stage := .broken }
    | .rollback _, _ => match v.stage with
      | .refused => v
      | _ => { v with stage := .broken }

/-- What an append knows when it answers. -/
def Ended (l : Launched) (answer : Answer) (v : EventView) : Prop :=
  v.launched = l ∧ match answer with
    | .event row => v.stage = .done row
    | .uniqueViolation | .rejected => v.stage = .refused
    | _ => True

section program
variable {l : Launched}

/-- The body ends with a row of the transaction or with an error. -/
def BodyEnds (l : Launched) (result : EventRow ⊕ Answer) (v : EventView) : Prop :=
  v.launched = l ∧ match result with
    | .inl row => v.stage = .inserted row ∨ v.stage = .found row
    | .inr answer => match answer with
      | .event _ => False
      | .uniqueViolation | .rejected => v.stage = .refused
      | _ => True

theorem appendLocked_follows {v : EventView} (is : v.launched = l) (passed : v.stage = .passed) :
    (appendLocked l).wp eventProtocol (BodyEnds l) v := by
  refine ⟨⟨passed, by rw [is]⟩, fun locked _ => ?_⟩
  match locked with
  | none => exact ⟨is, trivial⟩
  | some false => exact ⟨is, trivial⟩
  | some true =>
    refine ⟨rfl, fun last _ => ?_⟩
    match last with
    | none => exact ⟨is, trivial⟩
    | some last =>
      refine ⟨⟨by rw [← is]; rfl, _, rfl, by rw [← is]; rfl⟩, fun reply _ => ?_⟩
      match reply with
      | .failed => exact ⟨is, trivial⟩
      | .uniqueViolation => exact ⟨is, rfl⟩
      | .inserted =>
        refine ⟨⟨_, rfl⟩, fun touched _ => ?_⟩
        match touched with
        | true => exact ⟨is, .inl rfl⟩
        | false => exact ⟨is, trivial⟩

theorem appendBody_follows (l : Launched) :
    (appendBody l).wp eventProtocol (BodyEnds l) (starting l) := by
  unfold appendBody
  cases asks : l.idempotencyKey.filter fun key => !isBlank key with
  | none =>
    refine appendLocked_follows rfl ?_
    unfold starting Launched.asks
    rw [asks]
    rfl
  | some key =>
    have stage : (starting l).stage = .asking := by
      unfold starting Launched.asks
      rw [asks]
      rfl
    refine ⟨⟨stage, rfl, asks⟩, fun found _ => ?_⟩
    match found with
    | .found (some existing) => exact ⟨rfl, .inr rfl⟩
    | .found none => exact appendLocked_follows rfl rfl
    | .rejected => exact ⟨rfl, rfl⟩
    | .failed => exact ⟨rfl, trivial⟩

theorem append_follows (l : Launched) :
    (appendAgentSessionEvent l).wp eventProtocol (Ended l) (starting l) := by
  refine Program.wp_seq (appendBody_follows l) ?_
  rintro result v ⟨is, ends⟩
  match result with
  | .inr answer =>
    refine ⟨congrArg Launched.ticket is.symm, fun _ _ => ⟨?_, ?_⟩⟩
    · show (match v.stage with
        | .refused => v
        | _ => { v with stage := .broken }).launched = l
      split <;> exact is
    · cases answer with
      | event => exact ends.elim
      | uniqueViolation =>
        have stage : v.stage = .refused := ends
        simp [eventProtocol, stage]
      | rejected =>
        have stage : v.stage = .refused := ends
        simp [eventProtocol, stage]
      | _ => trivial
  | .inl row =>
    refine ⟨⟨congrArg Launched.ticket is.symm, row, ends⟩, fun committed _ => ?_⟩
    match committed with
    | true =>
      rcases ends with stage | stage
      · exact ⟨by simp [eventProtocol, stage, is], by simp [eventProtocol, stage]⟩
      · exact ⟨by simp [eventProtocol, stage, is], by simp [eventProtocol, stage]⟩
    | false => exact ⟨congrArg Launched.ticket is.symm, fun _ _ => ⟨is, trivial⟩⟩

end program

def eventCertified (sessionThere : Bool) : Certified (eventSystem sessionThere) eventProtocol where
  start := starting
  looping _ loop _ := nomatch loop
  ended := Ended
  entry_follows l := Program.wp_seq (append_follows l) fun _ _ ended => ended
  body_follows _ loop := nomatch loop
  replies _ _ _ _ _ _ := trivial

/-- Keys are not blank and are text, and no transaction looks for a key that another one has looked
for in vain and not yet ended with. -/
def Unraced (sessionThere : Bool) (s : (eventSystem sessionThere).State)
    (a : (eventSystem sessionThere).Action) : Prop :=
  (match a with
    | .launch _ l => ∀ key ∈ l.idempotencyKey, isBlank key = false ∧ isText key = true
    | _ => True) ∧
  match (eventCertified sessionThere).issued s a with
  | some (_, .findByKey _ key) => key ∉ s.store.checked.map (·.2)
  | _ => True

instance (sessionThere : Bool) (s : (eventSystem sessionThere).State)
    (a : (eventSystem sessionThere).Action) : Decidable (Unraced sessionThere s a) := by
  unfold Unraced
  refine @instDecidableAnd _ _ ?_ ?_
  · split <;> infer_instance
  · split <;> infer_instance

/-! ### The invariant -/

/-- Stages in which an append has never had the lock. -/
def Stage.outside : Stage → Prop
  | asking | passed | found _ => True
  | _ => False

/-- What an append's stage says of the tables. -/
def StageFits (st : EventStore) (l : Launched) : Stage → Prop
  | .holding => st.pending = []
  | .numbered next => st.pending = [] ∧ next = st.committed.length
  | .inserted row => st.pending = [(l.ticket, row)] ∧ row = l.row st.committed.length
  | .found row | .done row => row ∈ st.committed ∧ row.idempotencyKey = l.idempotencyKey
  | .refused => False
  | _ => True

/-- What holds of a running append. -/
structure Knows (st : EventStore) (q : Launched × EventView) : Prop where
  launched : q.2.launched = q.1
  ticket : q.1.ticket < st.nextTicket
  usable : ∀ key ∈ q.1.idempotencyKey, isBlank key = false ∧ isText key = true
  holds : q.2.stage.holds → st.lock = some q.1.ticket
  outside : q.2.stage.outside → st.lock ≠ some q.1.ticket
  looked : q.2.stage.looked → ∀ key, q.1.idempotencyKey = some key →
    (q.1.ticket, key) ∈ st.checked ∧ ∀ row ∈ st.committed, row.idempotencyKey ≠ some key
  stage : StageFits st q.1 q.2.stage

/-- What holds of an answer. -/
structure AnswerFits (st : EventStore) (answer : Launched × Answer) : Prop where
  event : ∀ row, answer.2 = .event row →
    row ∈ st.committed ∧ row.idempotencyKey = answer.1.idempotencyKey
  fair : answer.2.fair

/-- What holds of the tables. -/
structure Tables (st : EventStore) : Prop where
  dense : st.committed.map (·.seq) = List.range st.committed.length
  keys : ∀ row ∈ st.committed, ∀ other ∈ st.committed, ∀ key,
    row.idempotencyKey = some key → other.idempotencyKey = some key → row = other
  pending : ∀ entry ∈ st.pending, st.lock = some entry.1
  lock : ∀ ticket, st.lock = some ticket → ticket < st.nextTicket
  checked : (st.checked.map (·.2)).Nodup

structure EventInv (st : EventStore) (crew : Nat → Option (Launched × EventView)) : Prop where
  tables : Tables st
  knows : ∀ i q, crew i = some q → Knows st q
  apart : ∀ i j q r, crew i = some q → crew j = some r → q.1.ticket = r.1.ticket → i = j
  answered : ∀ answer ∈ st.answers, AnswerFits st answer

/-- What a statement of the append with a ticket does to the others. -/
structure Change (ticket : Nat) (st st' : EventStore) : Prop where
  kept : st.committed <+: st'.committed
  fresh : ∀ row ∈ st'.committed, row ∈ st.committed ∨
    ∀ key, row.idempotencyKey = some key → (ticket, key) ∈ st.checked
  tickets : st.nextTicket ≤ st'.nextTicket
  lock : ∀ other, other ≠ ticket → (st'.lock = some other ↔ st.lock = some other)
  locked : ∀ other, other ≠ ticket → st.lock = some other →
    st'.pending = st.pending ∧ st'.committed = st.committed
  checked : ∀ entry ∈ st.checked, entry.1 ≠ ticket → entry ∈ st'.checked
  answers : st'.answers = st.answers

theorem Change.refl (ticket : Nat) (st : EventStore) : Change ticket st st where
  kept := List.prefix_refl _
  fresh _ mem := .inl mem
  tickets := Nat.le_refl _
  lock _ _ := Iff.rfl
  locked _ _ _ := ⟨rfl, rfl⟩
  checked _ mem _ := mem
  answers := rfl

section steps
variable {st st' : EventStore} {crew : Nat → Option (Launched × EventView)} {id : Nat}
  {l : Launched} {v v' : EventView}

/-- Another append still knows what it knew. -/
theorem Knows.change {q : Launched × EventView} (knows : Knows st q) {ticket : Nat}
    (tables : Tables st) (change : Change ticket st st') (other : q.1.ticket ≠ ticket) :
    Knows st' q where
  launched := knows.launched
  ticket := Nat.lt_of_lt_of_le knows.ticket change.tickets
  usable := knows.usable
  holds holds := (change.lock _ other).mpr (knows.holds holds)
  outside outside is := knows.outside outside ((change.lock _ other).mp is)
  looked looked key is := by
    obtain ⟨entered, none_⟩ := knows.looked looked key is
    refine ⟨change.checked _ entered other, fun row mem same => ?_⟩
    rcases change.fresh row mem with old | new
    · exact none_ row old same
    · have both := List.inj_on_of_nodup_map tables.checked entered (new key same) rfl
      exact other (congrArg Prod.fst both)
  stage := by
    have fits := knows.stage
    have locked (holds : q.2.stage.holds) := change.locked _ other (knows.holds holds)
    cases stage : q.2.stage with
    | holding =>
      rw [stage] at fits locked
      exact (locked trivial).1.trans fits
    | numbered next =>
      rw [stage] at fits locked
      obtain ⟨pending, committed⟩ := locked trivial
      unfold StageFits
      rw [pending, committed]
      exact fits
    | inserted row =>
      rw [stage] at fits locked
      obtain ⟨pending, committed⟩ := locked trivial
      unfold StageFits
      rw [pending, committed]
      exact fits
    | found row =>
      rw [stage] at fits
      exact ⟨change.kept.subset fits.1, fits.2⟩
    | done row =>
      rw [stage] at fits
      exact ⟨change.kept.subset fits.1, fits.2⟩
    | refused =>
      rw [stage] at fits
      exact fits
    | _ => trivial

theorem AnswerFits.change {answer : Launched × Answer} (fits : AnswerFits st answer)
    (kept : st.committed <+: st'.committed) : AnswerFits st' answer :=
  ⟨fun row is => ⟨kept.subset (fits.event row is).1, (fits.event row is).2⟩, fits.fair⟩

/-- A statement of append `id`. -/
theorem eventInv_update (inv : EventInv st crew) (here : crew id = some (l, v))
    (change : Change l.ticket st st') (tables : Tables st') (knows : Knows st' (l, v')) :
    EventInv st' (Function.update crew id (some (l, v'))) := by
  have before {i : Nat} {q : Launched × EventView}
      (there : Function.update crew id (some (l, v')) i = some q) :
      ∃ q', crew i = some q' ∧ q'.1 = q.1 := by
    rcases update_cases there with ⟨rfl, new⟩ | ⟨-, there⟩
    · cases new
      exact ⟨_, here, rfl⟩
    · exact ⟨q, there, rfl⟩
  refine ⟨tables, fun i q there => ?_, fun i j q r one two same => ?_, fun answer mem => ?_⟩
  · rcases update_cases there with ⟨rfl, new⟩ | ⟨different, there⟩
    · cases new
      exact knows
    · refine (inv.knows i q there).change inv.tables change fun same => ?_
      exact different (inv.apart i id q _ there here same)
  · obtain ⟨q', there, isQ⟩ := before one
    obtain ⟨r', there', isR⟩ := before two
    exact inv.apart i j q' r' there there' (by rw [isQ, isR, same])
  · rw [change.answers] at mem
    exact (inv.answered answer mem).change change.kept

/-- A statement that changes nothing and after which the append holds nothing and is not done. -/
theorem eventInv_break (inv : EventInv st crew) (here : crew id = some (l, v)) :
    EventInv st (Function.update crew id (some (l, { v with stage := .broken }))) := by
  have knows := inv.knows id _ here
  refine eventInv_update inv here (.refl _ st) inv.tables ⟨knows.launched, knows.ticket,
    knows.usable, fun holds => holds.elim, fun outside => outside.elim, fun looked => looked.elim,
    trivial⟩

/-- The number after the last one. -/
theorem next_seq (n : Nat) : (List.range n).max?.elim 0 (· + 1) = n := by
  cases n with
  | zero => rfl
  | succ n =>
    have last : (List.range (n + 1)).max? = some n := by
      rw [List.max?_eq_some_iff]
      refine ⟨List.mem_range.mpr (Nat.lt_succ_self n), fun m mem => ?_⟩
      exact Nat.lt_succ_iff.mp (List.mem_range.mp mem)
    rw [last]
    rfl

/-- The look finds no event with the key. -/
theorem eventInv_pass (inv : EventInv st crew) (here : crew id = some (l, v)) {key : String}
    (asking : v.stage = .asking) (asks : l.asks = some key)
    (absent : st.committed.find? (fun row => row.idempotencyKey = some key) = none)
    (fresh : key ∉ st.checked.map (·.2)) :
    EventInv { st with checked := (l.ticket, key) :: st.checked }
      (Function.update crew id (some (l, { v with stage := .passed }))) := by
  have knows := inv.knows id _ here
  have outside : st.lock ≠ some l.ticket := by
    refine knows.outside ?_
    rw [show (l, v).2.stage = .asking from asking]
    trivial
  have change : Change l.ticket st { st with checked := (l.ticket, key) :: st.checked } :=
    { Change.refl l.ticket st with checked := fun _ mem _ => List.mem_cons_of_mem _ mem }
  have tables : Tables { st with checked := (l.ticket, key) :: st.checked } :=
    { inv.tables with checked := List.nodup_cons.mpr ⟨fresh, inv.tables.checked⟩ }
  refine eventInv_update inv here change tables ⟨knows.launched, knows.ticket, knows.usable,
    fun holds => holds.elim, fun _ => outside, fun _ other is => ?_, trivial⟩
  obtain ⟨mine, -⟩ := Option.filter_eq_some_iff.mp asks
  obtain rfl := Option.some.inj (mine.symm.trans is)
  refine ⟨List.mem_cons_self, fun row mem same => ?_⟩
  have none_ := List.find?_eq_none.mp absent row mem
  exact none_ (by simpa using same)

theorem eventInv_lock (inv : EventInv st crew) (here : crew id = some (l, v))
    (passed : v.stage = .passed) (free : ¬st.lock.any (· ≠ l.ticket) = true) :
    EventInv { st with lock := some l.ticket }
      (Function.update crew id (some (l, { v with stage := .holding }))) := by
  have knows := inv.knows id _ here
  have outside : st.lock ≠ some l.ticket := by
    refine knows.outside ?_
    rw [show (l, v).2.stage = .passed from passed]
    trivial
  have unlocked : st.lock = none := by
    cases lock : st.lock with
    | none => rfl
    | some holder =>
      rw [lock] at free outside
      simp at free outside
      exact absurd free outside
  have change : Change l.ticket st { st with lock := some l.ticket } := by
    refine { Change.refl l.ticket st with
      lock := fun other different => ?_, locked := fun other _ is => ?_ }
    · rw [unlocked]
      simpa using different.symm
    · rw [unlocked] at is
      cases is
  have empty : st.pending = [] := by
    refine List.eq_nil_iff_forall_not_mem.mpr fun entry mem => ?_
    have held := inv.tables.pending entry mem
    rw [unlocked] at held
    cases held
  have tables : Tables { st with lock := some l.ticket } := by
    refine { inv.tables with pending := fun entry mem => ?_, lock := fun ticket is => ?_ }
    · have mem : entry ∈ st.pending := mem
      rw [empty] at mem
      cases mem
    · obtain rfl := Option.some.inj is
      exact knows.ticket
  refine eventInv_update inv here change tables ⟨knows.launched, knows.ticket, knows.usable,
    fun _ => rfl, fun outside => outside.elim, fun _ => knows.looked ?_, empty⟩
  rw [show (l, v).2.stage = .passed from passed]
  trivial

theorem eventInv_number (inv : EventInv st crew) (here : crew id = some (l, v))
    (holding : v.stage = .holding) :
    EventInv st (Function.update crew id (some (l, { v with
      stage := .numbered ((st.committed.map (·.seq)).max?.elim 0 (· + 1)) }))) := by
  have knows := inv.knows id _ here
  have fits := knows.stage
  have holds := knows.holds
  have looked := knows.looked
  rw [show (l, v).2.stage = .holding from holding] at fits holds looked
  refine eventInv_update inv here (.refl _ st) inv.tables ⟨knows.launched, knows.ticket,
    knows.usable, fun _ => holds trivial, fun outside => outside.elim, fun _ => looked trivial,
    fits, ?_⟩
  rw [inv.tables.dense]
  exact next_seq _

/-- Under the lock the next row meets no other. -/
theorem eventInv_insert (inv : EventInv st crew) (here : crew id = some (l, v)) {next : Nat}
    (numbered : v.stage = .numbered next) :
    st.committed.any (EventStore.conflicts (l.row next)) = false ∧
      EventInv { st with pending := (l.ticket, l.row next) :: st.pending }
        (Function.update crew id (some (l, { v with stage := .inserted (l.row next) }))) := by
  have knows := inv.knows id _ here
  have fits := knows.stage
  have holds := knows.holds
  have looked := knows.looked
  rw [show (l, v).2.stage = .numbered next from numbered] at fits holds looked
  obtain ⟨empty, rfl⟩ := fits
  have lock : st.lock = some l.ticket := holds trivial
  constructor
  · refine Bool.eq_false_iff.mpr fun hit => ?_
    obtain ⟨row, mem, conflict⟩ := List.any_eq_true.mp hit
    unfold EventStore.conflicts at conflict
    simp only [Bool.or_eq_true, Bool.and_eq_true, decide_eq_true_eq] at conflict
    rcases conflict with seq | ⟨some_, key⟩
    · have small : row.seq ∈ st.committed.map (·.seq) := List.mem_map_of_mem mem
      rw [inv.tables.dense, ← seq] at small
      exact Nat.lt_irrefl _ (List.mem_range.mp small)
    · obtain ⟨mine, is⟩ := Option.isSome_iff_exists.mp some_
      exact (looked trivial mine is).2 row mem (key.symm.trans is)
  · have change : Change l.ticket st
        { st with pending := (l.ticket, l.row st.committed.length) :: st.pending } := by
      refine { Change.refl l.ticket st with locked := fun other different is => ?_ }
      exact absurd (Option.some.inj (is.symm.trans lock)) different
    have tables : Tables
        { st with pending := (l.ticket, l.row st.committed.length) :: st.pending } := by
      refine { inv.tables with pending := fun entry mem => ?_ }
      rcases List.mem_cons.mp mem with rfl | old
      · exact lock
      · exact inv.tables.pending entry old
    refine eventInv_update inv here change tables ⟨knows.launched, knows.ticket, knows.usable,
      fun _ => lock, fun outside => outside.elim, fun _ => looked trivial, ?_, rfl⟩
    show (l.ticket, l.row st.committed.length) :: st.pending = _
    rw [empty]

/-! ### The end of a transaction -/

theorem unlocked_other {ticket other : Nat} (different : other ≠ ticket) :
    st.unlocked ticket = some other ↔ st.lock = some other := by
  unfold EventStore.unlocked
  split
  · next mine =>
    rw [mine]
    simpa using different.symm
  · rfl

theorem unlocked_some {ticket other : Nat} (is : st.unlocked ticket = some other) :
    st.lock = some other ∧ other ≠ ticket := by
  unfold EventStore.unlocked at is
  split at is
  · cases is
  · next open_ =>
    refine ⟨is, ?_⟩
    rintro rfl
    exact open_ is

/-- What is left uncommitted is another's. -/
theorem pending_left (tables : Tables st) {ticket : Nat} {entry : Nat × EventRow}
    (mem : entry ∈ st.pending.filter fun entry => entry.1 ≠ ticket) :
    st.unlocked ticket = some entry.1 := by
  obtain ⟨there, other⟩ := List.mem_filter.mp mem
  exact (unlocked_other (by simpa using other)).mpr (tables.pending entry there)

theorem pending_locked (tables : Tables st) {ticket other : Nat} (different : other ≠ ticket)
    (lock : st.lock = some other) :
    st.pending.filter (fun entry => entry.1 ≠ ticket) = st.pending ∧
      st.pending.filter (fun entry => entry.1 = ticket) = [] := by
  have owner (entry : Nat × EventRow) (mem : entry ∈ st.pending) : entry.1 = other :=
    Option.some.inj ((tables.pending entry mem).symm.trans lock)
  constructor
  · rw [List.filter_eq_self]
    intro entry mem
    rw [owner entry mem]
    simpa using different
  · rw [List.filter_eq_nil_iff]
    intro entry mem
    rw [owner entry mem]
    simpa using different

theorem eventInv_rollback (inv : EventInv st crew) (here : crew id = some (l, v)) :
    EventInv (st.rollback l.ticket)
      (Function.update crew id (some (l, { v with stage := .broken }))) := by
  have knows := inv.knows id _ here
  have change : Change l.ticket st (st.rollback l.ticket) :=
    { Change.refl l.ticket st with
      lock := fun other different => unlocked_other different
      locked := fun other different lock => ⟨(pending_locked inv.tables different lock).1, rfl⟩
      checked := fun entry mem other => List.mem_filter.mpr ⟨mem, by simpa using other⟩ }
  have tables : Tables (st.rollback l.ticket) :=
    { inv.tables with
      pending := fun entry mem => pending_left inv.tables mem
      lock := fun ticket is => inv.tables.lock ticket (unlocked_some is).1
      checked := inv.tables.checked.sublist (List.filter_sublist.map _) }
  exact eventInv_update inv here change tables ⟨knows.launched, knows.ticket, knows.usable,
    fun holds => holds.elim, fun outside => outside.elim, fun looked => looked.elim, trivial⟩

/-- What a commit does: the append's row, if it inserted one, is the last. -/
theorem commit_spec (inv : EventInv st crew) (here : crew id = some (l, v)) {row : EventRow}
    (stage : v.stage = .inserted row ∨ v.stage = .found row) :
    Change l.ticket st (st.commit l.ticket) ∧ Tables (st.commit l.ticket) ∧
      row ∈ (st.commit l.ticket).committed ∧ row.idempotencyKey = l.idempotencyKey := by
  have knows := inv.knows id _ here
  have fits := knows.stage
  have looked := knows.looked
  have outside := knows.outside
  rcases stage with inserted | found
  · rw [show (l, v).2.stage = .inserted row from inserted] at fits looked
    obtain ⟨pending, rfl⟩ := fits
    have committed : (st.commit l.ticket).committed =
        st.committed ++ [l.row st.committed.length] := by
      unfold EventStore.commit
      rw [pending]
      simp
    have left : (st.commit l.ticket).pending = [] := by
      unfold EventStore.commit
      rw [pending]
      simp
    have lock : st.lock = some l.ticket :=
      inv.tables.pending (l.ticket, _) (by rw [pending]; exact List.mem_cons_self)
    refine ⟨⟨?_, fun row mem => ?_, Nat.le_refl _, fun other different => unlocked_other different,
      fun other different is => ?_, fun entry mem other =>
        List.mem_filter.mpr ⟨mem, by simpa using other⟩, rfl⟩, ⟨?_, ?_, ?_, fun ticket is =>
        inv.tables.lock ticket (unlocked_some is).1,
        inv.tables.checked.sublist (List.filter_sublist.map _)⟩, ?_, rfl⟩
    · rw [committed]
      exact List.prefix_append _ _
    · rw [committed] at mem
      rcases List.mem_append.mp mem with old | new
      · exact .inl old
      · rw [List.mem_singleton.mp new]
        exact .inr fun key is => (looked trivial key is).1
    · exact absurd (Option.some.inj (is.symm.trans lock)) different
    · rw [committed, List.map_append, List.length_append, inv.tables.dense]
      exact List.range_succ.symm
    · have apart (row : EventRow) (mem : row ∈ st.committed) (key : String)
          (is : l.idempotencyKey = some key) : row.idempotencyKey ≠ some key :=
        (looked trivial key is).2 row mem
      intro row mem other mem' key is is'
      rw [committed] at mem mem'
      rcases List.mem_append.mp mem with old | new <;>
        rcases List.mem_append.mp mem' with old' | new'
      · exact inv.tables.keys row old other old' key is is'
      · rw [List.mem_singleton.mp new'] at is'
        exact absurd is (apart row old key is')
      · rw [List.mem_singleton.mp new] at is
        exact absurd is' (apart other old' key is)
      · rw [List.mem_singleton.mp new, List.mem_singleton.mp new']
    · rw [left]
      intro entry mem
      cases mem
    · rw [committed]
      exact List.mem_append_right _ List.mem_cons_self
  · rw [show (l, v).2.stage = .found row from found] at fits outside
    have unheld : st.lock ≠ some l.ticket := outside trivial
    have none_ : st.pending.filter (fun entry => entry.1 = l.ticket) = [] := by
      rw [List.filter_eq_nil_iff]
      intro entry mem is
      have held := inv.tables.pending entry mem
      rw [show entry.1 = l.ticket by simpa using is] at held
      exact unheld held
    have committed : (st.commit l.ticket).committed = st.committed := by
      unfold EventStore.commit
      rw [none_]
      simp
    refine ⟨⟨?_, fun row mem => ?_, Nat.le_refl _, fun other different => unlocked_other different,
      fun other different is => ⟨(pending_locked inv.tables different is).1, committed⟩,
      fun entry mem other => List.mem_filter.mpr ⟨mem, by simpa using other⟩, rfl⟩, ⟨?_, ?_,
        fun entry mem => pending_left inv.tables mem, fun ticket is =>
        inv.tables.lock ticket (unlocked_some is).1,
        inv.tables.checked.sublist (List.filter_sublist.map _)⟩, ?_, fits.2⟩
    · exact ⟨[], by rw [List.append_nil, committed]⟩
    · rw [committed] at mem
      exact .inl mem
    · rw [committed]
      exact inv.tables.dense
    · rw [committed]
      exact inv.tables.keys
    · rw [committed]
      exact fits.1

theorem eventInv_commit (inv : EventInv st crew) (here : crew id = some (l, v)) {row : EventRow}
    (stage : v.stage = .inserted row ∨ v.stage = .found row) {after : Stage}
    (ends : after = .done row ∨ after = .broken) :
    EventInv (st.commit l.ticket)
      (Function.update crew id (some (l, { v with stage := after }))) := by
  have knows := inv.knows id _ here
  obtain ⟨change, tables, mem, key⟩ := commit_spec inv here stage
  refine eventInv_update inv here change tables ?_
  rcases ends with rfl | rfl
  · exact ⟨knows.launched, knows.ticket, knows.usable, fun holds => holds.elim,
      fun outside => outside.elim, fun looked => looked.elim, mem, key⟩
  · exact ⟨knows.launched, knows.ticket, knows.usable, fun holds => holds.elim,
      fun outside => outside.elim, fun looked => looked.elim, trivial⟩

theorem eventInv_op (inv : EventInv st crew) (here : crew id = some (l, v)) {op : EventOp}
    {reply : op.Reply} {luck : Luck} {sessionThere : Bool}
    (permitted : eventProtocol.permits v op)
    (unraced : ∀ ticket key, op = .findByKey ticket key → key ∉ st.checked.map (·.2))
    (performed : performEvent sessionThere st luck op = some (reply, st')) :
    EventInv st' (Function.update crew id (some (l, eventProtocol.observe v op reply))) := by
  have knows := inv.knows id _ here
  have launched : v.launched = l := knows.launched
  cases op with
  | findByKey ticket key =>
    obtain ⟨asking, rfl, asks⟩ := permitted
    rw [launched] at asks
    obtain ⟨mine, -⟩ := Option.filter_eq_some_iff.mp asks
    have text : isText key = true := (knows.usable key mine).2
    simp only [performEvent, text, Bool.not_true, Bool.false_eq_true, if_false, launched]
      at performed
    split at performed
    · cases performed
      exact eventInv_break inv here
    · split at performed
      · next row found =>
        cases performed
        have mem := List.mem_of_find?_eq_some found
        have same := List.find?_some found
        refine eventInv_update inv here (.refl _ _) inv.tables ⟨knows.launched, knows.ticket,
          knows.usable, fun holds => holds.elim, fun _ => knows.outside ?_,
          fun looked => looked.elim, mem, ?_⟩
        · rw [show (l, v).2.stage = .asking from asking]
          trivial
        · exact (by simpa using same : row.idempotencyKey = some key).trans mine.symm
      · next absent =>
        cases performed
        exact eventInv_pass inv here asking asks absent (unraced _ key rfl)
  | lockSession ticket =>
    obtain ⟨passed, rfl⟩ := permitted
    simp only [performEvent, launched] at performed
    split at performed
    · cases performed
      exact eventInv_break inv here
    · split at performed
      · cases performed
        exact eventInv_break inv here
      · split at performed
        · cases performed
        · next free =>
          cases performed
          exact eventInv_lock inv here passed free
  | lastSeq =>
    simp only [performEvent] at performed
    split at performed
    · cases performed
      exact eventInv_break inv here
    · cases performed
      exact eventInv_number inv here permitted
  | insert ticket row =>
    obtain ⟨rfl, next, numbered, rfl⟩ := permitted
    simp only [performEvent, launched] at performed
    obtain ⟨free, inserted⟩ := eventInv_insert inv here numbered
    split at performed
    · cases performed
      exact eventInv_break inv here
    · simp only [free, Bool.false_eq_true, if_false] at performed
      split at performed
      · cases performed
      · cases performed
        rw [launched]
        exact inserted
  | touchSession =>
    simp only [performEvent] at performed
    cases performed
    cases luck with
    | fine => exact eventInv_update inv here (.refl _ _) inv.tables knows
    | fails => exact eventInv_break inv here
    | lost => exact eventInv_break inv here
  | commit ticket =>
    obtain ⟨rfl, row, stage⟩ := permitted
    simp only [performEvent, launched] at performed
    cases luck with
    | fine =>
      cases performed
      have seen : eventProtocol.observe v (.commit v.launched.ticket) true =
          { v with stage := .done row } := by
        rcases stage with is | is <;> simp [eventProtocol, is]
      rw [seen]
      exact eventInv_commit inv here stage (.inl rfl)
    | fails =>
      cases performed
      exact eventInv_break inv here
    | lost =>
      cases performed
      exact eventInv_commit inv here stage (.inr rfl)
  | rollback ticket =>
    obtain rfl := permitted
    simp only [performEvent, launched] at performed
    cases performed
    have seen : eventProtocol.observe v (.rollback v.launched.ticket) () =
        { v with stage := .broken } := by
      cases stage : v.stage with
      | refused =>
        have fits := knows.stage
        rw [show (l, v).2.stage = .refused from stage] at fits
        exact fits.elim
      | _ => simp [eventProtocol, stage]
    rw [seen]
    exact eventInv_rollback inv here

theorem eventInv_launch (inv : EventInv st crew) (free : crew id = none)
    (ticket : l.ticket = st.nextTicket)
    (usable : ∀ key ∈ l.idempotencyKey, isBlank key = false ∧ isText key = true) :
    EventInv { st with nextTicket := st.nextTicket + 1 }
      (Function.update crew id (some (l, starting l))) := by
  have change : Change st.nextTicket st { st with nextTicket := st.nextTicket + 1 } :=
    { Change.refl st.nextTicket st with tickets := Nat.le_succ _ }
  have older {i : Nat} {q : Launched × EventView} (there : crew i = some q) :
      q.1.ticket ≠ st.nextTicket := Nat.ne_of_lt (inv.knows i q there).ticket
  refine ⟨{ inv.tables with lock := fun other is => Nat.lt_succ_of_lt (inv.tables.lock other is) },
    fun i q there => ?_, fun i j q r one two same => ?_, fun answer mem =>
      (inv.answered answer mem).change change.kept⟩
  · rcases update_cases there with ⟨rfl, new⟩ | ⟨-, there⟩
    · cases new
      have stages : (starting l).stage = .asking ∨
          (starting l).stage = .passed ∧ l.idempotencyKey = none := by
        unfold starting
        cases mine : l.idempotencyKey with
        | none => exact .inr ⟨by simp [Launched.asks, mine], rfl⟩
        | some key =>
          have filled := (usable key mine).1
          exact .inl (by simp [Launched.asks, mine, filled])
      refine ⟨rfl, by show l.ticket < st.nextTicket + 1; omega, usable, fun holds => ?_,
        fun _ is => ?_, fun looked key is => ?_, ?_⟩
      · rcases stages with stage | ⟨stage, -⟩ <;>
          · rw [show (l, starting l).2.stage = _ from stage] at holds
            exact holds.elim
      · have small : l.ticket < st.nextTicket := inv.tables.lock _ is
        omega
      · rcases stages with stage | ⟨-, none_⟩
        · rw [show (l, starting l).2.stage = _ from stage] at looked
          exact looked.elim
        · rw [show (l, starting l).1.idempotencyKey = none from none_] at is
          cases is
      · rcases stages with stage | ⟨stage, -⟩ <;>
          · rw [show (l, starting l).2.stage = _ from stage]
            trivial
    · exact (inv.knows i q there).change inv.tables change (older there)
  · rcases update_cases one with ⟨rfl, new⟩ | ⟨-, first⟩
    · cases new
      rcases update_cases two with ⟨rfl, -⟩ | ⟨-, second⟩
      · rfl
      · exact absurd (same.symm.trans ticket) (older second)
    · rcases update_cases two with ⟨rfl, new⟩ | ⟨-, second⟩
      · cases new
        exact absurd (same.trans ticket) (older first)
      · exact inv.apart i j q r first second same

theorem eventInv_finish (inv : EventInv st crew) (here : crew id = some (l, v)) {answer : Answer}
    (ended : Ended l answer v) :
    EventInv { st with answers := (l, answer) :: st.answers } (Function.update crew id none) := by
  have fits := (inv.knows id _ here).stage
  have others {i : Nat} {q : Launched × EventView}
      (there : Function.update crew id none i = some q) : crew i = some q := by
    rcases update_cases there with ⟨-, new⟩ | ⟨-, there⟩
    · cases new
    · exact there
  refine ⟨{ inv.tables with }, fun i q there => ?_, fun i j q r one two same =>
    inv.apart i j q r (others one) (others two) same, fun other mem => ?_⟩
  · have knows := inv.knows i q (others there)
    exact ⟨knows.launched, knows.ticket, knows.usable, knows.holds, knows.outside, knows.looked,
      knows.stage⟩
  · rcases List.mem_cons.mp mem with rfl | old
    · obtain ⟨-, ended⟩ := ended
      refine ⟨fun row is => ?_, ?_⟩
      · obtain rfl : answer = .event row := is
        rw [show (l, v).2.stage = .done row from ended] at fits
        exact fits
      · cases answer with
        | uniqueViolation =>
          rw [show (l, v).2.stage = .refused from ended] at fits
          exact fits
        | rejected =>
          rw [show (l, v).2.stage = .refused from ended] at fits
          exact fits
        | _ => trivial
    · exact ⟨(inv.answered other old).event, (inv.answered other old).fair⟩

end steps

theorem eventInv_step {sessionThere : Bool} {s t : (eventSystem sessionThere).State}
    {a : (eventSystem sessionThere).Action} (all : (eventCertified sessionThere).AllFollow s)
    (inv : EventInv s.store ((eventCertified sessionThere).crew s))
    (unraced : Unraced sessionThere s a) (stepped : System.Stepped s a t) :
    EventInv t.store ((eventCertified sessionThere).crew t) := by
  have happened := Certified.happened all stepped
  generalize (eventCertified sessionThere).crew t = crew at happened ⊢
  generalize t.store = store at happened ⊢
  cases happened with
  | @launch id l store free launched =>
    simp only at launched
    split at launched
    · next ticket =>
      cases launched
      exact eventInv_launch inv free ticket unraced.1
    · cases launched
  | call here issues permitted performed =>
    refine eventInv_op inv here permitted ?_ performed
    rintro ticket key rfl
    have clear := unraced.2
    rwa [issues] at clear
  | loop => exact inv
  | finish here ended => exact eventInv_finish inv here ended
  | @tick tick store ticked => cases tick

theorem eventInv_empty (sessionThere : Bool) :
    EventInv (emptySession sessionThere).store fun _ => none where
  tables := by constructor <;> simp [emptySession]
  knows := by simp
  apart := by simp
  answered := by simp [emptySession]

theorem eventInv_run {sessionThere : Bool} {s : (eventSystem sessionThere).State}
    (run : System.Steps (Unraced sessionThere) (emptySession sessionThere) s) :
    EventInv s.store ((eventCertified sessionThere).crew s) :=
  ((eventCertified sessionThere).invariant
    (fun s => EventInv s.store ((eventCertified sessionThere).crew s))
    (fun _ => rfl) (eventInv_empty sessionThere)
    (fun _ _ _ all inv unraced stepped => eventInv_step all inv unraced stepped) run).2

/-! ### Appending -/

theorem perform_kept {sessionThere : Bool} {st st' : EventStore} {luck : Luck} {op : EventOp}
    {reply : op.Reply} (performed : performEvent sessionThere st luck op = some (reply, st')) :
    st.committed <+: st'.committed := by
  have commit (ticket : Nat) : st.committed <+: (st.commit ticket).committed :=
    List.prefix_append _ _
  have same : st.committed <+: st.committed := List.prefix_refl _
  cases op with
  | commit ticket =>
    cases luck <;> cases performed
    · exact commit ticket
    · exact same
    · exact commit ticket
  | _ =>
    simp only [performEvent] at performed
    repeat' split at performed
    all_goals
      first
      | cases performed; exact same
      | cases performed

/-- Events stay as they are, in their order. -/
theorem committed_kept {sessionThere : Bool} {s t : (eventSystem sessionThere).State}
    {C : (eventSystem sessionThere).State → (eventSystem sessionThere).Action → Prop}
    (run : System.Steps C s t) : s.store.committed <+: t.store.committed := by
  induction run with
  | refl => exact List.prefix_refl _
  | tail _ _ stepped ih =>
    refine ih.trans ?_
    cases System.step_cases stepped with
    | launch free launched =>
      simp only at launched
      split at launched
      · cases launched
        exact List.prefix_refl _
      · cases launched
    | call here performed => exact perform_kept performed
    | loop => exact List.prefix_refl _
    | finish => exact List.prefix_refl _
    | @tick tick store ticked => cases tick

theorem dense_of_inv {st : EventStore} {crew : Nat → Option (Launched × EventView)}
    (inv : EventInv st crew) : Dense st := by
  refine ⟨inv.tables.dense, fun a memA b memB key _ isA isB row row' eventA eventB => ?_,
    fun row mem other mem' key _ is is' => inv.tables.keys row mem other mem' key is is',
    fun a mem key _ _ => ?_⟩
  · obtain ⟨there, keyA⟩ := (inv.answered a memA).event row eventA
    obtain ⟨there', keyB⟩ := (inv.answered b memB).event row' eventB
    exact ⟨inv.tables.keys row there row' there' key (keyA.trans isA) (keyB.trans isB), there⟩
  · have fair := (inv.answered a mem).fair
    constructor
    · intro is
      rw [is] at fair
      exact fair
    · intro is
      rw [is] at fair
      exact fair

/-- The log of a session is dense, only grows and has one event for each key, as long as keys are
text that is not blank and no append looks for a key while another one, which has not found it, has
yet to end. -/
theorem session_events_dense (sessionThere : Bool) (s t : (eventSystem sessionThere).State)
    (run : System.Steps (Unraced sessionThere) (emptySession sessionThere) s)
    (later : System.Steps (Unraced sessionThere) s t) :
    Dense s.store ∧ s.store.committed <+: t.store.committed :=
  ⟨dense_of_inv (eventInv_run run), committed_kept later⟩

/-! ### Two appends with one key -/

def keyedAppend (ticket : Nat) : Launched where
  ticket := ticket
  idempotencyKey := some "key"
  event := { eventType := "user_message", level := none, payload := .null }

def Answer.seq : Answer → Option Nat
  | event row => some row.seq
  | _ => none

def Answer.violates : Answer → Bool
  | uniqueViolation => true
  | _ => false

/-- The second append finds the event of the first. -/
theorem session_events_dense_twice : ∃ s,
    System.Steps (Unraced true) (emptySession true) s ∧
      s.store.answers.map (·.2.seq) = [some 0, some 0] ∧
        Dense s.store ∧ s.store.committed <+: s.store.committed := by
  let actions : List (eventSystem true).Action :=
    .launch 0 (keyedAppend 0) :: List.replicate 6 (.call 0 .fine) ++
      [.finish 0, .launch 1 (keyedAppend 1), .call 1 .fine, .call 1 .fine, .finish 1]
  have done : ((System.exec (Unraced true) (emptySession true) actions).map
      fun s => s.store.answers.map (·.2.seq)) = some [some 0, some 0] := by decide +kernel
  obtain ⟨s, ran, answers⟩ := Option.map_eq_some_iff.mp done
  have steps := System.steps_of_exec ran
  exact ⟨s, steps, answers, session_events_dense true s s steps .refl⟩

/-- Both appends look for the key before either one inserts its event; the second insert meets the
unique index. -/
theorem session_event_refused : ¬ ∀ (sessionThere : Bool) (s t : (eventSystem sessionThere).State),
    System.Steps (fun _ _ => True) (emptySession sessionThere) s →
      System.Steps (fun _ _ => True) s t →
        Dense s.store ∧ s.store.committed <+: t.store.committed := by
  intro claim
  let actions : List (eventSystem true).Action :=
    [.launch 0 (keyedAppend 0), .launch 1 (keyedAppend 1), .call 0 .fine, .call 1 .fine] ++
      List.replicate 5 (.call 0 .fine) ++ List.replicate 4 (.call 1 .fine) ++ [.finish 1]
  have done : ((System.exec (fun _ _ => True) (emptySession true) actions).map
      fun s => s.store.answers.map fun a => (a.1.idempotencyKey, a.2.violates)) =
        some [(some "key", true)] := by decide +kernel
  obtain ⟨s, ran, answers⟩ := Option.map_eq_some_iff.mp done
  have refused : (some "key", true) ∈
      s.store.answers.map fun a => (a.1.idempotencyKey, a.2.violates) := by
    rw [answers]
    exact List.mem_cons_self
  obtain ⟨a, mem, is⟩ := List.mem_map.mp refused
  obtain ⟨key, violates⟩ := Prod.mk.inj is
  have accepted : idempotencyKeySchema "key" = true := by decide +kernel
  have unfailed := ((claim true s s (System.steps_of_exec ran) .refl).1.unfailed a mem "key"
    accepted key).1
  cases answer : a.2 with
  | uniqueViolation => exact unfailed answer
  | _ =>
    rw [answer] at violates
    cases violates

end Vespid.Db.SessionEvents
