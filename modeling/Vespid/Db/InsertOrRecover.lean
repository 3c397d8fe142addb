import Mathlib.Data.List.Nodup
import Mathlib.Logic.Function.Basic
import Vespid.Lib.History

/-!
# Inserts that recover

Calls that insert a row under a unique key and catch the violation, each in the one transaction
of `withTenantContext`. The statement that meets a taken key aborts the transaction, so what the
catch block issues next fails; an insert that meets a key another transaction has not committed
yet waits for it.
-/

namespace Vespid.Db.InsertOrRecover

open History

/-- A key of `channel_allowlist_entries` or of `channel_messages`. -/
inductive RecoverKey where
  | allowlistEntry (accountId scope subject : String)
  | channelMessage (accountId direction providerMessageId : String)
  deriving DecidableEq

inductive Key where
  | revision (familyId : String) (revision : Nat)
  | recover (key : RecoverKey)
  deriving DecidableEq

structure Row where
  key : Key
  id : Nat
  deriving DecidableEq

/-- `createWorkflowDraftFromWorkflow` of a source in the family, or one of
`putChannelAllowlistEntry` and `createChannelMessage`, with the id of the row it inserts. -/
inductive Request where
  | draft (familyId : String)
  | put (key : RecoverKey) (id : Nat)
  deriving DecidableEq

/-- What a call does next, or how it has ended. -/
inductive Phase where
  | selecting (attempt : Nat)
  | inserting (attempt : Nat) (row : Row)
  | reading (key : RecoverKey)
  | committing (row : Row) (inserted : Bool)
  | throwing
  | returned (row : Row)
  | threw
  deriving DecidableEq

/-- A call with the state of its transaction. -/
structure Call where
  request : Request
  aborted : Bool
  phase : Phase
  deriving DecidableEq

/-- The committed rows, and the calls in the order in which they were made. -/
structure Database where
  committed : List Row
  calls : List Call
  deriving DecidableEq

/-- A call is made, or the `n`th one issues its next statement; `fresh` is the UUID a draft
draws. -/
inductive Event where
  | begin (request : Request)
  | step (n fresh : Nat)

def revisionOf (familyId : String) (row : Row) : Option Nat :=
  match row.key with
  | .revision family revision => if family = familyId then some revision else none
  | .recover _ => none

def revisions (familyId : String) (rows : List Row) : List Nat :=
  rows.filterMap (revisionOf familyId)

/-- `max(revision) ?? 0` -/
def maxRevision (familyId : String) (rows : List Row) : Nat :=
  (revisions familyId rows).foldr max 0

/-- The transaction has inserted a row under the key and not committed it. -/
def Call.holds (call : Call) (key : Key) : Bool :=
  match call.phase with
  | .committing row true => row.key = key
  | _ => false

def Call.start : Request → Call
  | .draft familyId => { request := .draft familyId, aborted := false, phase := .selecting 0 }
  | .put key id =>
    { request := .put key id, aborted := false
      phase := .inserting 0 { key := .recover key, id } }

/-- After an insert that met a taken key. -/
def Call.violated (call : Call) (attempt : Nat) : Call :=
  { call with
    aborted := true
    phase := match call.request with
      | .draft _ => if attempt = 2 then .throwing else .selecting (attempt + 1)
      | .put key _ => .reading key }

def select (s : Database) (call : Call) (attempt fresh : Nat) : Call :=
  match call.request with
  | .draft familyId =>
    if call.aborted then { call with phase := .throwing }
    else { call with
      phase := .inserting attempt
        { key := .revision familyId (maxRevision familyId s.committed + 1), id := fresh } }
  | .put _ _ => call

def insert (s : Database) (call : Call) (attempt : Nat) (row : Row) : Call :=
  if call.aborted then { call with phase := .throwing }
  else if row.key ∈ s.committed.map (·.key) then call.violated attempt
  else { call with phase := .committing row true }

def read (s : Database) (call : Call) (key : RecoverKey) : Call :=
  if call.aborted then { call with phase := .throwing }
  else match s.committed.find? (·.key = .recover key) with
    | some row => { call with phase := .committing row false }
    | none => { call with phase := .throwing }

/-- The next statement of a call, with what it commits. A call that has ended does nothing, and an
insert waits while another transaction holds its key. -/
def advance (s : Database) (call : Call) (fresh : Nat) : Option (Call × List Row) :=
  match call.phase with
  | .selecting attempt => some (select s call attempt fresh, [])
  | .inserting attempt row =>
    if !call.aborted && s.calls.any (·.holds row.key) then none
    else some (insert s call attempt row, [])
  | .reading key => some (read s call key, [])
  | .committing row inserted =>
    some ({ call with phase := .returned row }, if inserted && !call.aborted then [row] else [])
  | .throwing => some ({ call with phase := .threw }, [])
  | .returned _ | .threw => none

def next (s : Database) : Event → Database
  | .begin request => { s with calls := s.calls ++ [Call.start request] }
  | .step n fresh =>
    match s.calls[n]?.bind fun call => advance s call fresh with
    | some (call, added) => { committed := s.committed ++ added, calls := s.calls.set n call }
    | none => s

/-- The row that a call is about to insert. -/
def Call.inserts (call : Call) : Option Row :=
  match call.phase with
  | .inserting _ row => some row
  | _ => none

/-- The insert that a call is about to issue meets no committed row with its key. -/
def MeetsFree (s : Database) : Event → Prop
  | .begin _ => True
  | .step n _ =>
    ∀ call ∈ s.calls[n]?, ∀ row ∈ call.inserts, row.key ∉ s.committed.map (·.key)

instance (s : Database) : (e : Event) → Decidable (MeetsFree s e)
  | .begin _ => isTrue trivial
  | .step n _ => inferInstanceAs (Decidable (∀ call ∈ s.calls[n]?, ∀ row ∈ call.inserts,
      row.key ∉ s.committed.map (·.key)))

def Call.ended (call : Call) : Prop := (∃ row, call.phase = .returned row) ∨ call.phase = .threw

theorem next_cases (s : Database) (e : Event) :
    next s e = s ∨
    (∃ request, next s e = { s with calls := s.calls ++ [Call.start request] }) ∨
    ∃ n fresh call call' added, e = .step n fresh ∧ s.calls[n]? = some call ∧
      advance s call fresh = some (call', added) ∧
      next s e = { committed := s.committed ++ added, calls := s.calls.set n call' } := by
  cases e with
  | begin request => exact .inr (.inl ⟨request, rfl⟩)
  | step n fresh =>
    cases moved : s.calls[n]?.bind fun call => advance s call fresh with
    | none => exact .inl (by simp only [next, moved])
    | some result =>
      obtain ⟨call, found, advanced⟩ := Option.bind_eq_some_iff.mp moved
      exact .inr (.inr ⟨n, fresh, call, result.1, result.2, rfl, found, advanced,
        by simp only [next, moved]⟩)

/-! ### A violation is not recovered from -/

/-- A call is aborted from the statement that meets a taken key on, and such a call does not
come to a row. -/
structure Sound (call : Call) : Prop where
  aborted : call.aborted = true → (∀ row inserted, call.phase ≠ .committing row inserted) ∧
    ∀ row, call.phase ≠ .returned row
  live : call.aborted = false → call.phase ≠ .throwing ∧ call.phase ≠ .threw ∧
    ∀ key, call.phase ≠ .reading key

theorem sound_start (request : Request) : Sound (Call.start request) := by
  cases request <;> exact ⟨by simp [Call.start], by simp [Call.start]⟩

theorem sound_aborted {call : Call} (aborted : call.aborted = true)
    (committing : ∀ row inserted, call.phase ≠ .committing row inserted)
    (returned : ∀ row, call.phase ≠ .returned row) : Sound call :=
  ⟨fun _ => ⟨committing, returned⟩, by simp [aborted]⟩

theorem sound_live {call : Call} (live : call.aborted = false) (throwing : call.phase ≠ .throwing)
    (threw : call.phase ≠ .threw) (reading : ∀ key, call.phase ≠ .reading key) : Sound call :=
  ⟨by simp [live], fun _ => ⟨throwing, threw, reading⟩⟩

theorem sound_violated (call : Call) (attempt : Nat) : Sound (call.violated attempt) := by
  apply sound_aborted rfl
  all_goals
    unfold Call.violated
    cases call.request with
    | draft familyId => by_cases last : attempt = 2 <;> simp [last]
    | put key id => simp

theorem sound_insert {s : Database} {call : Call} {attempt : Nat} {row : Row} :
    Sound (insert s call attempt row) := by
  unfold insert
  cases aborted : call.aborted with
  | true =>
    rw [if_pos rfl]
    exact sound_aborted rfl (by simp) (by simp)
  | false =>
    rw [if_neg (by simp)]
    split
    · exact sound_violated call attempt
    · exact sound_live rfl (by simp) (by simp) (by simp)

theorem sound_select {s : Database} {call : Call} {attempt fresh : Nat} (sound : Sound call) :
    Sound (select s call attempt fresh) := by
  unfold select
  cases call.request with
  | draft familyId =>
    dsimp only
    cases aborted : call.aborted with
    | true =>
      rw [if_pos rfl]
      exact sound_aborted rfl (by simp) (by simp)
    | false =>
      rw [if_neg (by simp)]
      exact sound_live rfl (by simp) (by simp) (by simp)
  | put key id => exact sound

theorem sound_advance {s : Database} {call call' : Call} {fresh : Nat} {added : List Row}
    (sound : Sound call) (advanced : advance s call fresh = some (call', added)) : Sound call' := by
  unfold advance at advanced
  cases phase : call.phase with
  | selecting attempt =>
    simp only [phase, Option.some.injEq, Prod.mk.injEq] at advanced
    rw [← advanced.1]
    exact sound_select sound
  | inserting attempt row =>
    simp only [phase] at advanced
    split at advanced
    · cases advanced
    · cases advanced
      exact sound_insert
  | reading key =>
    have aborted : call.aborted = true := by
      by_contra live
      exact (sound.live (by simpa using live)).2.2 key phase
    simp only [phase, read, aborted, ↓reduceIte, Option.some.injEq, Prod.mk.injEq] at advanced
    rw [← advanced.1]
    exact sound_aborted rfl (by simp) (by simp)
  | committing row inserted =>
    have live : call.aborted = false := by
      by_contra aborted
      exact (sound.aborted (by simpa using aborted)).1 row inserted phase
    simp only [phase, Option.some.injEq, Prod.mk.injEq] at advanced
    rw [← advanced.1]
    exact sound_live live (by simp) (by simp) (by simp)
  | throwing =>
    have aborted : call.aborted = true := by
      by_contra live
      exact (sound.live (by simpa using live)).1 phase
    simp only [phase, Option.some.injEq, Prod.mk.injEq] at advanced
    rw [← advanced.1]
    exact sound_aborted aborted (by simp) (by simp)
  | returned row => simp [phase] at advanced
  | threw => simp [phase] at advanced

theorem sound_next (s : Database) (e : Event) (sound : ∀ call ∈ s.calls, Sound call) :
    ∀ call ∈ (next s e).calls, Sound call := by
  intro call member
  obtain same | ⟨request, same⟩ | ⟨n, fresh, before, after, added, -, found, advanced, same⟩ :=
    next_cases s e
  · rw [same] at member
    exact sound call member
  · rw [same] at member
    obtain old | started := List.mem_append.mp member
    · exact sound call old
    · rw [List.mem_singleton.mp started]
      exact sound_start request
  · rw [same] at member
    obtain old | rfl := List.mem_or_eq_of_mem_set member
    · exact sound call old
    · exact sound_advance (sound before (List.mem_of_getElem? found)) advanced

/-! ### While every insert finds its key free -/

theorem revisions_append (familyId : String) (rows added : List Row) :
    revisions familyId (rows ++ added) = revisions familyId rows ++ revisions familyId added :=
  List.filterMap_append

theorem le_foldr_max {ns : List Nat} {n : Nat} (listed : n ∈ ns) : n ≤ ns.foldr max 0 := by
  induction ns with
  | nil => cases listed
  | cons first rest ih =>
    rw [List.foldr_cons]
    obtain rfl | later := List.mem_cons.mp listed
    · omega
    · have := ih later
      omega

theorem foldr_max_le {ns : List Nat} {bound : Nat} (all : ∀ n ∈ ns, n ≤ bound) :
    ns.foldr max 0 ≤ bound := by
  induction ns with
  | nil => exact Nat.zero_le bound
  | cons first rest ih =>
    rw [List.foldr_cons]
    have here := all first List.mem_cons_self
    have later := ih fun n member => all n (List.mem_cons_of_mem _ member)
    omega

theorem le_maxRevision {familyId : String} {rows : List Row} {revision : Nat}
    (listed : revision ∈ revisions familyId rows) : revision ≤ maxRevision familyId rows :=
  le_foldr_max listed

theorem maxRevision_mono {familyId : String} (rows added : List Row) :
    maxRevision familyId rows ≤ maxRevision familyId (rows ++ added) := by
  apply foldr_max_le
  intro revision listed
  apply le_maxRevision
  rw [revisions_append]
  exact List.mem_append_left _ listed

theorem mem_revisions {familyId : String} {rows : List Row} {revision : Nat} :
    revision ∈ revisions familyId rows ↔
      Key.revision familyId revision ∈ rows.map (·.key) := by
  unfold revisions
  rw [List.mem_filterMap, List.mem_map]
  refine exists_congr fun row => and_congr_right fun _ => ?_
  unfold revisionOf
  cases row.key with
  | revision family n =>
    by_cases same : family = familyId
    · simp [same]
    · simp [same]
  | recover key => simp

/-- What is known of a call whose inserts have all found their keys free. -/
def Good (start s : Database) (call : Call) : Prop :=
  call.aborted = false ∧
  match call.phase with
  | .selecting _ => ∃ familyId, call.request = .draft familyId
  | .inserting _ row =>
    match call.request with
    | .draft familyId => ∃ revision, row.key = .revision familyId revision ∧
        maxRevision familyId start.committed < revision ∧
        revision ≤ maxRevision familyId s.committed + 1
    | .put key _ => row.key = .recover key
  | .committing row inserted =>
    inserted = true ∧ row.key ∉ s.committed.map (·.key) ∧
    match call.request with
    | .draft familyId => row.key = .revision familyId (maxRevision familyId s.committed + 1)
    | .put key _ => row.key = .recover key
  | .returned row => row ∈ s.committed ∧
    match call.request with
    | .draft familyId => ∃ revision, row.key = .revision familyId revision
    | .put key _ => row.key = .recover key
  | .reading _ | .throwing | .threw => False

/-- The new revisions of a family follow the greatest old one without a gap. -/
def Consecutive (start s : Database) (familyId : String) : Prop :=
  ∃ count, revisions familyId s.committed = revisions familyId start.committed ++
    List.range' (maxRevision familyId start.committed + 1) count

def Call.owns (call : Call) (key : Key) : Bool :=
  match call.phase with
  | .committing row true | .returned row => row.key = key
  | _ => false

structure Inv (start s : Database) : Prop where
  good : ∀ (i : Nat) (call : Call), s.calls[i]? = some call → Good start s call
  apart : ∀ (i j : Nat) (one other : Call) (key : Key), s.calls[i]? = some one →
    s.calls[j]? = some other → one.owns key = true → other.owns key = true → i = j
  consecutive : ∀ familyId, Consecutive start s familyId

theorem Consecutive.mono {start s : Database} {familyId : String}
    (consecutive : Consecutive start s familyId) :
    maxRevision familyId start.committed ≤ maxRevision familyId s.committed := by
  obtain ⟨count, listed⟩ := consecutive
  apply foldr_max_le
  intro revision member
  apply le_maxRevision
  rw [listed]
  exact List.mem_append_left _ member

theorem maxRevision_eq {start s : Database} {familyId : String} {count : Nat}
    (listed : revisions familyId s.committed = revisions familyId start.committed ++
      List.range' (maxRevision familyId start.committed + 1) count) :
    maxRevision familyId s.committed = maxRevision familyId start.committed + count := by
  apply Nat.le_antisymm
  · apply foldr_max_le
    intro n member
    rw [listed, List.mem_append, List.mem_range'_1] at member
    obtain old | new := member
    · have := le_maxRevision old
      omega
    · omega
  · by_cases none : count = 0
    · rw [none]
      exact Consecutive.mono ⟨count, listed⟩
    · apply le_maxRevision
      rw [listed, List.mem_append, List.mem_range'_1]
      omega

/-- A revision that is free and above the old ones is above all. -/
theorem Consecutive.above {start s : Database} {familyId : String}
    (consecutive : Consecutive start s familyId) {revision : Nat}
    (new : maxRevision familyId start.committed < revision)
    (free : Key.revision familyId revision ∉ s.committed.map (·.key)) :
    maxRevision familyId s.committed < revision := by
  obtain ⟨count, listed⟩ := consecutive
  rw [← mem_revisions, listed, List.mem_append, List.mem_range'_1] at free
  have greatest := maxRevision_eq listed
  omega

/-- The new revision is the next one. -/
theorem Consecutive.append {start s : Database} {familyId : String} {row : Row}
    (consecutive : Consecutive start s familyId)
    (key : row.key = .revision familyId (maxRevision familyId s.committed + 1)) :
    ∃ count, revisions familyId (s.committed ++ [row]) = revisions familyId start.committed ++
      List.range' (maxRevision familyId start.committed + 1) count := by
  obtain ⟨count, listed⟩ := consecutive
  have greatest := maxRevision_eq listed
  refine ⟨count + 1, ?_⟩
  have new : revisions familyId [row] = [maxRevision familyId s.committed + 1] := by
    simp [revisions, revisionOf, key]
  rw [revisions_append, listed, new, greatest, List.range'_concat, List.append_assoc]
  congr 2
  simp only [List.cons.injEq, and_true]
  omega

/-- A row of another family, or of another table, leaves a family as it is. -/
theorem revisions_other {familyId : String} {rows : List Row} {row : Row}
    (other : ∀ revision, row.key ≠ .revision familyId revision) :
    revisions familyId (rows ++ [row]) = revisions familyId rows := by
  have none : revisionOf familyId row = none := by
    unfold revisionOf
    cases key : row.key with
    | revision family revision =>
      have different : family ≠ familyId := by
        intro same
        exact other revision (same ▸ key)
      simp [different]
    | recover key => rfl
  simp [revisions, none]

/-- What is known of the other calls when nothing is committed. -/
theorem good_same {start s s' : Database} {call : Call} (same : s'.committed = s.committed)
    (good : Good start s call) : Good start s' call := by
  unfold Good at good ⊢
  rwa [same]

/-- What is known of a call when another one commits its row. -/
theorem good_commit {start s s' : Database} {call : Call} {row : Row}
    (after : s'.committed = s.committed ++ [row]) (good : Good start s call)
    (apart : call.holds row.key = false)
    (next : ∀ familyId revision, row.key = .revision familyId revision →
      revision = maxRevision familyId s.committed + 1) : Good start s' call := by
  obtain ⟨live, phase⟩ := good
  refine ⟨live, ?_⟩
  cases at_ : call.phase with
  | selecting attempt => simpa only [at_] using phase
  | inserting attempt new =>
    simp only [at_] at phase ⊢
    cases asked : call.request with
    | draft familyId =>
      simp only [asked] at phase ⊢
      obtain ⟨revision, key, low, high⟩ := phase
      have grown := @maxRevision_mono familyId s.committed [row]
      exact ⟨revision, key, low, by rw [after]; omega⟩
    | put key id => simpa only [asked] using phase
  | committing new inserted =>
    simp only [at_] at phase ⊢
    obtain ⟨rfl, fresh, key⟩ := phase
    have different : row.key ≠ new.key := by
      intro same
      simp [Call.holds, at_, same] at apart
    refine ⟨rfl, ?_, ?_⟩
    · rw [after, List.map_append, List.mem_append, not_or]
      exact ⟨fresh, by simpa using different.symm⟩
    · cases asked : call.request with
      | put wanted id => simpa only [asked] using key
      | draft familyId =>
        simp only [asked] at key ⊢
        -- the row that is committed belongs to another family, else both would hold one key
        have other : ∀ revision, row.key ≠ .revision familyId revision := by
          intro revision same
          apply different
          rw [same, next familyId revision same, key]
        rw [after]
        unfold maxRevision at key ⊢
        rwa [revisions_other other]
  | returned old =>
    simp only [at_] at phase ⊢
    obtain ⟨listed, key⟩ := phase
    refine ⟨?_, ?_⟩
    · rw [after]
      exact List.mem_append_left _ listed
    · cases asked : call.request <;> simpa only [asked] using key
  | reading key => simp [at_] at phase
  | throwing => simp [at_] at phase
  | threw => simp [at_] at phase

theorem good_start (start s : Database) (request : Request) :
    Good start s (Call.start request) := by
  cases request with
  | draft familyId => exact ⟨rfl, familyId, rfl⟩
  | put key id => exact ⟨rfl, rfl⟩

theorem not_owns_start (request : Request) (key : Key) :
    (Call.start request).owns key = false := by
  cases request <;> rfl

theorem owns_of_holds {call : Call} {key : Key} (holds : call.holds key = true) :
    call.owns key = true := by
  unfold Call.holds at holds
  unfold Call.owns
  split at holds
  · rename_i row phase
    rw [phase]
    exact holds
  · cases holds

/-- A call that has a row under the key holds it, or the row is committed. -/
theorem holds_of_owns {start s : Database} {call : Call} {key : Key} (good : Good start s call)
    (owns : call.owns key = true) : call.holds key = true ∨ key ∈ s.committed.map (·.key) := by
  obtain ⟨-, phase⟩ := good
  unfold Call.owns at owns
  unfold Call.holds
  cases at_ : call.phase with
  | committing row inserted =>
    simp only [at_] at phase owns
    rw [phase.1] at owns ⊢
    exact .inl owns
  | returned row =>
    simp only [at_] at phase owns
    rw [← of_decide_eq_true owns]
    exact .inr (List.mem_map_of_mem phase.1)
  | _ => simp [at_] at owns

theorem getElem?_set_cases {calls : List Call} {n i : Nat} {new call : Call}
    (found : (calls.set n new)[i]? = some call) :
    (i = n ∧ call = new) ∨ (i ≠ n ∧ calls[i]? = some call) := by
  rw [List.getElem?_set] at found
  by_cases same : n = i
  · rw [if_pos same] at found
    split at found
    · exact .inl ⟨same.symm, (Option.some.inj found).symm⟩
    · cases found
  · rw [if_neg same] at found
    exact .inr ⟨fun eq => same eq.symm, found⟩

theorem inv_begin {start s : Database} (inv : Inv start s) (request : Request) :
    Inv start { s with calls := s.calls ++ [Call.start request] } := by
  have cases_ : ∀ {i : Nat} {call : Call}, (s.calls ++ [Call.start request])[i]? = some call →
      s.calls[i]? = some call ∨ call = Call.start request := by
    intro i call found
    rw [List.getElem?_append] at found
    split at found
    · exact .inl found
    · exact .inr (List.mem_singleton.mp (List.mem_of_getElem? found))
  constructor
  · intro i call found
    obtain old | rfl := cases_ found
    · exact good_same rfl (inv.good i call old)
    · exact good_start start _ request
  · intro i j one other key found found' holds holds'
    obtain old | rfl := cases_ found
    · obtain old' | rfl := cases_ found'
      · exact inv.apart i j one other key old old' holds holds'
      · simp [not_owns_start] at holds'
    · simp [not_owns_start] at holds
  · exact inv.consecutive

/-- A call moves on to a phase in which it holds nothing, and commits nothing. -/
theorem inv_quiet {start s : Database} (inv : Inv start s) {n : Nat} {new : Call}
    (good : Good start s new) (quiet : ∀ key, new.owns key = false) :
    Inv start { s with calls := s.calls.set n new } := by
  constructor
  · intro i call found
    obtain ⟨-, rfl⟩ | ⟨-, old⟩ := getElem?_set_cases found
    · exact good_same rfl good
    · exact good_same rfl (inv.good i call old)
  · intro i j one other key found found' holds holds'
    obtain ⟨-, rfl⟩ | ⟨-, old⟩ := getElem?_set_cases found
    · simp [quiet] at holds
    obtain ⟨-, rfl⟩ | ⟨-, old'⟩ := getElem?_set_cases found'
    · simp [quiet] at holds'
    · exact inv.apart i j one other key old old' holds holds'
  · exact inv.consecutive

/-- A call inserts its row where no other holds the key. -/
theorem inv_insert {start s : Database} (inv : Inv start s) {n : Nat} {new : Call} {row : Row}
    (good : Good start s new) (holding : new.phase = .committing row true)
    (free : ∀ call ∈ s.calls, call.owns row.key = false) :
    Inv start { s with calls := s.calls.set n new } := by
  have only : ∀ {key : Key}, new.owns key = true → key = row.key := by
    intro key holds
    simp only [Call.owns, holding, decide_eq_true_eq] at holds
    exact holds.symm
  constructor
  · intro i call found
    obtain ⟨-, rfl⟩ | ⟨-, old⟩ := getElem?_set_cases found
    · exact good_same rfl good
    · exact good_same rfl (inv.good i call old)
  · intro i j one other key found found' holds holds'
    obtain ⟨rfl, rfl⟩ | ⟨-, old⟩ := getElem?_set_cases found
    · obtain ⟨rfl, -⟩ | ⟨-, old'⟩ := getElem?_set_cases found'
      · rfl
      · rw [only holds, free other (List.mem_of_getElem? old')] at holds'
        cases holds'
    · obtain ⟨-, rfl⟩ | ⟨-, old'⟩ := getElem?_set_cases found'
      · rw [only holds', free one (List.mem_of_getElem? old)] at holds
        cases holds
      · exact inv.apart i j one other key old old' holds holds'
  · exact inv.consecutive

/-- The row of a draft is the next revision of its family. -/
theorem good_next {start s : Database} {call : Call} {row : Row} (good : Good start s call)
    (holding : call.phase = .committing row true) (familyId : String) (revision : Nat)
    (key : row.key = .revision familyId revision) :
    revision = maxRevision familyId s.committed + 1 := by
  obtain ⟨-, phase⟩ := good
  simp only [holding] at phase
  cases asked : call.request with
  | draft family =>
    simp only [asked] at phase
    have same := phase.2.2
    rw [key] at same
    cases same
    rfl
  | put wanted id =>
    simp only [asked] at phase
    rw [key] at phase
    exact absurd phase.2.2 (by simp)

theorem inv_commit {start s : Database} (inv : Inv start s) {n : Nat} {call : Call} {row : Row}
    (found : s.calls[n]? = some call) (holding : call.phase = .committing row true) :
    Inv start { committed := s.committed ++ [row],
                calls := s.calls.set n { call with phase := .returned row } } := by
  have good := inv.good n call found
  have owns : call.owns row.key = true := by
    simp [Call.owns, holding]
  have next := good_next good holding
  constructor
  · intro i other found'
    obtain ⟨-, rfl⟩ | ⟨different, old⟩ := getElem?_set_cases found'
    · obtain ⟨live, phase⟩ := good
      refine ⟨live, List.mem_append_right _ List.mem_cons_self, ?_⟩
      simp only [holding] at phase
      cases asked : call.request with
      | draft familyId =>
        simp only [asked] at phase
        exact ⟨_, phase.2.2⟩
      | put wanted id =>
        simp only [asked] at phase
        exact phase.2.2
    · refine good_commit rfl (inv.good i other old) ?_ next
      by_contra too
      exact different (inv.apart i n other call row.key old found
        (owns_of_holds (by simpa using too)) owns)
  · intro i j one other key found₁ found₂ owns₁ owns₂
    have same : ({ call with phase := .returned row } : Call).owns key = call.owns key := by
      simp [Call.owns, holding]
    obtain ⟨rfl, rfl⟩ | ⟨-, old⟩ := getElem?_set_cases found₁
    · rw [same] at owns₁
      obtain ⟨rfl, -⟩ | ⟨-, old'⟩ := getElem?_set_cases found₂
      · rfl
      · exact inv.apart _ j call other key found old' owns₁ owns₂
    · obtain ⟨rfl, rfl⟩ | ⟨-, old'⟩ := getElem?_set_cases found₂
      · rw [same] at owns₂
        exact inv.apart i _ one call key old found owns₁ owns₂
      · exact inv.apart i j one other key old old' owns₁ owns₂
  · intro familyId
    by_cases own : ∃ revision, row.key = .revision familyId revision
    · obtain ⟨revision, key⟩ := own
      rw [next familyId revision key] at key
      exact (inv.consecutive familyId).append key
    · obtain ⟨count, listed⟩ := inv.consecutive familyId
      refine ⟨count, ?_⟩
      rw [revisions_other fun revision key => own ⟨revision, key⟩]
      exact listed

theorem inv_next {start s : Database} (inv : Inv start s) (e : Event) (free : MeetsFree s e) :
    Inv start (next s e) := by
  obtain same | ⟨request, same⟩ | ⟨n, fresh, call, new, added, rfl, found, advanced, same⟩ :=
    next_cases s e
  · rwa [same]
  · rw [same]
    exact inv_begin inv request
  rw [same]
  have good := inv.good n call found
  obtain ⟨live, phase⟩ := id good
  unfold advance at advanced
  cases at_ : call.phase with
  | selecting attempt =>
    simp only [at_] at phase advanced
    obtain ⟨familyId, asked⟩ := phase
    simp only [select, asked, live, Bool.false_eq_true, ↓reduceIte, Option.some.injEq,
      Prod.mk.injEq] at advanced
    obtain ⟨rfl, rfl⟩ := advanced
    rw [List.append_nil]
    have low := (inv.consecutive familyId).mono
    apply inv_quiet inv
    · exact ⟨rfl, _, rfl, by omega, by omega⟩
    · intro key
      rfl
  | inserting attempt row =>
    simp only [at_] at phase advanced
    have unmet := free call found row (by simp [Call.inserts, at_])
    simp only [live, Bool.not_false, Bool.true_and] at advanced
    split at advanced
    · cases advanced
    rename_i unheld
    simp only [insert, live, Bool.false_eq_true, ↓reduceIte, unmet, Option.some.injEq,
      Prod.mk.injEq] at advanced
    obtain ⟨rfl, rfl⟩ := advanced
    rw [List.append_nil]
    apply @inv_insert start s inv n _ row
    · refine ⟨rfl, rfl, unmet, ?_⟩
      cases asked : call.request with
      | draft familyId =>
        simp only [asked] at phase
        obtain ⟨revision, key, low, high⟩ := phase
        have above := (inv.consecutive familyId).above low (key ▸ unmet)
        simp only [key, Key.revision.injEq, true_and]
        omega
      | put wanted id => simpa only [asked] using phase
    · rfl
    · intro other member
      by_contra owns
      obtain ⟨i, place⟩ := List.mem_iff_getElem?.mp member
      obtain holds | committed := holds_of_owns (inv.good i other place) (by simpa using owns)
      · exact unheld (List.any_eq_true.mpr ⟨other, member, holds⟩)
      · exact unmet committed
  | committing row inserted =>
    simp only [at_] at phase advanced
    obtain ⟨rfl, -⟩ := phase
    simp only [live, Bool.not_false, Bool.and_self, ↓reduceIte, Option.some.injEq,
      Prod.mk.injEq] at advanced
    obtain ⟨rfl, rfl⟩ := advanced
    have committed := inv_commit inv found at_
    rwa [live] at committed
  | returned row => simp [at_] at advanced
  | reading key => simp [at_] at phase
  | throwing => simp [at_] at phase
  | threw => simp [at_] at phase

/-! ### What the callers get -/

/-- Calls that have ended have returned a committed row under their key; no two drafts of a family
have the same revision, and the new revisions of a family follow the old ones without a gap. -/
structure Works (start s : Database) : Prop where
  drafts : ∀ call ∈ s.calls, ∀ familyId, call.request = .draft familyId → call.ended →
    ∃ row ∈ s.committed, call.phase = .returned row ∧
      ∃ revision, row.key = .revision familyId revision
  puts : ∀ call ∈ s.calls, ∀ key id, call.request = .put key id → call.ended →
    ∃ row ∈ s.committed, call.phase = .returned row ∧ row.key = .recover key
  distinct : ∀ (i j : Nat) (one other : Call) (row row' : Row), s.calls[i]? = some one →
    s.calls[j]? = some other → one.phase = .returned row → other.phase = .returned row' →
      row.key = row'.key → i = j
  consecutive : ∀ familyId, Consecutive start s familyId

theorem works_of_inv {start s : Database} (inv : Inv start s) : Works start s := by
  have returned : ∀ call ∈ s.calls, call.ended → ∃ row, call.phase = .returned row ∧
      Good start s call := by
    intro call member ended
    obtain ⟨i, place⟩ := List.mem_iff_getElem?.mp member
    have good := inv.good i call place
    obtain ⟨row, phase⟩ | threw := ended
    · exact ⟨row, phase, good⟩
    · have never := good.2
      simp [threw] at never
  constructor
  · intro call member familyId asked ended
    obtain ⟨row, phase, -, good⟩ := returned call member ended
    simp only [phase, asked] at good
    exact ⟨row, good.1, phase, good.2⟩
  · intro call member key id asked ended
    obtain ⟨row, phase, -, good⟩ := returned call member ended
    simp only [phase, asked] at good
    exact ⟨row, good.1, phase, good.2⟩
  · intro i j one other row row' found found' phase phase' same
    apply inv.apart i j one other row.key found found'
    · simp [Call.owns, phase]
    · simp [Call.owns, phase', same]
  · exact inv.consecutive

theorem inv_start {start : Database} (idle : start.calls = []) : Inv start start where
  good i call found := by simp [idle] at found
  apart i j one other key found := by simp [idle] at found
  consecutive familyId := ⟨0, by simp⟩

/-- A call whose insert met a taken key: its transaction is aborted. -/
def Met (call : Call) : Prop := call.aborted = true

/-- While every insert finds its key free, all calls succeed and the revisions of a family are
consecutive; and a call whose insert has met a taken key never returns a row, whatever the run. -/
theorem recover_works (start : Database) (idle : start.calls = []) :
    (∀ s, Reached next MeetsFree start s → Works start s) ∧
    ∀ s, Reached next (fun _ _ => True) start s → ∀ call ∈ s.calls, Met call →
      ∀ row, call.phase ≠ .returned row := by
  constructor
  · intro s reached
    exact works_of_inv (reached.invariant (Inv start) (fun _ e inv free => inv_next inv e free)
      (inv_start idle))
  · intro s reached call member met
    have sound := reached.invariant (fun s => ∀ call ∈ s.calls, Sound call)
      (fun s e sound _ => sound_next s e sound) (by simp [idle])
    exact ((sound call member).aborted met).2

/-! ### Three runs -/

def allowed : RecoverKey := .allowlistEntry "account-1" "sender" "u1"

/-- The sender is on the allowlist, and the family has its first revision. -/
def stored : Database where
  committed := [{ key := .recover allowed, id := 1 }, { key := .revision "family-1" 1, id := 2 }]
  calls := []

/-- Two drafts one after the other. -/
def inTurn : List Event :=
  [.begin (.draft "family-1"), .step 0 3, .step 0 0, .step 0 0,
    .begin (.draft "family-1"), .step 1 4, .step 1 0, .step 1 0]

/-- A second draft has read the revisions before the first one commits. -/
def overlapping : List Event :=
  [.begin (.draft "family-1"), .begin (.draft "family-1"), .step 0 3, .step 1 4, .step 0 0,
    .step 1 0, .step 0 0, .step 1 0, .step 1 5, .step 1 0]

/-- The sender is put again. -/
def putAgain : List Event :=
  [.begin (.put allowed 3), .step 0 0, .step 0 0, .step 0 0]

theorem recover_works_in_turn : Works stored (inTurn.foldl next stored) :=
  (recover_works stored rfl).1 _ (@reached_of_run _ _ _ MeetsFree _ _ inTurn _ rfl)

theorem works_not_threw {start s : Database} (works : Works start s) {call : Call}
    (member : call ∈ s.calls) : call.phase ≠ .threw := by
  intro threw
  cases asked : call.request with
  | draft familyId =>
    obtain ⟨row, -, phase, -⟩ := works.drafts call member familyId asked (.inr threw)
    simp [threw] at phase
  | put key id =>
    obtain ⟨row, -, phase, -⟩ := works.puts call member key id asked (.inr threw)
    simp [threw] at phase

theorem violation_not_recovered :
    ((putAgain.foldl next stored).calls.map (·.phase) = [.threw] ∧
      ¬ Works stored (putAgain.foldl next stored)) ∧
    (overlapping.foldl next stored).calls.map (·.phase) =
      [.returned { key := .revision "family-1" 2, id := 3 }, .threw] ∧
    ¬ Works stored (overlapping.foldl next stored) := by
  have again : (putAgain.foldl next stored).calls.map (·.phase) = [.threw] := by decide
  have raced : (overlapping.foldl next stored).calls.map (·.phase) =
      [.returned { key := .revision "family-1" 2, id := 3 }, .threw] := by decide
  have refuted : ∀ s : Database, .threw ∈ s.calls.map (·.phase) → ¬ Works stored s := by
    intro s threw works
    obtain ⟨call, member, phase⟩ := List.mem_map.mp threw
    exact works_not_threw works member phase
  refine ⟨⟨again, refuted _ ?_⟩, raced, refuted _ ?_⟩
  · simp [again]
  · simp [raced]

end Vespid.Db.InsertOrRecover
