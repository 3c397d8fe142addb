import Mathlib.Logic.Function.Basic

/-!
# In-flight counters

The Redis counters of the reservations on an executor and in an organization. A key that has
expired is gone: it reads as zero, and counting on from there starts it without an expiry.
-/

namespace Vespid.Brain

/-- `executor:inflight:…` and `org:quota:…:inflight` -/
inductive InFlightKey where
  | executor (executorId : String)
  | organization (organizationId : String)
  deriving DecidableEq

structure Counter where
  value : Int
  expiresAt : Option Nat
  deriving DecidableEq

/-- The counters, with Redis's clock in milliseconds. -/
structure Counters where
  now : Nat
  at? : InFlightKey → Option Counter

namespace Counters

def empty : Counters := { now := 0, at? := fun _ => none }

/-- `tonumber(redis.call("GET", key) or "0")` -/
def get (counters : Counters) (key : InFlightKey) : Int := (counters.at? key).elim 0 (·.value)

def put (counters : Counters) (key : InFlightKey) (counter : Counter) : Counters :=
  { counters with at? := Function.update counters.at? key (some counter) }

/-- `INCRBY`, which leaves the key's expiry as it is. -/
def add (counters : Counters) (key : InFlightKey) (amount : Int) : Counters :=
  counters.put key
    { value := counters.get key + amount, expiresAt := (counters.at? key).bind (·.expiresAt) }

def pexpire (counters : Counters) (key : InFlightKey) (ttlMs : Nat) : Counters :=
  match counters.at? key with
  | none => counters
  | some counter => counters.put key { counter with expiresAt := some (counters.now + ttlMs) }

def decr (counters : Counters) (key : InFlightKey) : Counters := counters.add key (-1)

/-- Time passes, and the keys whose time has come are gone. -/
def advance (counters : Counters) (ms : Nat) : Counters :=
  { now := counters.now + ms
    at? := fun key => (counters.at? key).filter fun counter =>
      counter.expiresAt.all (counters.now + ms < ·) }

/-- The key is gone after `ms`. -/
def Expires (counters : Counters) (ms : Nat) (key : InFlightKey) : Prop :=
  ((counters.advance ms).at? key).isNone ∧ (counters.at? key).isSome

instance (counters : Counters) (ms : Nat) (key : InFlightKey) :
    Decidable (counters.Expires ms key) := inferInstanceAs (Decidable (_ ∧ _))

variable (counters : Counters) (key other : InFlightKey)

@[simp] theorem get_put (counter : Counter) : (counters.put key counter).get other =
    if other = key then counter.value else counters.get other := by
  unfold get put
  split
  · rename_i same
    subst same
    simp
  · simp [*]

@[simp] theorem get_add (amount : Int) : (counters.add key amount).get other =
    if other = key then counters.get key + amount else counters.get other := get_put ..

@[simp] theorem get_pexpire (ttlMs : Nat) :
    (counters.pexpire key ttlMs).get other = counters.get other := by
  unfold pexpire
  split
  · rfl
  · rename_i counter found
    rw [get_put]
    split
    · rename_i same
      simp [same, get, found]
    · rfl

theorem get_advance {ms : Nat} (stays : ¬counters.Expires ms key) :
    (counters.advance ms).get key = counters.get key := by
  unfold get
  cases found : counters.at? key with
  | none => simp [advance, found]
  | some counter =>
    have kept : (counters.advance ms).at? key ≠ none := by
      intro gone
      exact stays ⟨by simp [gone], by simp [found]⟩
    have filtered : (counters.advance ms).at? key = some counter := by
      simp only [advance, found, Option.filter_some] at kept ⊢
      split at kept
      · rename_i unexpired
        simp [unexpired]
      · exact (kept rfl).elim
    rw [filtered]

theorem get_advance_cases (ms : Nat) :
    (counters.advance ms).get key = counters.get key ∨ (counters.advance ms).get key = 0 := by
  by_cases gone : counters.Expires ms key
  · right
    simp [get, Option.isNone_iff_eq_none.mp gone.1]
  · exact .inl (get_advance counters key gone)

end Counters

structure ReserveInput where
  executorId : String
  organizationId : String
  executorMaxInFlight : Nat
  orgMaxInFlight : Nat
  ttlMs : Nat
  deriving DecidableEq

inductive ReserveCapacityResult where
  | ok
  | executorOverCapacity
  | orgQuotaExceeded
  | unknown
  deriving DecidableEq

/-- The script, which Redis runs as a whole. -/
def reserveLua (input : ReserveInput) (counters : Counters) : Nat × Counters :=
  let execKey := .executor input.executorId
  let orgKey := .organization input.organizationId
  if counters.get execKey + 1 > input.executorMaxInFlight then (1, counters)
  else if counters.get orgKey + 1 > input.orgMaxInFlight then (2, counters)
  else (0, (((counters.add execKey 1).add orgKey 1).pexpire execKey input.ttlMs).pexpire orgKey
    input.ttlMs)

def reserveCapacity (input : ReserveInput) (counters : Counters) :
    ReserveCapacityResult × Counters :=
  let (out, counters) := reserveLua input counters
  (if out = 0 then .ok
    else if out = 1 then .executorOverCapacity
    else if out = 2 then .orgQuotaExceeded
    else .unknown, counters)

def ReserveInput.counts (input : ReserveInput) (key : InFlightKey) : Prop :=
  key = .executor input.executorId ∨ key = .organization input.organizationId

def ReserveInput.limit (input : ReserveInput) : InFlightKey → Nat
  | .executor _ => input.executorMaxInFlight
  | .organization _ => input.orgMaxInFlight

theorem reserveCapacity_ok {input : ReserveInput} {counters counters' : Counters}
    (reserved : reserveCapacity input counters = (.ok, counters')) (key : InFlightKey) :
    (input.counts key → counters'.get key = counters.get key + 1 ∧
      counters'.get key ≤ input.limit key) ∧
      (¬input.counts key → counters'.get key = counters.get key) := by
  simp only [reserveCapacity, reserveLua] at reserved
  split at reserved
  · simp at reserved
  split at reserved
  · simp at reserved
  rename_i executorFits organizationFits
  obtain ⟨-, rfl⟩ := Prod.mk.inj reserved
  constructor
  · rintro (rfl | rfl)
    · constructor
      · simp
      · simp [ReserveInput.limit]
        omega
    · constructor
      · simp
      · simp [ReserveInput.limit]
        omega
  · intro uncounted
    obtain ⟨notExecutor, notOrganization⟩ := not_or.mp uncounted
    simp [notExecutor, notOrganization]

theorem reserveCapacity_refused {input : ReserveInput} {counters counters' : Counters}
    {result : ReserveCapacityResult} (refused : reserveCapacity input counters = (result, counters'))
    (no : result ≠ .ok) : counters' = counters := by
  simp only [reserveCapacity, reserveLua] at refused
  split at refused
  · exact (Prod.mk.inj refused).2.symm
  split at refused
  · exact (Prod.mk.inj refused).2.symm
  · exact (no (Prod.mk.inj refused).1.symm).elim

end Vespid.Brain
