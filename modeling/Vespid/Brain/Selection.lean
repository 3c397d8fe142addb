import Mathlib.Data.List.Sort
import Vespid.Brain.Select
import Vespid.Lib.Alone

/-!
# What a selection comes to

A selection that runs alone reads the published routes and counters, takes the least loaded of the
eligible routes that has room, and holds one reservation on it, or none where it fails. It sees
the routes of the first 5000 keys that the scan returns.
-/

namespace Vespid.Brain

open Interleaving

/-- The values of the keys `executor:route:*` in the order in which SCAN returns the keys, where
they parse. A key that is returned twice has the same value. -/
structure RouteTable where
  scanned : List (Option ExecutorRoute)
  /-- `routeSchema` -/
  positive : ∀ route, some route ∈ scanned → ∀ m, route.maxInFlight = some m → 1 ≤ m
  /-- the key of a route has its executor's id -/
  keyed : ∀ route, some route ∈ scanned → ∀ other, some other ∈ scanned →
    route.executorId = other.executorId → route = other

/-- What a selection reads and writes in Redis. -/
structure SelectStore where
  table : RouteTable
  counters : Counters
  lastUsedMs : String → Nat
  nowMs : Nat

/-- `scanKeys` stops at 5000 keys. -/
def RouteTable.read (table : RouteTable) : List ExecutorRoute :=
  (table.scanned.take 5000).filterMap id

def listExecutorRoutes (table : RouteTable) (pool : ExecutorPool)
    (organizationId : Option String) : List ExecutorRoute :=
  table.read.filter fun route => route.pool = pool && organizationId.all fun organizationId =>
    organizationId = "" || route.organizationId = some organizationId

def performSelect : (op : BrainOp) → SelectStore → Option (op.Reply × SelectStore)
  | .listExecutorRoutes pool organizationId, store =>
    some (listExecutorRoutes store.table pool organizationId, store)
  | .getInFlight executorId, store =>
    some ((store.counters.get (.executor executorId)).toNat, store)
  | .getExecutorLastUsedMs executorId, store => some (store.lastUsedMs executorId, store)
  | .markExecutorUsed executorId, store =>
    some ((), { store with
      lastUsedMs := Function.update store.lastUsedMs executorId store.nowMs })
  | .reserveCapacity input, store =>
    let (result, counters) := reserveCapacity input store.counters
    some (result, { store with counters })
  | _, _ => none

/-! ### Eligible routes -/

def SelectInput.pool (input : SelectInput) : ExecutorPool :=
  (input.selector.map (·.pool)).getD .byon

def SelectInput.named (input : SelectInput) : Option String :=
  input.selector.bind (·.executorId) |>.filter (· ≠ "")

/-- The filters that do not concern accounts. -/
structure Passes (input : SelectInput) (route : ExecutorRoute) : Prop where
  pool : route.pool = input.pool
  organization : input.pool = .byon → route.organizationId = some input.organizationId
  kind : input.kind ∈ route.kinds.getD []
  labels : ∀ label ∈ (input.selector.bind (·.labels)).getD [], label ∈ route.labels.getD []
  tag : ∀ tag, input.selector.bind (·.tag) = some tag → tag ∈ route.labels.getD []
  group : ∀ group, input.selector.bind (·.group) = some group → group ≠ "" →
    group ∈ route.labels.getD [] ∨ "group:" ++ group ∈ route.labels.getD []
  named : ∀ executorId, input.named = some executorId → route.executorId = executorId

def Verified (input : SelectInput) (route : ExecutorRoute) : Prop :=
  ∀ engine, input.oauthRequiredEngine = some engine → engine ∈ route.oauthVerified

theorem verified_iff {input : SelectInput} {route : ExecutorRoute} :
    isExecutorOauthVerified route input.oauthRequiredEngine = true ↔ Verified input route := by
  unfold isExecutorOauthVerified Verified
  cases input.oauthRequiredEngine <;> simp

/-- The filters of the scored path. -/
def baseFilter (input : SelectInput) (route : ExecutorRoute) : Bool :=
  (input.pool ≠ .byon || route.organizationId == some input.organizationId) &&
    hasKind route input.kind && matchesSelector input.selector route

theorem matchesSelector_iff {input : SelectInput} {route : ExecutorRoute} :
    matchesSelector input.selector route = true ↔
      (∀ label ∈ (input.selector.bind (·.labels)).getD [], label ∈ route.labels.getD []) ∧
      (∀ tag, input.selector.bind (·.tag) = some tag → tag ∈ route.labels.getD []) ∧
      (∀ group, input.selector.bind (·.group) = some group → group ≠ "" →
        group ∈ route.labels.getD [] ∨ "group:" ++ group ∈ route.labels.getD []) := by
  unfold matchesSelector
  simp only [Bool.and_eq_true, List.all_append, List.all_eq_true, List.contains_iff_mem, and_assoc]
  refine and_congr_right fun _ => and_congr ?_ ?_
  · cases input.selector.bind (·.tag) <;> simp
  · cases given : input.selector.bind (·.group) with
    | none => simp
    | some group =>
      by_cases empty : group = ""
      · simp [empty]
      · simp only [Option.some.injEq, forall_eq', ne_eq, empty, not_false_eq_true, forall_const]
        rw [Bool.or_eq_true, List.contains_iff_mem, List.contains_iff_mem]
        rfl

theorem baseFilter_iff {input : SelectInput} {route : ExecutorRoute} :
    baseFilter input route = true ↔
      (input.pool = .byon → route.organizationId = some input.organizationId) ∧
        input.kind ∈ route.kinds.getD [] ∧ matchesSelector input.selector route = true := by
  unfold baseFilter hasKind
  cases input.pool <;> simp [and_assoc]

/-- Where the listing has kept the pool, the filters are those that are asked for. -/
theorem passes_iff {input : SelectInput} {route : ExecutorRoute} :
    Passes input route ↔ route.pool = input.pool ∧ baseFilter input route = true ∧
      ∀ executorId, input.named = some executorId → route.executorId = executorId := by
  rw [baseFilter_iff, matchesSelector_iff]
  constructor
  · intro passes
    exact ⟨passes.pool, ⟨passes.organization, passes.kind, passes.labels, passes.tag,
      passes.group⟩, passes.named⟩
  · intro ⟨pool, ⟨organization, kind, labels, tag, group⟩, named⟩
    exact ⟨pool, organization, kind, labels, tag, group, named⟩

/-- The routes that a selection goes through. -/
def listedFor (input : SelectInput) (table : RouteTable) : List ExecutorRoute :=
  listExecutorRoutes table input.pool
    (if input.pool = .byon then some input.organizationId else none)

theorem listed_iff {input : SelectInput} {table : RouteTable} {route : ExecutorRoute}
    (base : baseFilter input route = true) :
    route ∈ listedFor input table ↔ route ∈ table.read ∧ route.pool = input.pool := by
  have organization := (baseFilter_iff.mp base).1
  unfold listedFor listExecutorRoutes
  rw [List.mem_filter, Bool.and_eq_true, decide_eq_true_iff]
  refine and_congr_right fun _ => and_iff_left ?_
  split
  · rename_i byon
    simp [organization byon]
  · rfl

/-! ### Reservations -/

variable {input : SelectInput} {store : SelectStore}

/-- A reservation on the route would succeed. -/
def HasRoom (input : SelectInput) (counters : Counters) (route : ExecutorRoute) : Prop :=
  (reserveCapacity (reserveOn input route) counters).1 = .ok

instance (input : SelectInput) (counters : Counters) : DecidablePred (HasRoom input counters) :=
  fun _ => inferInstanceAs (Decidable (_ = _))

/-- Refused by one of the two limits. -/
def Refused (input : SelectInput) (counters : Counters) (route : ExecutorRoute) : Prop :=
  (reserveCapacity (reserveOn input route) counters).1 = .orgQuotaExceeded ∨
    (reserveCapacity (reserveOn input route) counters).1 = .executorOverCapacity

/-- The script has no other answer. -/
theorem refused_of_not_room {counters : Counters} {route : ExecutorRoute}
    (full : ¬ HasRoom input counters route) : Refused input counters route := by
  unfold HasRoom at full
  unfold Refused
  simp only [reserveCapacity, reserveLua] at full ⊢
  split
  · simp
  · split
    · simp
    · rename_i executor organization
      simp [executor, organization] at full

def SelectStore.reserved (store : SelectStore) (input : SelectInput) (route : ExecutorRoute) :
    SelectStore :=
  { store with
    counters := (reserveCapacity (reserveOn input route) store.counters).2
    lastUsedMs := Function.update store.lastUsedMs route.executorId store.nowMs }

/-- A reservation on the route is the only difference. -/
structure HoldsOne (input : SelectInput) (route : ExecutorRoute) (before after : Counters) :
    Prop where
  executor : after.get (.executor route.executorId) =
    before.get (.executor route.executorId) + 1
  organization : after.get (.organization input.organizationId) =
    before.get (.organization input.organizationId) + 1
  others : ∀ key, key ≠ .executor route.executorId → key ≠ .organization input.organizationId →
    after.get key = before.get key

theorem holdsOne_reserved {route : ExecutorRoute} (room : HasRoom input store.counters route) :
    HoldsOne input route store.counters (store.reserved input route).counters := by
  have reserved : reserveCapacity (reserveOn input route) store.counters =
      (.ok, (store.reserved input route).counters) := Prod.ext room rfl
  have counted := reserveCapacity_ok reserved
  constructor
  · exact ((counted _).1 (.inl rfl)).1
  · exact ((counted _).1 (.inr rfl)).1
  · intro key executor organization
    exact (counted key).2 (not_or.mpr ⟨executor, organization⟩)

theorem performSelect_refused {route : ExecutorRoute} {result : ReserveCapacityResult}
    (refused : (reserveCapacity (reserveOn input route) store.counters).1 = result)
    (no : result ≠ .ok) :
    performSelect (.reserveCapacity (reserveOn input route)) store = some (result, store) := by
  have same := reserveCapacity_refused (Prod.ext refused rfl : reserveCapacity
    (reserveOn input route) store.counters = (result, _)) no
  simp only [performSelect, refused, same]

theorem performSelect_room {route : ExecutorRoute} (room : HasRoom input store.counters route) :
    performSelect (.reserveCapacity (reserveOn input route)) store =
      some (.ok, { store with
        counters := (reserveCapacity (reserveOn input route) store.counters).2 }) := by
  simp only [performSelect, show _ = _ from room]

/-! ### The selector that names its executor -/

/-- A reservation on a route that has passed the filters. -/
theorem reserveNamed_alone (route : ExecutorRoute) :
    (do
      let reserved : ReserveCapacityResult ← await (.reserveCapacity (reserveOn input route))
      match reserved with
      | .ok =>
        await (.markExecutorUsed route.executorId)
        return .ok (selectedRoute route)
      | .orgQuotaExceeded => return .error .orgQuotaExceeded
      | _ => return .error .executorOverCapacity :
      BrainProgram (Except SelectError SelectedExecutor)).runAlone performSelect store =
      if HasRoom input store.counters route then
        some (.ok (selectedRoute route), store.reserved input route)
      else if (reserveCapacity (reserveOn input route) store.counters).1 = .orgQuotaExceeded then
        some (.error .orgQuotaExceeded, store)
      else some (.error .executorOverCapacity, store) := by
  simp only [await, Program.issue_eq, Program.call_bind, Program.done_bind]
  by_cases room : HasRoom input store.counters route
  · rw [if_pos room, Program.runAlone_call (performSelect_room room)]
    rfl
  · rw [if_neg room]
    obtain quota | capacity := refused_of_not_room room
    · rw [if_pos quota, Program.runAlone_call (performSelect_refused quota (by decide))]
      rfl
    · rw [if_neg (by rw [capacity]; decide),
        Program.runAlone_call (performSelect_refused capacity (by decide))]
      rfl

theorem selectNamed_alone {routes : List ExecutorRoute} {executorId : String} :
    (selectNamed input input.pool routes executorId).runAlone performSelect store =
      match routes.find? (·.executorId == executorId) with
      | none => some (.error .noExecutorAvailable, store)
      | some route =>
        if baseFilter input route = false then some (.error .noExecutorAvailable, store)
        else if isExecutorOauthVerified route input.oauthRequiredEngine = false then
          some (.error .executorOauthNotVerified, store)
        else if HasRoom input store.counters route then
          some (.ok (selectedRoute route), store.reserved input route)
        else if (reserveCapacity (reserveOn input route) store.counters).1 = .orgQuotaExceeded then
          some (.error .orgQuotaExceeded, store)
        else some (.error .executorOverCapacity, store) := by
  unfold selectNamed
  cases routes.find? (·.executorId == executorId) with
  | none => rfl
  | some route =>
    simp only
    by_cases kind : hasKind route input.kind = true
    · by_cases foreign : input.pool = .byon ∧ route.organizationId ≠ some input.organizationId
      · have filtered : baseFilter input route = false := by
          simp [baseFilter, foreign.1, foreign.2]
        simp only [kind, foreign, filtered, Bool.not_true, Bool.false_eq_true, ↓reduceIte, ne_eq,
          not_false_eq_true, and_self]
        rfl
      · have filtered : baseFilter input route = matchesSelector input.selector route := by
          rw [Bool.eq_iff_iff, baseFilter_iff]
          refine ⟨fun all => all.2.2, fun matched => ⟨?_, ?_, matched⟩⟩
          · intro byon
            by_contra other
            exact foreign ⟨byon, other⟩
          · simpa [hasKind] using kind
        rw [filtered, if_neg (by simp [kind]), if_neg foreign]
        cases matchesSelector input.selector route with
        | false => rfl
        | true =>
          cases isExecutorOauthVerified route input.oauthRequiredEngine with
          | false => rfl
          | true => exact reserveNamed_alone route
    · have filtered : baseFilter input route = false := by
        simp [baseFilter, kind]
      rw [if_pos (by simpa using kind), if_pos filtered]
      rfl

/-! ### The least loaded -/

/-- What a selection compares routes by. -/
def scoreOf (store : SelectStore) (route : ExecutorRoute) : ScoredRoute where
  route := route
  ratio :=
    let maxInFlight := route.maxInFlight.getD 10
    let inFlight := (store.counters.get (.executor route.executorId)).toNat
    if maxInFlight > 0 then (inFlight : Rat) / maxInFlight else 1
  lastUsedMs := store.lastUsedMs route.executorId

theorem scoreRoutes_alone (routes : List ExecutorRoute) :
    (scoreRoutes routes).runAlone performSelect store =
      some (routes.map (scoreOf store), store) := by
  induction routes with
  | nil => rfl
  | cons route routes ih =>
    simp only [scoreRoutes, await, Program.issue_eq, Program.call_bind, Program.done_bind]
    rw [Program.runAlone_call rfl, Program.runAlone_call rfl, Program.runAlone_bind ih]
    rfl

theorem before_total (a b : ScoredRoute) : (a.before b || b.before a) = true := by
  unfold ScoredRoute.before
  by_cases same : a.ratio = b.ratio
  · simp only [same, ne_eq, not_true_eq_false, ↓reduceIte, Bool.or_eq_true, decide_eq_true_eq]
    omega
  · simp only [ne_eq, same, Ne.symm same, not_false_eq_true, ↓reduceIte, Bool.or_eq_true,
      decide_eq_true_eq]
    exact lt_or_gt_of_ne same

theorem before_iff {a b : ScoredRoute} : a.before b = true ↔
    a.ratio < b.ratio ∨ a.ratio = b.ratio ∧ a.lastUsedMs ≤ b.lastUsedMs := by
  unfold ScoredRoute.before
  by_cases same : a.ratio = b.ratio <;> simp [same]

theorem before_trans (a b c : ScoredRoute) (left : a.before b = true)
    (right : b.before c = true) : a.before c = true := by
  rw [before_iff] at left right ⊢
  obtain less | ⟨same, used⟩ := left
  · obtain less' | ⟨same', -⟩ := right
    · exact .inl (less.trans less')
    · exact .inl (same' ▸ less)
  · obtain less' | ⟨same', used'⟩ := right
    · exact .inl (same ▸ less')
    · exact .inr ⟨same.trans same', used.trans used'⟩

/-- The first route with room is taken, and the routes before it leave nothing behind. -/
theorem reserveFirst_found {scored : List ScoredRoute} {entry : ScoredRoute}
    (found : scored.find? (fun entry => HasRoom input store.counters entry.route) = some entry)
    (sawCapacity sawQuota : Bool) :
    (reserveFirst input sawCapacity sawQuota scored).runAlone performSelect store =
      some (.ok (selectedRoute entry.route), store.reserved input entry.route) := by
  induction scored generalizing sawCapacity sawQuota with
  | nil => cases found
  | cons first rest ih =>
    simp only [reserveFirst, await, Program.issue_eq, Program.call_bind, Program.done_bind]
    by_cases room : HasRoom input store.counters first.route
    · rw [List.find?_cons_of_pos (by simpa using room)] at found
      cases found
      rw [Program.runAlone_call (performSelect_room room)]
      rfl
    · rw [List.find?_cons_of_neg (by simpa using room)] at found
      obtain quota | capacity := refused_of_not_room room
      · rw [Program.runAlone_call (performSelect_refused quota (by decide))]
        exact ih found _ _
      · rw [Program.runAlone_call (performSelect_refused capacity (by decide))]
        exact ih found _ _

/-- With no room anywhere the error names a limit that was met. -/
theorem reserveFirst_full {scored : List ScoredRoute}
    (full : ∀ entry ∈ scored, ¬ HasRoom input store.counters entry.route)
    (sawCapacity sawQuota : Bool)
    (met : scored ≠ [] ∨ sawCapacity = true ∨ sawQuota = true) :
    ∃ error, (error = .orgQuotaExceeded ∨ error = .executorOverCapacity) ∧
      (reserveFirst input sawCapacity sawQuota scored).runAlone performSelect store =
        some (.error error, store) := by
  induction scored generalizing sawCapacity sawQuota with
  | nil =>
    cases sawQuota with
    | true => exact ⟨_, .inl rfl, rfl⟩
    | false =>
      cases sawCapacity with
      | true => exact ⟨_, .inr rfl, rfl⟩
      | false => simp at met
  | cons first rest ih =>
    have later : ∀ entry ∈ rest, ¬ HasRoom input store.counters entry.route :=
      fun entry member => full entry (List.mem_cons_of_mem _ member)
    simp only [reserveFirst, await, Program.issue_eq, Program.call_bind, Program.done_bind]
    obtain quota | capacity := refused_of_not_room (full first List.mem_cons_self)
    · rw [Program.runAlone_call (performSelect_refused quota (by decide))]
      exact ih later _ _ (.inr (.inr rfl))
    · rw [Program.runAlone_call (performSelect_refused capacity (by decide))]
      exact ih later _ _ (.inr (.inl rfl))

/-! ### The whole selection -/

/-- How full an executor is. -/
def load (store : SelectStore) (route : ExecutorRoute) : Rat :=
  (store.counters.get (.executor route.executorId)).toNat / (route.maxInFlight.getD 10 : Nat)

/-- The route that a selection should take. -/
structure Chosen (input : SelectInput) (store : SelectStore) (route : ExecutorRoute) : Prop where
  published : route ∈ store.table.read
  passes : Passes input route
  verified : Verified input route
  room : HasRoom input store.counters route
  least : ∀ other ∈ store.table.read, Passes input other → Verified input other →
    HasRoom input store.counters other → load store route < load store other ∨
      load store route = load store other ∧
        store.lastUsedMs route.executorId ≤ store.lastUsedMs other.executorId

/-- What is the case where a selection fails. -/
def Cause (input : SelectInput) (store : SelectStore) : SelectError → Prop
  | .noExecutorAvailable => ∀ route ∈ store.table.read, ¬ Passes input route
  | .executorOauthNotVerified => (∃ route ∈ store.table.read, Passes input route) ∧
      ∀ route ∈ store.table.read, Passes input route → ¬ Verified input route
  | .orgQuotaExceeded | .executorOverCapacity =>
    (∃ route ∈ store.table.read, Passes input route ∧ Verified input route) ∧
      ∀ route ∈ store.table.read, Passes input route → Verified input route →
        Refused input store.counters route

/-- A selection ends with a route and a reservation on it, or with an error and none. -/
def Correct (input : SelectInput) (store : SelectStore) :
    Except SelectError SelectedExecutor → SelectStore → Prop
  | .ok selected, after => ∃ route, selected = selectedRoute route ∧ Chosen input store route ∧
      HoldsOne input route store.counters after.counters
  | .error error, after => after = store ∧ Cause input store error

theorem ratio_eq {route : ExecutorRoute} (published : route ∈ store.table.read) :
    (scoreOf store route).ratio = load store route := by
  have positive : 0 < route.maxInFlight.getD 10 := by
    obtain ⟨value, scanned, rfl⟩ := List.mem_filterMap.mp published
    cases given : route.maxInFlight with
    | none => decide
    | some m => exact store.table.positive route (List.mem_of_mem_take scanned) m given
  simp only [scoreOf, gt_iff_lt, positive, ↓reduceIte, load]

theorem read_unique {table : RouteTable} {route other : ExecutorRoute}
    (published : route ∈ table.read) (too : other ∈ table.read)
    (same : route.executorId = other.executorId) : route = other := by
  obtain ⟨_, scanned, rfl⟩ := List.mem_filterMap.mp published
  obtain ⟨_, scanned', rfl⟩ := List.mem_filterMap.mp too
  exact table.keyed route (List.mem_of_mem_take scanned) other (List.mem_of_mem_take scanned') same

theorem mem_read_of_listed {route : ExecutorRoute} (listed : route ∈ listedFor input store.table) :
    route ∈ store.table.read := List.mem_of_mem_filter listed

theorem pool_of_listed {route : ExecutorRoute} (listed : route ∈ listedFor input store.table) :
    route.pool = input.pool := by
  have kept := (List.mem_filter.mp listed).2
  rw [Bool.and_eq_true] at kept
  exact of_decide_eq_true kept.1

theorem listed_of_passes {route : ExecutorRoute} (published : route ∈ store.table.read)
    (passes : Passes input route) : route ∈ listedFor input store.table := by
  obtain ⟨pool, base, -⟩ := passes_iff.mp passes
  exact (listed_iff base).mpr ⟨published, pool⟩

/-- The one route that a selector names decides alone. -/
theorem selectNamed_correct {executorId : String} (named : input.named = some executorId) :
    ∃ result after, (selectNamed input input.pool (listedFor input store.table)
        executorId).runAlone performSelect store = some (result, after) ∧
      Correct input store result after := by
  rw [selectNamed_alone]
  have only : ∀ {route other : ExecutorRoute}, route ∈ store.table.read →
      route.executorId = executorId → other ∈ store.table.read → Passes input other →
        other = route := by
    intro route other published same too passes
    exact read_unique too published ((passes.named executorId named).trans same.symm)
  cases found : (listedFor input store.table).find? (·.executorId == executorId) with
  | none =>
    refine ⟨_, _, rfl, rfl, ?_⟩
    intro route published passes
    have := List.find?_eq_none.mp found route (listed_of_passes published passes)
    simp [passes.named executorId named] at this
  | some route =>
    have listed := List.mem_of_find?_eq_some found
    have published := mem_read_of_listed listed
    have same : route.executorId = executorId := by simpa using List.find?_some found
    simp only
    by_cases base : baseFilter input route = false
    · rw [if_pos base]
      refine ⟨_, _, rfl, rfl, ?_⟩
      intro other too passes
      rw [only published same too passes] at passes
      simp [(passes_iff.mp passes).2.1] at base
    have passes : Passes input route := by
      refine passes_iff.mpr ⟨pool_of_listed listed, by simpa using base, ?_⟩
      intro other given
      rw [named] at given
      exact same.trans (Option.some.inj given)
    rw [if_neg base]
    by_cases unverified : isExecutorOauthVerified route input.oauthRequiredEngine = false
    · rw [if_pos unverified]
      refine ⟨_, _, rfl, rfl, ⟨route, published, passes⟩, ?_⟩
      intro other too passes' verified
      rw [only published same too passes', ← verified_iff] at verified
      simp [verified] at unverified
    have verified : Verified input route := verified_iff.mp (by simpa using unverified)
    rw [if_neg unverified]
    by_cases room : HasRoom input store.counters route
    · rw [if_pos room]
      refine ⟨_, _, rfl, route, rfl, ⟨published, passes, verified, room, ?_⟩,
        holdsOne_reserved room⟩
      intro other too passes' _ _
      rw [only published same too passes']
      exact .inr ⟨rfl, le_refl _⟩
    · have refused : (∃ route ∈ store.table.read, Passes input route ∧ Verified input route) ∧
          ∀ route ∈ store.table.read, Passes input route → Verified input route →
            Refused input store.counters route := by
        refine ⟨⟨route, published, passes, verified⟩, ?_⟩
        intro other too passes' _
        rw [only published same too passes']
        exact refused_of_not_room room
      rw [if_neg room]
      split
      · exact ⟨_, _, rfl, rfl, refused⟩
      · exact ⟨_, _, rfl, rfl, refused⟩

/-- The routes that are scored. -/
def candidatesOf (input : SelectInput) (table : RouteTable) : List ExecutorRoute :=
  ((listedFor input table).filter (baseFilter input)).filter
    (isExecutorOauthVerified · input.oauthRequiredEngine)

theorem mem_candidates {route : ExecutorRoute} (unnamed : input.named = none) :
    route ∈ candidatesOf input store.table ↔
      route ∈ store.table.read ∧ Passes input route ∧ Verified input route := by
  unfold candidatesOf
  rw [List.mem_filter, List.mem_filter, verified_iff, passes_iff]
  constructor
  · intro ⟨⟨listed, base⟩, verified⟩
    exact ⟨mem_read_of_listed listed, ⟨pool_of_listed listed, base, by simp [unnamed]⟩, verified⟩
  · intro ⟨published, ⟨pool, base, _⟩, verified⟩
    exact ⟨⟨(listed_iff base).mpr ⟨published, pool⟩, base⟩, verified⟩

/-- The candidates in the order in which they are tried. -/
def tried (input : SelectInput) (store : SelectStore) : List ScoredRoute :=
  ((candidatesOf input store.table).map (scoreOf store)).mergeSort ScoredRoute.before

theorem mem_tried {entry : ScoredRoute} : entry ∈ tried input store ↔
    ∃ route ∈ candidatesOf input store.table, scoreOf store route = entry := by
  rw [tried, List.mem_mergeSort, List.mem_map]

/-- The first of them with room is the least loaded one with room. -/
theorem tried_least {entry : ScoredRoute}
    (found : (tried input store).find? (fun entry => HasRoom input store.counters entry.route) =
      some entry) :
    ∀ other ∈ tried input store, HasRoom input store.counters other.route →
      other = entry ∨ entry.before other = true := by
  have ordered := List.pairwise_mergeSort before_trans before_total
    ((candidatesOf input store.table).map (scoreOf store))
  obtain ⟨_, before, after, split, full⟩ := List.find?_eq_some_iff_append.mp found
  rw [← tried, split, List.pairwise_append, List.pairwise_cons] at ordered
  intro other member room
  rw [split, List.mem_append, List.mem_cons] at member
  obtain early | rfl | late := member
  · have := full other early
    simp [room] at this
  · exact .inl rfl
  · exact .inr (ordered.2.1.1 other late)

theorem reserveFirst_correct (unnamed : input.named = none)
    (filled : candidatesOf input store.table ≠ []) :
    ∃ result after, (reserveFirst input false false (tried input store)).runAlone performSelect
        store = some (result, after) ∧ Correct input store result after := by
  cases found : (tried input store).find? fun entry =>
      HasRoom input store.counters entry.route with
  | some entry =>
    obtain ⟨route, member, rfl⟩ := mem_tried.mp (List.mem_of_find?_eq_some found)
    obtain ⟨published, passes, verified⟩ := (mem_candidates unnamed).mp member
    have room := List.find?_some found
    rw [decide_eq_true_iff] at room
    refine ⟨_, _, reserveFirst_found found false false, route, rfl,
      ⟨published, passes, verified, room, ?_⟩, holdsOne_reserved room⟩
    intro other too passes' verified' room'
    have listed := mem_tried.mpr ⟨other, (mem_candidates unnamed).mpr ⟨too, passes', verified'⟩, rfl⟩
    obtain same | less := tried_least found _ listed room'
    · have routes : other = route := congrArg ScoredRoute.route same
      rw [routes]
      exact .inr ⟨rfl, le_refl _⟩
    · rwa [before_iff, ratio_eq published, ratio_eq too] at less
  | none =>
    have full : ∀ entry ∈ tried input store, ¬ HasRoom input store.counters entry.route := by
      simpa using List.find?_eq_none.mp found
    obtain ⟨first, member⟩ := List.exists_mem_of_ne_nil _ filled
    have some : tried input store ≠ [] := by
      apply List.ne_nil_of_mem
      exact mem_tried.mpr ⟨first, member, rfl⟩
    obtain ⟨error, limit, ends⟩ := reserveFirst_full full false false (.inl some)
    refine ⟨_, _, ends, rfl, ?_⟩
    have refused : (∃ route ∈ store.table.read, Passes input route ∧ Verified input route) ∧
        ∀ route ∈ store.table.read, Passes input route → Verified input route →
          Refused input store.counters route := by
      refine ⟨⟨first, (mem_candidates unnamed).mp member⟩, ?_⟩
      intro route published passes verified
      apply refused_of_not_room
      exact full _ (mem_tried.mpr
        ⟨route, (mem_candidates unnamed).mpr ⟨published, passes, verified⟩, rfl⟩)
    obtain rfl | rfl := limit
    · exact refused
    · exact refused

theorem selectExecutorForTool_correct (input : SelectInput) (store : SelectStore) :
    ∃ result after, (selectExecutorForTool input).runAlone performSelect store =
      some (result, after) ∧ Correct input store result after := by
  simp only [selectExecutorForTool, await, Program.issue_eq, Program.call_bind, Program.done_bind]
  rw [Program.runAlone_call rfl]
  cases named : input.named with
  | some executorId =>
    obtain ⟨result, after, ends, correct⟩ := @selectNamed_correct input store executorId named
    refine ⟨result, after, ?_, correct⟩
    unfold SelectInput.named at named
    rw [named]
    exact ends
  | none =>
    have unnamed := named
    unfold SelectInput.named at named
    rw [named]
    show ∃ result after, (if (listedFor input store.table).filter (baseFilter input) ≠ [] ∧
        candidatesOf input store.table = [] then return .error .executorOauthNotVerified
      else if candidatesOf input store.table = [] then return .error .noExecutorAvailable
      else do
        let scored ← scoreRoutes (candidatesOf input store.table)
        reserveFirst input false false (scored.mergeSort ScoredRoute.before) :
        BrainProgram (Except SelectError SelectedExecutor)).runAlone performSelect store =
          some (result, after) ∧ Correct input store result after
    have passing : ∀ {route : ExecutorRoute}, route ∈ store.table.read → Passes input route →
        route ∈ (listedFor input store.table).filter (baseFilter input) := by
      intro route published passes
      exact List.mem_filter.mpr ⟨listed_of_passes published passes, (passes_iff.mp passes).2.1⟩
    by_cases none : candidatesOf input store.table = []
    · by_cases base : (listedFor input store.table).filter (baseFilter input) = []
      · rw [if_neg (by simp [base]), if_pos none]
        refine ⟨_, _, rfl, rfl, ?_⟩
        intro route published passes
        have listed := passing published passes
        rw [base] at listed
        cases listed
      · rw [if_pos ⟨base, none⟩]
        obtain ⟨route, member⟩ := List.exists_mem_of_ne_nil _ base
        obtain ⟨listed, passed⟩ := List.mem_filter.mp member
        refine ⟨_, _, rfl, rfl, ⟨route, mem_read_of_listed listed,
          passes_iff.mpr ⟨pool_of_listed listed, passed, by simp [unnamed]⟩⟩, ?_⟩
        intro other published passes verified
        have candidate := (mem_candidates unnamed).mpr ⟨published, passes, verified⟩
        rw [none] at candidate
        cases candidate
    · rw [if_neg (by simp [none]), if_neg none,
        Program.runAlone_bind (scoreRoutes_alone (candidatesOf input store.table))]
      exact reserveFirst_correct unnamed none

/-- No two errors have one cause. -/
theorem cause_unique {error : SelectError} (cause : Cause input store error) :
    (error = .noExecutorAvailable ↔ ∀ route ∈ store.table.read, ¬ Passes input route) ∧
    (error = .executorOauthNotVerified ↔ (∃ route ∈ store.table.read, Passes input route) ∧
      ∀ route ∈ store.table.read, Passes input route → ¬ Verified input route) ∧
    (error = .orgQuotaExceeded ∨ error = .executorOverCapacity →
      ∀ route ∈ store.table.read, Passes input route → Verified input route →
        Refused input store.counters route) := by
  cases error with
  | noExecutorAvailable =>
    refine ⟨⟨fun _ => cause, fun _ => rfl⟩, ⟨nofun, ?_⟩, by simp⟩
    intro ⟨⟨route, published, passes⟩, _⟩
    exact absurd passes (cause route published)
  | executorOauthNotVerified =>
    obtain ⟨⟨route, published, passes⟩, _⟩ := id cause
    refine ⟨⟨nofun, ?_⟩, ⟨fun _ => cause, fun _ => rfl⟩, by simp⟩
    intro none
    exact absurd passes (none route published)
  | orgQuotaExceeded =>
    obtain ⟨⟨route, published, passes, verified⟩, refused⟩ := id cause
    refine ⟨⟨nofun, ?_⟩, ⟨nofun, ?_⟩, fun _ => refused⟩
    · intro none
      exact absurd passes (none route published)
    · intro ⟨_, unverified⟩
      exact absurd verified (unverified route published passes)
  | executorOverCapacity =>
    obtain ⟨⟨route, published, passes, verified⟩, refused⟩ := id cause
    refine ⟨⟨nofun, ?_⟩, ⟨nofun, ?_⟩, fun _ => refused⟩
    · intro none
      exact absurd passes (none route published)
    · intro ⟨_, unverified⟩
      exact absurd verified (unverified route published passes)

/-- A selection that runs alone takes the least loaded eligible route that has room, with one
reservation on it; or it fails for want of a route that passes the filters, of a verified one, or
of room, and holds none. The routes are those of the first 5000 keys of the scan. -/
theorem selection_sound_complete (input : SelectInput) (store : SelectStore) :
    (∃ route after,
      (selectExecutorForTool input).runAlone performSelect store =
        some (.ok (selectedRoute route), after) ∧
      Chosen input store route ∧ HoldsOne input route store.counters after.counters) ∨
    ∃ error,
      (selectExecutorForTool input).runAlone performSelect store = some (.error error, store) ∧
      (error = .noExecutorAvailable ↔ ∀ route ∈ store.table.read, ¬ Passes input route) ∧
      (error = .executorOauthNotVerified ↔ (∃ route ∈ store.table.read, Passes input route) ∧
        ∀ route ∈ store.table.read, Passes input route → ¬ Verified input route) ∧
      (error = .orgQuotaExceeded ∨ error = .executorOverCapacity →
        ∀ route ∈ store.table.read, Passes input route → Verified input route →
          Refused input store.counters route) := by
  obtain ⟨result, after, ends, correct⟩ := selectExecutorForTool_correct input store
  cases result with
  | ok selected =>
    obtain ⟨route, rfl, chosen, holds⟩ := correct
    exact .inl ⟨route, after, ends, chosen, holds⟩
  | error error =>
    obtain ⟨rfl, cause⟩ := correct
    exact .inr ⟨error, ends, cause_unique cause⟩

/-! ### More routes than the scan returns -/

theorem selection_of_none (none : ∀ route ∈ store.table.read, ¬ Passes input route) :
    (selectExecutorForTool input).runAlone performSelect store =
      some (.error .noExecutorAvailable, store) := by
  obtain ⟨result, after, ends, correct⟩ := selectExecutorForTool_correct input store
  cases result with
  | ok selected =>
    obtain ⟨route, -, chosen, -⟩ := correct
    exact absurd chosen.passes (none route chosen.published)
  | error error =>
    obtain ⟨rfl, cause⟩ := correct
    rw [ends, (cause_unique cause).1.mpr none]

def byonRoute (executorId organizationId : String) : ExecutorRoute where
  edgeId := "edge"
  executorId := executorId
  pool := .byon
  organizationId := some organizationId
  labels := none
  maxInFlight := none
  kinds := some [.agentRun]
  oauthVerified := []

/-- An executor of another organization. -/
def elsewhere (n : Nat) : ExecutorRoute :=
  byonRoute (String.ofList (List.replicate (n + 1) 'a')) "other"

theorem elsewhere_injective {m n : Nat}
    (same : (elsewhere m).executorId = (elsewhere n).executorId) : m = n := by
  have lengths := congrArg (fun id => id.toList.length) same
  simpa [elsewhere, byonRoute] using lengths

theorem elsewhere_ne (n : Nat) : (elsewhere n).executorId ≠ "b" := by
  intro same
  have chars := congrArg String.toList same
  simp [elsewhere, byonRoute, List.replicate_succ] at chars

theorem mem_crowd {n : Nat} {route : ExecutorRoute}
    (scanned : some route ∈ (List.range n).map (fun i => some (elsewhere i)) ++
      [some (byonRoute "b" "org")]) : (∃ i, route = elsewhere i) ∨ route = byonRoute "b" "org" := by
  obtain there | last := List.mem_append.mp scanned
  · obtain ⟨i, -, same⟩ := List.mem_map.mp there
    exact .inl ⟨i, (Option.some.inj same).symm⟩
  · exact .inr (Option.some.inj (List.mem_singleton.mp last))

/-- The organization's executor behind as many others. -/
def crowd (n : Nat) : RouteTable where
  scanned := (List.range n).map (fun i => some (elsewhere i)) ++ [some (byonRoute "b" "org")]
  positive := by
    intro route scanned m given
    obtain ⟨i, rfl⟩ | rfl := mem_crowd scanned
    · cases given
    · cases given
  keyed := by
    intro route scanned other scanned' same
    obtain ⟨i, rfl⟩ | rfl := mem_crowd scanned
    · obtain ⟨j, rfl⟩ | rfl := mem_crowd scanned'
      · rw [elsewhere_injective same]
      · exact absurd same (elsewhere_ne i)
    · obtain ⟨j, rfl⟩ | rfl := mem_crowd scanned'
      · exact absurd same.symm (elsewhere_ne j)
      · rfl

def crowded : SelectStore where
  table := crowd 5000
  counters := .empty
  lastUsedMs _ := 0
  nowMs := 0

def runAgent : SelectInput where
  organizationId := "org"
  kind := .agentRun
  selector := none
  oauthRequiredEngine := none
  orgMaxInFlight := 10
  reserveTtlMs := 60000

theorem read_crowded {route : ExecutorRoute} (published : route ∈ crowded.table.read) :
    ∃ i, route = elsewhere i := by
  have first : crowded.table.scanned.take 5000 =
      (List.range 5000).map fun i => some (elsewhere i) := by
    apply List.take_left'
    rw [List.length_map, List.length_range]
  rw [RouteTable.read, first] at published
  obtain ⟨_, there, same⟩ := List.mem_filterMap.mp published
  obtain ⟨i, -, rfl⟩ := List.mem_map.mp there
  exact ⟨i, (Option.some.inj same).symm⟩

/-- The only executor of the organization is published and idle, and none is found. -/
theorem published_route_missed :
    some (byonRoute "b" "org") ∈ crowded.table.scanned ∧ Passes runAgent (byonRoute "b" "org") ∧
      Verified runAgent (byonRoute "b" "org") ∧
      HasRoom runAgent crowded.counters (byonRoute "b" "org") ∧
      (selectExecutorForTool runAgent).runAlone performSelect crowded =
        some (.error .noExecutorAvailable, crowded) := by
  refine ⟨List.mem_append_right _ List.mem_cons_self, ?_, nofun, by decide, ?_⟩
  · exact passes_iff.mpr ⟨rfl, by decide, nofun⟩
  · apply selection_of_none
    intro route published passes
    obtain ⟨i, rfl⟩ := read_crowded published
    have organization := passes.organization rfl
    simp [elsewhere, byonRoute, runAgent] at organization

end Vespid.Brain
