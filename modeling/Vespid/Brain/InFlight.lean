import Vespid.Brain.Invoke
import Vespid.Brain.Session
import Vespid.Lib.Holders
import Vespid.Lib.Protocol

/-!
# Reservations in flight

Any number of brains invoke tools and handle session messages over the Redis counters. What
they learn from the rest of the world is arbitrary, but for the limits, which bound what the
routes and the organizations' settings say.
-/

namespace Vespid.Brain

open Interleaving

structure CapacityLimits where
  executorMaxInFlight : String → Nat
  orgMaxInFlight : String → Nat

def CapacityLimits.of (limits : CapacityLimits) : InFlightKey → Nat
  | .executor executorId => limits.executorMaxInFlight executorId
  | .organization organizationId => limits.orgMaxInFlight organizationId

/-- An invocation that may hold a reservation. -/
inductive Invocation where
  | tool (env : BrainEnv) (call : ToolCall)
  | session (env : BrainEnv) (msg : SessionSend)

variable (limits : CapacityLimits)

def CapacityLimits.admit (routes : List ExecutorRoute) : Bool :=
  routes.all fun route => route.maxInFlight.getD 10 ≤ limits.executorMaxInFlight route.executorId

def performCapacity (op : BrainOp) (counters : Counters) (answer : (op : BrainOp) → op.Reply) :
    Option (op.Reply × Counters) :=
  match op with
  | .reserveCapacity input => some (reserveCapacity input counters)
  | .decr key =>
    let done : Bool := answer (.decr key)
    some (done, if done then counters.decr key else counters)
  | .listExecutorRoutes pool organizationId =>
    let routes : List ExecutorRoute := answer (.listExecutorRoutes pool organizationId)
    if limits.admit routes then some (routes, counters) else none
  | .getOrgMaxInFlight organizationId =>
    let max : Nat := answer (.getOrgMaxInFlight organizationId)
    if max ≤ limits.orgMaxInFlight organizationId then some (max, counters) else none
  | op => some (answer op, counters)

/-- Brains over the counters; time passes by milliseconds. -/
abbrev capacityBrains : System BrainOps where
  Store := Counters
  Launch := Invocation
  Loop := Empty
  Outcome := Unit
  Choice := (op : BrainOp) → op.Reply
  Tick := Nat
  perform := performCapacity limits
  launch _ counters := some counters
  entry
    | .tool env call => (fun _ => .inr ()) <$> invokeToolOnExecutor env call
    | .session env msg => .inr <$> handleSessionSend env msg
  body _ loop := nomatch loop
  finish _ _ counters := counters
  tick ms counters := some (counters.advance ms)

def noInvocations : (capacityBrains limits).State :=
  { store := .empty, process := fun _ => none }

/-! ### What an invocation holds -/

/-- A reservation is held until it is given back, the executor's part before the
organization's. -/
inductive Reservation where
  | free
  | both (executorId organizationId : String)
  | organization (organizationId : String)
  deriving DecidableEq

namespace Reservation

def counts : Reservation → InFlightKey → Prop
  | free, _ => False
  | both executorId organizationId, key =>
    key = .executor executorId ∨ key = .organization organizationId
  | organization organizationId, key => key = .organization organizationId

def permits (held : Reservation) : BrainOp → Prop
  | .reserveCapacity input => held = free ∧ ∀ key, input.counts key → input.limit key ≤ limits.of key
  | .decr (.executor executorId) => ∃ organizationId, held = both executorId organizationId
  | .decr (.organization organizationId) => held = organization organizationId
  | _ => True

def observe : Reservation → (op : BrainOp) → op.Reply → Reservation
  | held, .reserveCapacity input, reply =>
    if reply = .ok then both input.executorId input.organizationId else held
  | both _ organizationId, .decr (.executor _), _ => organization organizationId
  | _, .decr (.organization _), _ => free
  | held, _, _ => held

end Reservation

def capacityProtocol : Protocol BrainOps Reservation where
  permits := Reservation.permits limits
  expects op reply := match op, reply with
    | .listExecutorRoutes .., routes => limits.admit routes
    | .getOrgMaxInFlight organizationId, max => max ≤ limits.orgMaxInFlight organizationId
    | _, _ => True
  observe := Reservation.observe

/-! ### The programs keep to it -/

/-- Operations that have nothing to do with reservations. -/
def uncounted : BrainOp → Prop
  | .reserveCapacity _ | .decr _ => False
  | _ => True

variable {limits} {held : Reservation}

theorem observe_uncounted {op : BrainOp} (apart : uncounted op) (reply : op.Reply) :
    held.observe op reply = held := by
  cases op <;> first | exact False.elim apart | (cases held <;> rfl)

theorem permits_uncounted {op : BrainOp} (apart : uncounted op) : held.permits limits op := by
  cases op <;> first | exact False.elim apart | trivial

/-- A program of such operations leaves the reservation as it is. -/
theorem wp_uncounted {α : Type} {p : BrainProgram α} (only : p.Only uncounted) :
    p.wp (capacityProtocol limits) (fun _ after => after = held) held := by
  induction p with
  | done value => rfl
  | call op next ih =>
    refine ⟨permits_uncounted only.1, fun reply _ => ?_⟩
    have same : (capacityProtocol limits).observe held op reply = held :=
      observe_uncounted only.1 reply
    rw [same]
    exact ih reply (only.2 reply)

/-- What a selection leaves its caller with. -/
def Selected (input : SelectInput) (selected : Except SelectError SelectedExecutor)
    (held : Reservation) : Prop :=
  match selected with
  | .error _ => held = .free
  | .ok executor => held = .both executor.executorId input.organizationId

/-- The limits a selection goes by. -/
def CapacityLimits.covers (limits : CapacityLimits) (input : SelectInput) : Prop :=
  input.orgMaxInFlight ≤ limits.orgMaxInFlight input.organizationId

variable {input : SelectInput}

theorem reserveOn_within (within : limits.covers input) {route : ExecutorRoute}
    (admitted : route.maxInFlight.getD 10 ≤ limits.executorMaxInFlight route.executorId)
    (key : InFlightKey) (counted : (reserveOn input route).counts key) :
    (reserveOn input route).limit key ≤ limits.of key := by
  rcases counted with rfl | rfl
  · exact admitted
  · exact within

/-- A reservation attempt, and then what is done where it was granted and where it was not. -/
theorem reserve_follows {α : Type} {post : α → Reservation → Prop}
    {next : ReserveCapacityResult → BrainProgram α} (within : limits.covers input)
    {route : ExecutorRoute}
    (admitted : route.maxInFlight.getD 10 ≤ limits.executorMaxInFlight route.executorId)
    (granted : (next .ok).wp (capacityProtocol limits) post
      (.both route.executorId input.organizationId))
    (refused : ∀ result, result ≠ .ok → (next result).wp (capacityProtocol limits) post .free) :
    (Program.call (I := BrainOps) (.reserveCapacity (reserveOn input route)) next).wp
      (capacityProtocol limits) post .free := by
  refine ⟨⟨rfl, reserveOn_within within admitted⟩, fun result _ => ?_⟩
  by_cases ok : result = .ok
  · subst ok
    exact granted
  · have same : (capacityProtocol limits).observe .free
        (.reserveCapacity (reserveOn input route)) result = .free := if_neg ok
    rw [same]
    exact refused result ok

theorem selectNamed_follows (within : limits.covers input) {routes : List ExecutorRoute}
    (admitted : limits.admit routes) (pool : ExecutorPool) (executorId : String) :
    (selectNamed input pool routes executorId).wp (capacityProtocol limits) (Selected input)
      .free := by
  unfold selectNamed
  split
  · rfl
  · rename_i route found
    have bounded := List.all_eq_true.mp admitted route (List.mem_of_find?_eq_some found)
    have bounded := of_decide_eq_true bounded
    split
    · rfl
    split
    · rfl
    split
    · rfl
    split
    · rfl
    simp only [Program.issue_eq, Program.call_bind, Program.done_bind]
    refine reserve_follows within bounded ?_ ?_
    · exact ⟨trivial, fun _ _ => rfl⟩
    · intro result no
      cases result with
      | ok => exact (no rfl).elim
      | _ => rfl

theorem reserveFirst_follows (within : limits.covers input) {scored : List ScoredRoute}
    (admitted : ∀ entry ∈ scored,
      entry.route.maxInFlight.getD 10 ≤ limits.executorMaxInFlight entry.route.executorId)
    (sawCapacity sawQuota : Bool) :
    (reserveFirst input sawCapacity sawQuota scored).wp (capacityProtocol limits) (Selected input)
      .free := by
  induction scored generalizing sawCapacity sawQuota with
  | nil =>
    unfold reserveFirst
    split
    · rfl
    split <;> rfl
  | cons entry rest ih =>
    have later (sawCapacity sawQuota : Bool) :=
      ih (fun entry mem => admitted entry (List.mem_cons_of_mem _ mem)) sawCapacity sawQuota
    simp only [reserveFirst, Program.issue_eq, Program.call_bind, Program.done_bind]
    refine reserve_follows within (admitted entry List.mem_cons_self) ?_ ?_
    · exact ⟨trivial, fun _ _ => rfl⟩
    · intro result no
      cases result with
      | ok => exact (no rfl).elim
      | _ => exact later _ _

/-- Scoring reads, and keeps the routes it scores. -/
theorem scoreRoutes_follows (routes : List ExecutorRoute) :
    (scoreRoutes routes).wp (capacityProtocol limits)
      (fun scored after => after = held ∧ ∀ entry ∈ scored, entry.route ∈ routes) held := by
  induction routes with
  | nil => exact ⟨rfl, fun _ mem => nomatch mem⟩
  | cons route routes ih =>
    simp only [scoreRoutes, Program.issue_eq, Program.call_bind, Program.done_bind, Program.wp_call]
    refine ⟨trivial, fun inFlight _ => ⟨trivial, fun lastUsedMs _ => ?_⟩⟩
    have reads : uncounted (.getInFlight route.executorId) := trivial
    have reads' : uncounted (.getExecutorLastUsedMs route.executorId) := trivial
    have first : held.observe _ inFlight = held := observe_uncounted reads inFlight
    have second : held.observe _ lastUsedMs = held := observe_uncounted reads' lastUsedMs
    simp only [capacityProtocol, first, second]
    refine Program.wp_seq ih fun rest after facts => ?_
    obtain ⟨rfl, fromRoutes⟩ := facts
    refine ⟨rfl, fun entry mem => ?_⟩
    rcases List.mem_cons.mp mem with rfl | mem
    · exact List.mem_cons_self
    · exact List.mem_cons_of_mem _ (fromRoutes entry mem)

theorem selectExecutorForTool_follows (within : limits.covers input) :
    (selectExecutorForTool input).wp (capacityProtocol limits) (Selected input) .free := by
  simp only [selectExecutorForTool, await, Program.issue_eq, Program.call_bind, Program.done_bind,
    Program.wp_call]
  refine ⟨trivial, fun routes admitted => ?_⟩
  split
  · exact selectNamed_follows within admitted _ _
  · split
    · rfl
    split
    · rfl
    refine Program.wp_seq (scoreRoutes_follows _) fun scored after facts => ?_
    obtain ⟨rfl, fromRoutes⟩ := facts
    refine reserveFirst_follows within ?_ _ _
    intro entry mem
    have listed : entry.route ∈ routes :=
      List.mem_of_mem_filter (List.mem_of_mem_filter (fromRoutes entry (List.mem_mergeSort.mp mem)))
    exact of_decide_eq_true (List.all_eq_true.mp admitted _ listed)

theorem releaseCapacity_follows (executorId organizationId : String) :
    (releaseCapacity executorId organizationId).wp (capacityProtocol limits)
      (fun _ after => after = .free) (.both executorId organizationId) := by
  simp only [releaseCapacity, await, Program.issue_eq, Program.call_bind, Program.done_bind,
    Program.wp_call]
  exact ⟨⟨organizationId, rfl⟩, fun _ _ => ⟨rfl, fun _ _ => rfl⟩⟩

/-! ### Tool calls -/

theorem callOnWorkspace_uncounted (env : BrainEnv) (call : ToolCall) (executor : SelectedExecutor) :
    (callOnWorkspace env call executor).Only uncounted := by
  have settled (row : WorkspaceRow) (entry : Nat) (reply : ToolReply) :
      (settleReply call row entry reply).Only uncounted := by
    unfold settleReply
    split
    · trivial
    · refine ⟨trivial, fun committed => ?_⟩
      cases committed <;> trivial
  have locked (row : WorkspaceRow) : (callLocked env call row executor).Only uncounted := by
    unfold callLocked
    split
    · trivial
    · refine ⟨trivial, fun entry => ⟨trivial, fun reply => ?_⟩⟩
      cases reply with
      | none => trivial
      | some reply => exact settled row entry reply
  have found : (workspaceOfOwner call).Only uncounted := by
    refine ⟨trivial, fun row => ?_⟩
    cases row with
    | none => exact ⟨trivial, fun _ => trivial⟩
    | some row => trivial
  refine Program.only_bind found fun row => ?_
  simp only [await, Program.issue_eq, Program.call_bind, Program.done_bind]
  refine ⟨trivial, fun got => ?_⟩
  cases got with
  | false => trivial
  | true =>
    refine Program.only_bind (locked row) fun result => ?_
    obtain ⟨result, toRelease⟩ := result
    cases toRelease with
    | false => trivial
    | true => exact ⟨trivial, fun _ => trivial⟩

theorem invokeToolOnExecutor_follows (env : BrainEnv) (call : ToolCall) :
    (invokeToolOnExecutor env call).wp (capacityProtocol limits) (fun _ after => after = .free)
      .free := by
  simp only [invokeToolOnExecutor, await, Program.issue_eq, Program.call_bind, Program.done_bind,
    Program.wp_call]
  refine ⟨trivial, fun orgMaxInFlight within => ?_⟩
  refine Program.wp_seq (selectExecutorForTool_follows within) fun selected after chosen => ?_
  cases selected with
  | error error => exact chosen
  | ok executor =>
    obtain rfl : after = _ := chosen
    refine Program.wp_seq (wp_uncounted (callOnWorkspace_uncounted env call executor)) ?_
    rintro result after rfl
    exact Program.wp_seq (releaseCapacity_follows _ _) fun _ _ free => free

/-! ### Session messages -/

theorem failSession_uncounted (msg : SessionSend) (code message : String) :
    (failSession msg code message).Only uncounted := ⟨trivial, fun _ => trivial⟩

theorem uncounted_of_pinning {op : BrainOp} (part : pinning op) : uncounted op := by
  unfold pinning at part
  split at part <;> first | exact False.elim part | trivial

theorem uncounted_of_forgetting {op : BrainOp} (part : forgetting op) : uncounted op := by
  unfold forgetting at part
  split at part <;> first | exact False.elim part | trivial

theorem settleTurn_uncounted (env : BrainEnv) (msg : SessionSend) (reply : TurnReply) :
    (settleTurn env msg reply).Only uncounted := by
  simp only [settleTurn, await, Program.issue_eq, Program.call_bind, Program.done_bind,
    Program.only_call]
  refine ⟨trivial, fun current => ?_⟩
  split
  · split
    · exact ⟨trivial, fun _ => trivial⟩
    · exact failSession_uncounted ..
  · split
    · trivial
    · exact ⟨trivial, fun _ => ⟨trivial, fun _ => trivial⟩⟩

theorem runOnExecutor_uncounted (env : BrainEnv) (msg : SessionSend) (session : AgentSession)
    (executor : SelectedExecutor) : (runOnExecutor env msg session executor).Only uncounted := by
  simp only [runOnExecutor, await, Program.issue_eq, Program.call_bind, Program.done_bind,
    Program.only_call]
  refine ⟨trivial, fun _ => ⟨trivial, fun opened => ?_⟩⟩
  split
  · exact failSession_uncounted ..
  · refine ⟨trivial, fun _ => ⟨trivial, fun _ => ⟨trivial, fun reply => ?_⟩⟩⟩
    cases reply with
    | none => exact failSession_uncounted ..
    | some reply => exact settleTurn_uncounted env msg reply

theorem turnOnExecutor_uncounted (env : BrainEnv) (msg : SessionSend) (session : AgentSession)
    (executor : SelectedExecutor) : (turnOnExecutor env msg session executor).Only uncounted := by
  refine Program.only_bind (Program.only_mono (fun _ => uncounted_of_pinning)
    (persistPin_pinning msg session executor)) fun session => ?_
  split
  · exact failSession_uncounted ..
  split
  · exact failSession_uncounted ..
  · exact runOnExecutor_uncounted env msg session executor

/-- What a session's selection leaves its caller with. -/
def SelectedForSession {ε : Type} (organizationId : String) (selected : Except ε SelectedExecutor)
    (held : Reservation) : Prop :=
  match selected with
  | .error _ => held = .free
  | .ok executor => held = .both executor.executorId organizationId

/-- What the selection of a session's own executor leaves its caller with. -/
def SelectedPinned {ε : Type} (organizationId : String)
    (pinned : Except ε (Option SelectedExecutor)) (held : Reservation) : Prop :=
  match pinned with
  | .ok (some executor) => held = .both executor.executorId organizationId
  | _ => held = .free

theorem selectForSession_follows (env : BrainEnv) (msg : SessionSend) (session : AgentSession)
    {orgMaxInFlight : Nat} (within : orgMaxInFlight ≤ limits.orgMaxInFlight msg.organizationId) :
    (selectForSession env msg session orgMaxInFlight).wp (capacityProtocol limits)
      (SelectedForSession msg.organizationId) .free := by
  have pinned : (selectPinned env msg session orgMaxInFlight).wp (capacityProtocol limits)
      (SelectedPinned msg.organizationId) .free := by
    unfold selectPinned
    split
    · rfl
    · refine Program.wp_seq (selectExecutorForTool_follows within) fun selected after chosen => ?_
      cases selected with
      | ok executor => exact chosen
      | error error => cases error <;> exact chosen
  refine Program.wp_seq pinned fun pinned after chosen => ?_
  cases pinned with
  | error failure => exact chosen
  | ok pinned =>
    cases pinned with
    | some executor => exact chosen
    | none =>
      obtain rfl : after = _ := chosen
      refine Program.wp_seq (selectExecutorForTool_follows within) fun selected after chosen => ?_
      cases selected with
      | ok executor => exact chosen
      | error error => exact chosen

/-- The executor that is to be released, and nothing else, is reserved. -/
theorem trySessionSend_follows (env : BrainEnv) (msg : SessionSend) :
    (trySessionSend env msg).wp (capacityProtocol limits)
      (fun selected after => after = selected.elim .free fun executor =>
        .both executor.executorId msg.organizationId) .free := by
  simp only [trySessionSend, await, Program.issue_eq, Program.call_bind, Program.done_bind,
    Program.wp_call]
  refine ⟨trivial, fun session _ => ?_⟩
  cases session with
  | none => rfl
  | some session =>
    refine ⟨trivial, fun orgMaxInFlight within => ?_⟩
    split
    · refine Program.wp_seq (wp_uncounted (failSession_uncounted ..)) ?_
      rintro - after rfl
      rfl
    · refine Program.wp_seq (selectForSession_follows env msg session within) ?_
      intro selected after chosen
      cases selected with
      | error failure =>
        obtain ⟨code, message⟩ := failure
        obtain rfl : after = _ := chosen
        refine Program.wp_seq (wp_uncounted (failSession_uncounted ..)) ?_
        rintro - after rfl
        rfl
      | ok executor =>
        obtain rfl : after = _ := chosen
        refine Program.wp_seq (wp_uncounted (turnOnExecutor_uncounted ..)) ?_
        rintro - after rfl
        rfl

theorem handleSessionSend_follows (env : BrainEnv) (msg : SessionSend) :
    (handleSessionSend env msg).wp (capacityProtocol limits) (fun _ after => after = .free)
      .free := by
  simp only [handleSessionSend, await, Program.issue_eq, Program.call_bind, Program.done_bind,
    Program.wp_call]
  refine ⟨trivial, fun lockOk _ => ?_⟩
  split
  · rfl
  refine Program.wp_seq (trySessionSend_follows env msg) fun selected after kept => ?_
  subst kept
  have forgotten : (forgetTurn env msg).Only uncounted :=
    Program.only_mono (fun _ => uncounted_of_forgetting) (forgetTurn_forgetting env msg)
  have released : (releaseSelected msg selected).wp (capacityProtocol limits)
      (fun _ after => after = .free) (selected.elim .free fun executor =>
        .both executor.executorId msg.organizationId) := by
    cases selected with
    | none => rfl
    | some executor => exact releaseCapacity_follows _ _
  refine Program.wp_seq (wp_uncounted forgotten) ?_
  rintro - after rfl
  refine Program.wp_seq released ?_
  rintro - after rfl
  exact ⟨trivial, fun _ _ => rfl⟩

variable (limits)

def capacityCertified : Certified (capacityBrains limits) (capacityProtocol limits) where
  start _ := .free
  looping _ loop _ := nomatch loop
  ended _ _ after := after = .free
  entry_follows
    | .tool env call => Program.wp_seq (invokeToolOnExecutor_follows env call) fun _ _ free => free
    | .session env msg => Program.wp_seq (handleSessionSend_follows env msg) fun _ _ free => free
  body_follows _ loop := nomatch loop
  replies op counters answer reply counters' performed := by
    cases op <;> try trivial
    all_goals
      simp only [performCapacity] at performed
      split at performed
      · obtain ⟨rfl, -⟩ := Prod.mk.inj (Option.some.inj performed)
        assumption
      · cases performed

/-! ### Capacity is kept while no counter is lost -/

/-- The invocations that hold a reservation counted on `key`. -/
def holders (s : (capacityBrains limits).State) (key : InFlightKey) : Set Nat :=
  Holders (fun q => q.2.counts key) ((capacityCertified limits).crew s)

/-- At most the limits are held, and no counter is negative. -/
structure WithinCapacity (s : (capacityBrains limits).State) : Prop where
  executors : ∀ executorId,
    (holders limits s (.executor executorId)).encard ≤ limits.executorMaxInFlight executorId
  organizations : ∀ organizationId,
    (holders limits s (.organization organizationId)).encard ≤ limits.orgMaxInFlight organizationId
  nonneg : ∀ key counter, s.store.at? key = some counter → 0 ≤ counter.value

/-- No counter expires while an invocation holds a reservation counted on it. -/
def CountersOutlive (s : (capacityBrains limits).State) (a : (capacityBrains limits).Action) :
    Prop :=
  ∀ ms : Nat, a = .tick ms → ∀ key, s.store.Expires ms key → holders limits s key = ∅

/-- A counter is no less than the number of its holders, and no more than its limit. -/
def Counted (counters : Counters) (crew : Nat → Option (Invocation × Reservation))
    (key : InFlightKey) : Prop :=
  ∃ n : Nat, counters.get key = n ∧ (Holders (fun q => q.2.counts key) crew).encard ≤ n ∧
    n ≤ limits.of key

variable {limits} {counters counters' : Counters} {id : Nat} {l : Invocation}
  {crew : Nat → Option (Invocation × Reservation)} {key : InFlightKey}

/-- Where neither the counter nor what the invocation holds on it changes. -/
theorem Counted.same (counted : Counted limits counters crew key)
    (unchanged : counters'.get key = counters.get key) (here : crew id = some (l, held))
    {held' : Reservation} (alike : held'.counts key ↔ held.counts key) :
    Counted limits counters' (Function.update crew id (some (l, held'))) key := by
  obtain ⟨n, value, bound, within⟩ := counted
  have holders : Holders (fun q => q.2.counts key) (Function.update crew id (some (l, held'))) =
      Holders (fun q => q.2.counts key) crew := holders_same here alike
  exact ⟨n, unchanged.trans value, holders ▸ bound, within⟩

theorem Counted.reserve {input : ReserveInput} (counted : Counted limits counters crew key)
    (reserved : reserveCapacity input counters = (.ok, counters'))
    (bounded : ∀ key, input.counts key → input.limit key ≤ limits.of key)
    (here : crew id = some (l, .free)) :
    Counted limits counters'
      (Function.update crew id (some (l, .both input.executorId input.organizationId))) key := by
  have change := reserveCapacity_ok reserved key
  by_cases counts : input.counts key
  · obtain ⟨n, value, bound, within⟩ := counted
    obtain ⟨next, fits⟩ := change.1 counts
    have room := bounded key counts
    refine ⟨n + 1, by omega, holders_join bound, by omega⟩
  · exact counted.same (change.2 counts) here ⟨fun counts' => (counts counts').elim, False.elim⟩

theorem Counted.release {held' : Reservation} {done : Bool}
    (counted : Counted limits counters crew key) (here : crew id = some (l, held))
    (had : held.counts key) (gone : ¬held'.counts key) :
    Counted limits (if done then counters.decr key else counters)
      (Function.update crew id (some (l, held'))) key := by
  obtain ⟨n, value, bound, within⟩ := counted
  have lets (r : Invocation × Reservation) (same : some (l, held') = some r) : ¬r.2.counts key := by
    obtain rfl := Option.some.inj same
    exact gone
  obtain ⟨m, rfl, less⟩ := holders_leave bound here had lets
  cases done with
  | true =>
    refine ⟨m, ?_, less, by omega⟩
    simp [Counters.decr, value]
  | false => exact ⟨m + 1, value, less.trans (by exact_mod_cast Nat.le_succ m), within⟩

theorem Counted.advance (counted : Counted limits counters crew key) {ms : Nat}
    (outlives : counters.Expires ms key → Holders (fun q => q.2.counts key) crew = ∅) :
    Counted limits (counters.advance ms) crew key := by
  obtain ⟨n, value, bound, within⟩ := counted
  by_cases expires : counters.Expires ms key
  · refine ⟨0, ?_, ?_, Nat.zero_le _⟩
    · rcases counters.get_advance_cases key ms with same | zero
      · simp [Counters.get, Option.isNone_iff_eq_none.mp expires.1]
      · exact zero
    · rw [outlives expires]
      simp
  · exact ⟨n, (counters.get_advance key expires).trans value, bound, within⟩

/-- What one operation does to every counter and its holders. -/
theorem counted_step {op : BrainOp} {reply : op.Reply} {answer : (op : BrainOp) → op.Reply}
    (all : ∀ key, Counted limits counters crew key) (here : crew id = some (l, held))
    (permitted : held.permits limits op)
    (performed : performCapacity limits op counters answer = some (reply, counters')) :
    ∀ key, Counted limits counters' (Function.update crew id (some (l, held.observe op reply)))
      key := by
  intro key
  by_cases apart : uncounted op
  · have same : counters' = counters := by
      cases op <;> first
        | exact False.elim apart
        | (simp only [performCapacity, Option.some.injEq, Prod.mk.injEq] at performed
           first
             | exact performed.2.symm
             | (split at performed
                · exact (Prod.mk.inj (Option.some.inj performed)).2.symm
                · cases performed))
    subst same
    exact (all key).same rfl here (by rw [observe_uncounted apart])
  · cases op <;> first | exact (apart trivial).elim | skip
    case reserveCapacity input =>
      obtain ⟨rfl, bounded⟩ := permitted
      have performed := Option.some.inj performed
      by_cases ok : reply = .ok
      · subst ok
        exact (all key).reserve performed bounded here
      · have same := reserveCapacity_refused performed ok
        subst same
        have observed : Reservation.free.observe (.reserveCapacity input) reply = .free := if_neg ok
        exact (all key).same rfl here (by rw [observed])
    case decr counter =>
      have performed := (Prod.mk.inj (Option.some.inj performed)).2
      subst performed
      cases counter with
      | executor executorId =>
        obtain ⟨organizationId, rfl⟩ := permitted
        by_cases same : key = .executor executorId
        · subst same
          exact (all _).release here (.inl rfl) (by simp [Reservation.observe, Reservation.counts])
        · refine (all key).same ?_ here ?_
          · split <;> simp [Counters.decr, same]
          · simp [Reservation.observe, Reservation.counts, same]
      | organization organizationId =>
        obtain rfl : held = _ := permitted
        by_cases same : key = .organization organizationId
        · subst same
          exact (all _).release here rfl (by simp [Reservation.observe, Reservation.counts])
        · refine (all key).same ?_ here ?_
          · split <;> simp [Counters.decr, same]
          · simp [Reservation.observe, Reservation.counts, same]

theorem counted_run {s : (capacityBrains limits).State}
    (run : System.Steps (CountersOutlive limits) (noInvocations limits) s) :
    ∀ key, Counted limits s.store ((capacityCertified limits).crew s) key := by
  refine ((capacityCertified limits).invariant
    (fun s => ∀ key, Counted limits s.store ((capacityCertified limits).crew s) key)
    (fun _ => rfl) ?_ ?_ run).2
  · intro key
    refine ⟨0, rfl, ?_, Nat.zero_le _⟩
    have idle : (capacityCertified limits).crew (noInvocations limits) = fun _ => none := rfl
    rw [idle, holders_none]
    simp
  · intro t a u all counted outlive stepped
    have happened := Certified.happened all stepped
    have outlives (ms : Nat) (same : a = .tick ms) (key : InFlightKey) :
        t.store.Expires ms key → Holders (fun q => q.2.counts key)
          ((capacityCertified limits).crew t) = ∅ := outlive ms same key
    generalize (capacityCertified limits).crew u = crew at happened ⊢
    generalize u.store = store at happened ⊢
    cases happened with
    | launch free started =>
      obtain rfl := Option.some.inj started
      intro key
      obtain ⟨n, value, bound, within⟩ := counted key
      refine ⟨n, value, holders_stay bound ?_, within⟩
      intro r same
      obtain rfl := Option.some.inj same
      exact id
    | call here issues permitted performed => exact counted_step counted here permitted performed
    | loop => exact counted
    | finish here ended =>
      intro key
      obtain ⟨n, value, bound, within⟩ := counted key
      refine ⟨n, value, holders_stay bound ?_, within⟩
      intro r same
      cases same
    | tick ticked =>
      obtain rfl := Option.some.inj ticked
      intro key
      exact (counted key).advance (outlives _ rfl key)

/-- While no counter expires under its holders, capacity is never exceeded. -/
theorem capacity_kept {s : (capacityBrains limits).State}
    (run : System.Steps (CountersOutlive limits) (noInvocations limits) s) :
    WithinCapacity limits s := by
  have counted := counted_run run
  refine ⟨fun executorId => ?_, fun organizationId => ?_, fun key counter found => ?_⟩
  · obtain ⟨n, -, bound, within⟩ := counted (.executor executorId)
    exact bound.trans (by exact_mod_cast within)
  · obtain ⟨n, -, bound, within⟩ := counted (.organization organizationId)
    exact bound.trans (by exact_mod_cast within)
  · obtain ⟨n, value, -, -⟩ := counted key
    have same : s.store.get key = counter.value := by simp [Counters.get, found]
    omega

/-! ### A counter that expires under its holder -/

namespace Sample

def capacity : CapacityLimits := { executorMaxInFlight := fun _ => 1, orgMaxInFlight := fun _ => 5 }

def route : ExecutorRoute :=
  { edgeId := "edge", executorId := "node", pool := .byon, organizationId := some "org"
    labels := none, maxInFlight := some 1, kinds := some [.agentExecute, .agentRun], oauthVerified := [] }

/-- An answer to every question that keeps an invocation going. -/
def answers : (op : BrainOp) → op.Reply
  | .getOrgMaxInFlight _ => (5 : Nat)
  | .listExecutorRoutes .. => [route]
  | .getInFlight _ | .getExecutorLastUsedMs _ | .executorInvoke .. => (0 : Nat)
  | .reserveCapacity _ => ReserveCapacityResult.ok
  | .decr _ => true
  | .getExecutionWorkspaceByOwner .. => (none : Option WorkspaceRow)
  | .createExecutionWorkspace .. =>
    { id := "ws", currentVersion := 0, currentObjectKey := "", currentEtag := none }
  | .tryLockExecutionWorkspace .. => true
  | .waitForToolReply .. => (none : Option ToolReply)
  | .commitExecutionWorkspaceVersion .. => true
  | .setSessionBrain .. => true
  | .getAgentSessionById .. | .setAgentSessionPinnedAgent .. => (none : Option AgentSession)
  | .waitForOpened .. => (none : Option OpenedReply)
  | .waitForTurnReply .. => (none : Option TurnReply)
  | .getActiveTurn .. => (none : Option ActiveSessionTurn)
  | .xreadGroup _ => ([] : List EdgeToBrainRequest)
  | .markExecutorUsed _ | .releaseExecutionWorkspaceLock ..
  | .delSessionBrain _ | .appendAgentSessionEvent .. | .executorSession .. | .setActiveTurn ..
  | .deleteActiveTurn .. | .handleOther => ()

def env : BrainEnv :=
  { brainId := "brain", reserveTtlMs := 300000, executorReplyGraceMs := 5000
    sessionOpenTimeoutMs := 20000, s3Configured := true }

def call : ToolCall :=
  { organizationId := "org"
    selector := some
      { pool := .byon, labels := none, group := none, tag := none, executorId := some "node" }
    kind := .agentExecute, oauthRequiredEngine := none, payload := "", timeoutMs := 600000
    workspaceOwner := { ownerType := "workflow_run", ownerId := "run" }, requestId := none
    lockBytes := "lock", requestBytes := "request" }

/-- Start a call and let it go as far as its reservation. -/
def reserve (id : Nat) : List (capacityBrains capacity).Action :=
  .launch id (.tool env call) :: List.replicate 3 (.call id answers)

def noTime : (capacityBrains capacity).State → (capacityBrains capacity).Action → Prop
  | _, .tick _ => False
  | _, _ => True

instance (s : (capacityBrains capacity).State) (a : (capacityBrains capacity).Action) :
    Decidable (noTime s a) := by
  cases a <;> unfold noTime <;> infer_instance

/-- The reservations of the first two invocations after `actions`. -/
def reservations (C : (capacityBrains capacity).State → (capacityBrains capacity).Action → Prop)
    [∀ s a, Decidable (C s a)] (actions : List (capacityBrains capacity).Action) :
    Option (Option Reservation × Option Reservation) :=
  (System.exec C (noInvocations capacity) actions).map fun s =>
    (((capacityCertified capacity).crew s 0).map (·.2), ((capacityCertified capacity).crew s 1).map (·.2))

end Sample

theorem capacity_kept_refused : ∃ s : (capacityBrains Sample.capacity).State,
    ((capacityCertified Sample.capacity).crew s 0).map (·.2) = some (.both "node" "org") ∧
      ((capacityCertified Sample.capacity).crew s 1).map (·.2) = some .free ∧
      WithinCapacity Sample.capacity s := by
  have ran : Sample.reservations Sample.noTime (Sample.reserve 0 ++ Sample.reserve 1) =
      some (some (.both "node" "org"), some .free) := by decide +kernel
  obtain ⟨s, run, same⟩ := Option.map_eq_some_iff.mp ran
  obtain ⟨first, second⟩ := Prod.mk.inj same
  refine ⟨s, first, second, capacity_kept ((System.steps_of_exec run).mono ?_)⟩
  intro t a still ms same
  subst same
  exact still.elim

/-- Past the time to live of its counter, an executor with room for one holds two. -/
theorem capacity_exceeded : ¬∀ (limits : CapacityLimits) (s : (capacityBrains limits).State),
    System.Steps (fun _ _ => True) (noInvocations limits) s → WithinCapacity limits s := by
  intro claim
  have ran : Sample.reservations (fun _ _ => True)
      (Sample.reserve 0 ++ [.tick 300000] ++ Sample.reserve 1) =
      some (some (.both "node" "org"), some (.both "node" "org")) := by decide +kernel
  obtain ⟨s, run, same⟩ := Option.map_eq_some_iff.mp ran
  obtain ⟨first, second⟩ := Prod.mk.inj same
  have within := (claim Sample.capacity s (System.steps_of_exec run)).executors "node"
  have both : ({0, 1} : Set Nat) ⊆ holders Sample.capacity s (.executor "node") := by
    rintro id (rfl | rfl)
    · obtain ⟨q, here, held⟩ := Option.map_eq_some_iff.mp first
      exact ⟨q, here, by simp [held, Reservation.counts]⟩
    · obtain ⟨q, here, held⟩ := Option.map_eq_some_iff.mp second
      exact ⟨q, here, by simp [held, Reservation.counts]⟩
  have two := (Set.encard_le_encard both).trans within
  rw [Set.encard_pair (by decide)] at two
  exact absurd two (by decide)

end Vespid.Brain
