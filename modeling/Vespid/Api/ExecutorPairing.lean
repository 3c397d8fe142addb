import Vespid.Api.OAuthProfile
import Vespid.Lib.Exclusive
import Vespid.Lib.Protocol

/-!
# Pairing an executor

A pair request looks at its token, marks it used in one transaction and inserts the executor in
another. A request that fails between the two leaves the token used.
-/

namespace Vespid.Api.ExecutorPairing

open Interleaving
open OAuth (AppError)

def pairingTokenInvalid (message : String) : AppError where
  statusCode := 401
  code := "PAIRING_TOKEN_INVALID"
  message := message

def pairingTokenExpired : AppError where
  statusCode := 400
  code := "PAIRING_TOKEN_EXPIRED"
  message := "Pairing token is expired"

/-- What the server answers when a statement fails. -/
def internalError : AppError where
  statusCode := 500
  code := "INTERNAL_ERROR"
  message := "Internal server error"

/-- A row of `executor_pairing_tokens`; times are in milliseconds. -/
structure PairingToken where
  expiresAt : Nat
  usedAt : Option Nat
  createdByUserId : String

/-- A row of `organization_executors`, by the token whose hash it holds. -/
structure Executor where
  name : String
  executorToken : Nat
  createdByUserId : String
  capabilities : Option Json

/-- A pair request for the token, with the executor token it draws. -/
structure PairRequest where
  name : String
  capabilities : Option Json
  executorToken : Nat

/-! ### Operations -/

inductive PairOp where
  | getExecutorPairingTokenByHash
  | dateNow
  /-- `BEGIN`, whose time is that of `now()` in the transaction. -/
  | begin
  /-- The guarded update of a transaction begun at that time. -/
  | consumeExecutorPairingToken (begun : Nat)
  | commitConsumed (consumed : Bool)
  | createOrganizationExecutor (executor : Executor)
  | commitCreated (executor : Executor)

/-- A reply is missing where the statement failed. -/
abbrev PairOp.Reply : PairOp → Type
  | getExecutorPairingTokenByHash => Option PairingToken
  | dateNow => Nat
  | begin => Option Nat
  | consumeExecutorPairingToken _ => Option Bool
  | commitConsumed _ => Bool
  | createOrganizationExecutor _ => Bool
  | commitCreated _ => Bool

abbrev PairOps : Interface where
  Op := PairOp
  Reply := PairOp.Reply

abbrev PairProgram := Program PairOps

abbrev ask (op : PairOp) : PairProgram op.Reply := Program.issue (I := PairOps) op

def consume : PairProgram (Option Bool) := do
  match ← ask .begin with
  | none => return none
  | some begun =>
    match ← ask (.consumeExecutorPairingToken begun) with
    | none => return none
    | some consumed =>
      let committed ← ask (.commitConsumed consumed)
      return if committed then some consumed else none

def create (executor : Executor) : PairProgram Bool := do
  match ← ask .begin with
  | none => return false
  | some _ =>
    match ← ask (.createOrganizationExecutor executor) with
    | false => return false
    | true => ask (.commitCreated executor)

/-- The executor token of the answer, or an error. -/
def pairExecutorHandler (request : PairRequest) : PairProgram (Except AppError Nat) := do
  match ← ask .getExecutorPairingTokenByHash with
  | none => return .error internalError
  | some existing =>
    if existing.usedAt.isSome then
      return .error (pairingTokenInvalid "Pairing token has already been used")
    else
      let now ← ask .dateNow
      if existing.expiresAt ≤ now then return .error pairingTokenExpired
      else
        match ← consume with
        | none => return .error internalError
        | some false => return .error (pairingTokenInvalid "Pairing token is invalid")
        | some true =>
          let created ← create
            { name := request.name, executorToken := request.executorToken
              createdByUserId := existing.createdByUserId, capabilities := request.capabilities }
          return if created then .ok request.executorToken else .error internalError

/-! ### One token -/

/-- The row as committed, the time that an uncommitted update of it writes, the executors with the
time of their commit, and the answers. -/
structure PairStore where
  token : PairingToken
  locked : Option Nat
  executors : List (Executor × Nat)
  answers : List (Except AppError Nat)
  now : Nat

/-- What becomes of a statement. The answer to a commit that took effect can be lost. -/
inductive Outcome where
  | done | failed | lost
  deriving DecidableEq

def PairStore.use (st : PairStore) : PairStore :=
  { st with token := { st.token with usedAt := st.locked }, locked := none }

def PairStore.insert (st : PairStore) (executor : Executor) : PairStore :=
  { st with executors := (executor, st.now) :: st.executors }

def performPair (st : PairStore) (outcome : Outcome) : (op : PairOp) → Option (op.Reply × PairStore)
  | .getExecutorPairingTokenByHash => some (if outcome = .done then some st.token else none, st)
  | .dateNow => some (st.now, st)
  | .begin => some (if outcome = .done then some st.now else none, st)
  | .consumeExecutorPairingToken begun =>
    if st.locked.isSome then none
    else if outcome ≠ .done then some (none, st)
    else if st.token.usedAt.isNone ∧ begun < st.token.expiresAt then
      some (some true, { st with locked := some st.now })
    else some (some false, st)
  | .commitConsumed consumed =>
    if consumed then
      match outcome with
      | .done => some (true, st.use)
      | .failed => some (false, { st with locked := none })
      | .lost => some (false, st.use)
    else some (outcome = .done, st)
  | .createOrganizationExecutor _ => some (outcome = .done, st)
  | .commitCreated executor =>
    match outcome with
    | .done => some (true, st.insert executor)
    | .failed => some (false, st)
    | .lost => some (false, st.insert executor)

/-- Any number of pair requests for one token. -/
abbrev pairSystem : System PairOps where
  Store := PairStore
  Launch := PairRequest
  Loop := Empty
  Outcome := Except AppError Nat
  Choice := Outcome
  Tick := Nat
  perform op st outcome := performPair st outcome op
  launch _ st := some st
  entry request := .inr <$> pairExecutorHandler request
  body _ loop := nomatch loop
  finish _ answer st := { st with answers := answer :: st.answers }
  tick milliseconds st := some { st with now := st.now + milliseconds }

/-- A token that was just created. -/
def unused (expiresAt now : Nat) (createdByUserId : String) : pairSystem.State where
  store :=
    { token := { expiresAt, usedAt := none, createdByUserId }, locked := none, executors := []
      answers := [], now }
  process _ := none

/-! ### The claim and its condition -/

/-- At most one executor is created, and before the token expires; while no request is running the
token is used exactly if one was created and its token was returned. -/
structure PairedOnce (s : pairSystem.State) : Prop where
  once : s.store.executors.length ≤ 1
  inTime : ∀ e ∈ s.store.executors, e.2 < s.store.token.expiresAt
  used : (∀ id, s.process id = none) → (s.store.token.usedAt.isSome = true ↔
    ∃ e ∈ s.store.executors, .ok e.1.executorToken ∈ s.store.answers)

/-- How far a request is with the token. -/
inductive Stage where
  | before | updated | consumed | created (executorToken : Nat) | failed
  deriving DecidableEq

def pairProtocol : Protocol PairOps Stage where
  permits stage op := match op with
    | .getExecutorPairingTokenByHash | .dateNow => stage = .before
    | .begin => stage = .before ∨ stage = .consumed
    | .consumeExecutorPairingToken _ => stage = .before
    | .commitConsumed consumed => stage = if consumed then .updated else .before
    | .createOrganizationExecutor _ | .commitCreated _ => stage = .consumed
  expects _ _ := True
  observe stage op reply := match op, reply with
    | .begin, none => if stage = .consumed then .failed else stage
    | .consumeExecutorPairingToken _, some true => .updated
    | .commitConsumed true, committed => if committed then .consumed else .before
    | .createOrganizationExecutor _, false => .failed
    | .commitCreated executor, committed =>
      if committed then .created executor.executorToken else .failed
    | _, _ => stage

/-- Where a request stands when it answers. -/
def Answered (answer : Except AppError Nat) (stage : Stage) : Prop :=
  match answer with
  | .ok token => stage = .created token
  | .error _ => stage = .before ∨ stage = .failed

theorem consume_follows : consume.wp pairProtocol (fun consumed stage =>
    stage = if consumed = some true then .consumed else .before) .before := by
  refine ⟨.inl rfl, fun begun _ => ?_⟩
  cases begun with
  | none => rfl
  | some begun =>
    refine ⟨rfl, fun found _ => ?_⟩
    match found with
    | none => rfl
    | some false => exact ⟨rfl, fun committed _ => by cases committed <;> rfl⟩
    | some true => exact ⟨rfl, fun committed _ => by cases committed <;> rfl⟩

theorem create_follows (executor : Executor) : (create executor).wp pairProtocol
    (fun created stage =>
      stage = if created then .created executor.executorToken else .failed) .consumed := by
  refine ⟨.inr rfl, fun begun _ => ?_⟩
  cases begun with
  | none => rfl
  | some begun =>
    refine ⟨rfl, fun inserted _ => ?_⟩
    cases inserted with
    | false => rfl
    | true => exact ⟨rfl, fun committed _ => by cases committed <;> rfl⟩

theorem pairExecutorHandler_follows (request : PairRequest) :
    (pairExecutorHandler request).wp pairProtocol Answered .before := by
  refine ⟨rfl, fun existing _ => ?_⟩
  cases existing with
  | none => exact .inl rfl
  | some existing =>
    show Program.wp pairProtocol Answered (if existing.usedAt.isSome then _ else _) .before
    split
    · exact .inl rfl
    · refine ⟨rfl, fun now _ => ?_⟩
      show Program.wp pairProtocol Answered (if existing.expiresAt ≤ now then _ else _) .before
      split
      · exact .inl rfl
      · refine Program.wp_seq consume_follows fun consumed stage is => ?_
        match consumed with
        | none => exact .inl is
        | some false => exact .inl is
        | some true =>
          rw [show stage = .consumed from is]
          refine Program.wp_seq (create_follows _) fun created stage is => ?_
          cases created with
          | false => exact .inr is
          | true => exact is

def pairCertified : Certified pairSystem pairProtocol where
  start _ := .before
  looping _ loop _ := nomatch loop
  ended _ := Answered
  entry_follows request := Program.wp_seq (pairExecutorHandler_follows request) fun _ _ ended => ended
  body_follows _ loop := nomatch loop
  replies _ _ _ _ _ _ := trivial

/-- The commit that marks the token used is answered; every statement after it succeeds, and the
executor is committed before the token expires. -/
def Smooth (s : pairSystem.State) (a : pairSystem.Action) : Prop :=
  match a, pairCertified.issued s a with
  | .call _ outcome, some (stage, op) => (stage = .updated → outcome ≠ .lost) ∧
      (stage = .consumed → outcome = .done) ∧
      match op with
      | .commitCreated _ => s.store.now < s.store.token.expiresAt
      | _ => True
  | _, _ => True

instance (s : pairSystem.State) (a : pairSystem.Action) : Decidable (Smooth s a) := by
  unfold Smooth
  split
  · next stage op _ => cases op <;> infer_instance
  · infer_instance

/-! ### The request that holds the token -/

/-- What is true of the store while one request has the token. -/
def Holds (st : PairStore) : Stage → Prop
  | .updated => st.locked.isSome = true ∧ st.token.usedAt = none ∧ st.executors = []
  | .consumed => st.locked = none ∧ st.token.usedAt.isSome = true ∧ st.executors = []
  | .created token => st.locked = none ∧ st.token.usedAt.isSome = true ∧
      ∃ e, st.executors = [e] ∧ e.1.executorToken = token
  | _ => False

/-- What is true while no request has it. -/
def Free (st : PairStore) : Prop :=
  st.locked = none ∧ ((st.token.usedAt = none ∧ st.executors = []) ∨
    (st.token.usedAt.isSome = true ∧
      ∃ e, st.executors = [e] ∧ .ok e.1.executorToken ∈ st.answers))

structure PairInv (st : PairStore) (crew : Nat → Option (PairRequest × Stage)) : Prop where
  inTime : ∀ e ∈ st.executors, e.2 < st.token.expiresAt
  whole : ∀ i q, crew i = some q → q.2 ≠ .failed
  token : Exclusive (fun q => q.2 ≠ .before) (fun q => Holds st q.2) (Free st) crew

section steps
variable {st st' : PairStore} {crew : Nat → Option (PairRequest × Stage)} {id : Nat}
  {l : PairRequest} {stage : Stage}

theorem nobody_of_unused (inv : PairInv st crew) (free : st.locked = none)
    (unused : st.token.usedAt = none) :
    NoneHolds (fun q : PairRequest × Stage => q.2 ≠ .before) crew := by
  intro i q there holds
  have hand := inv.token.held i q there holds
  obtain ⟨l, stage⟩ := q
  cases stage with
  | before => exact holds rfl
  | updated => simp [Holds, free] at hand
  | consumed => simp [Holds, unused] at hand
  | created token => simp [Holds, unused] at hand
  | failed => exact hand

/-- A request that does not have the token changes nothing, or comes or goes. -/
theorem pairInv_stand (inv : PairInv st crew) (idle : ∀ q, crew id = some q → q.2 = .before)
    {new : Option (PairRequest × Stage)} (still : ∀ q, new = some q → q.2 = .before)
    {answers : List (Except AppError Nat)} (more : ∀ a ∈ st.answers, a ∈ answers) {now : Nat} :
    PairInv { st with answers, now } (Function.update crew id new) where
  inTime := inv.inTime
  whole i q there := by
    obtain ⟨-, same⟩ | ⟨-, there⟩ := update_cases there
    · rw [still q same]
      exact Stage.noConfusion
    · exact inv.whole i q there
  token := by
    refine inv.token.stand (fun q there holds => holds (idle q there))
      (fun q there holds => holds (still q there)) (fun q hand => ?_) fun _ free => ?_
    · exact hand
    · obtain ⟨unlocked, unused | ⟨used, e, only, answered⟩⟩ := free
      · exact ⟨unlocked, .inl unused⟩
      · exact ⟨unlocked, .inr ⟨used, e, only, more _ answered⟩⟩

/-- The request that has the token goes on to another stage. -/
theorem pairInv_pass (inv : PairInv st crew) (here : crew id = some (l, stage))
    (had : stage ≠ .before) {next : Stage} (has : next ≠ .before) (whole : next ≠ .failed)
    (inTime : ∀ e ∈ st'.executors, e.2 < st'.token.expiresAt) (hand : Holds st' next) :
    PairInv st' (Function.update crew id (some (l, next))) where
  inTime := inTime
  whole i q there := by
    obtain ⟨-, same⟩ | ⟨-, there⟩ := update_cases there
    · rw [← Option.some.inj same]
      exact whole
    · exact inv.whole i q there
  token := inv.token.pass here had has hand

/-- The request that has the token gives it back or ends. -/
theorem pairInv_release (inv : PairInv st crew) (here : crew id = some (l, stage))
    (had : stage ≠ .before) {new : Option (PairRequest × Stage)}
    (lets : ∀ q, new = some q → q.2 = .before)
    (inTime : ∀ e ∈ st'.executors, e.2 < st'.token.expiresAt) (free : Free st') :
    PairInv st' (Function.update crew id new) where
  inTime := inTime
  whole i q there := by
    obtain ⟨-, same⟩ | ⟨-, there⟩ := update_cases there
    · rw [lets q same]
      exact Stage.noConfusion
    · exact inv.whole i q there
  token := inv.token.release here had (fun q there holds => holds (lets q there)) free

theorem pairInv_consume (inv : PairInv st crew) (here : crew id = some (l, stage)) {begun : Nat}
    {outcome : Outcome} {reply : Option Bool}
    (performed : performPair st outcome (.consumeExecutorPairingToken begun) = some (reply, st')) :
    PairInv st' (Function.update crew id
      (some (l, pairProtocol.observe stage (.consumeExecutorPairingToken begun) reply))) := by
  have same : Function.update crew id (some (l, stage)) = crew :=
    Function.update_eq_self_iff.mpr here.symm
  simp only [performPair] at performed
  split at performed
  · cases performed
  · next unlocked =>
    split at performed
    · cases performed
      show PairInv st (Function.update crew id (some (l, stage)))
      rwa [same]
    · split at performed
      · next guard =>
        cases performed
        have unused : st.token.usedAt = none := Option.isNone_iff_eq_none.mp guard.1
        have free : st.locked = none := by simpa using unlocked
        have nobody := nobody_of_unused inv free unused
        have none_ : st.executors = [] := by
          obtain ⟨-, ⟨-, none_⟩ | ⟨used, -⟩⟩ := inv.token.unheld nobody
          · exact none_
          · rw [unused] at used
            cases used
        refine ⟨inv.inTime, fun i q there => ?_, .take nobody Stage.noConfusion
          ⟨rfl, unused, none_⟩⟩
        obtain ⟨-, same⟩ | ⟨-, there⟩ := update_cases there
        · rw [← Option.some.inj same]
          exact Stage.noConfusion
        · exact inv.whole i q there
      · cases performed
        show PairInv st (Function.update crew id (some (l, stage)))
        rwa [same]

theorem pairInv_call (inv : PairInv st crew) (here : crew id = some (l, stage)) {op : PairOp}
    {outcome : Outcome} {reply : op.Reply} (permitted : pairProtocol.permits stage op)
    (performed : performPair st outcome op = some (reply, st'))
    (kept : stage = .updated → outcome ≠ .lost) (succeeds : stage = .consumed → outcome = .done)
    (inTime : ∀ e, op = .commitCreated e → st.now < st.token.expiresAt) :
    PairInv st' (Function.update crew id (some (l, pairProtocol.observe stage op reply))) := by
  have same : Function.update crew id (some (l, stage)) = crew :=
    Function.update_eq_self_iff.mpr here.symm
  have unchanged : PairInv st (Function.update crew id (some (l, stage))) := by rwa [same]
  cases op with
  | getExecutorPairingTokenByHash =>
    cases performed
    exact unchanged
  | dateNow =>
    cases performed
    exact unchanged
  | begin =>
    cases performed
    obtain rfl | rfl := permitted
    · cases outcome <;> exact unchanged
    · rw [succeeds rfl]
      exact unchanged
  | consumeExecutorPairingToken begun => exact pairInv_consume inv here performed
  | commitConsumed consumed =>
    cases consumed with
    | false =>
      cases performed
      exact unchanged
    | true =>
      obtain rfl : stage = .updated := permitted
      have had : Stage.updated ≠ .before := Stage.noConfusion
      obtain ⟨locked, unused, none_⟩ := inv.token.held id _ here had
      cases outcome with
      | done =>
        cases performed
        exact pairInv_pass inv here had Stage.noConfusion Stage.noConfusion inv.inTime
          ⟨rfl, locked, none_⟩
      | failed =>
        cases performed
        refine pairInv_release inv here had ?_ inv.inTime ⟨rfl, .inl ⟨unused, none_⟩⟩
        intro q is
        rw [← Option.some.inj is]
        rfl
      | lost => exact absurd rfl (kept rfl)
  | createOrganizationExecutor executor =>
    obtain rfl : stage = .consumed := permitted
    cases performed
    rw [succeeds rfl]
    exact unchanged
  | commitCreated executor =>
    obtain rfl : stage = .consumed := permitted
    have had : Stage.consumed ≠ .before := Stage.noConfusion
    obtain ⟨unlocked, used, none_⟩ := inv.token.held id _ here had
    rw [succeeds rfl] at performed
    cases performed
    have only : (st.insert executor).executors = [(executor, st.now)] := by
      unfold PairStore.insert
      rw [none_]
    refine pairInv_pass inv here had Stage.noConfusion Stage.noConfusion (fun e mem => ?_)
      ⟨unlocked, used, _, only, rfl⟩
    rw [only] at mem
    rw [List.mem_singleton.mp mem]
    exact inTime executor rfl

theorem pairInv_finish (inv : PairInv st crew) (here : crew id = some (l, stage))
    {answer : Except AppError Nat} (ended : Answered answer stage) :
    PairInv { st with answers := answer :: st.answers } (Function.update crew id none) := by
  have more : ∀ a ∈ st.answers, a ∈ answer :: st.answers := fun a => List.mem_cons_of_mem _
  cases answer with
  | error error =>
    obtain rfl | rfl := ended
    · refine pairInv_stand inv (fun q there => ?_) (fun q is => by cases is) more
      rw [here] at there
      rw [← Option.some.inj there]
    · exact absurd rfl (inv.whole id _ here)
  | ok token =>
    obtain rfl : stage = .created token := ended
    have had : Stage.created token ≠ .before := Stage.noConfusion
    obtain ⟨unlocked, used, e, only, rfl⟩ := inv.token.held id _ here had
    exact pairInv_release inv here had (fun q is => by cases is) inv.inTime
      ⟨unlocked, .inr ⟨used, e, only, List.mem_cons_self⟩⟩

end steps

theorem pairInv_unused (expiresAt now : Nat) (user : String) :
    PairInv (unused expiresAt now user).store fun _ => none where
  inTime e mem := by cases mem
  whole i q there := by cases there
  token := ⟨fun _ _ here => (by cases here), fun _ _ _ _ here => (by cases here),
    fun _ => ⟨rfl, .inl ⟨rfl, rfl⟩⟩⟩

theorem pairInv_step {s t : pairSystem.State} {a : pairSystem.Action}
    (all : pairCertified.AllFollow s) (inv : PairInv s.store (pairCertified.crew s))
    (smooth : Smooth s a) (stepped : System.Stepped s a t) :
    PairInv t.store (pairCertified.crew t) := by
  have happened := Certified.happened all stepped
  generalize pairCertified.crew t = crew at happened ⊢
  generalize t.store = store at happened ⊢
  cases happened with
  | launch free launched =>
    cases launched
    refine pairInv_stand inv (fun q there => ?_) (fun q is => ?_) fun a mem => mem
    · rw [free] at there
      cases there
    · rw [← Option.some.inj is]
      rfl
  | call here issues permitted performed =>
    unfold Smooth at smooth
    simp only [issues] at smooth
    refine pairInv_call inv here permitted performed smooth.1 smooth.2.1 fun e is => ?_
    subst is
    exact smooth.2.2
  | loop => exact inv
  | finish here ended => exact pairInv_finish inv here ended
  | tick ticked =>
    cases ticked
    exact ⟨inv.inTime, inv.whole, inv.token⟩

theorem pairedOnce_of_inv {s : pairSystem.State} (inv : PairInv s.store (pairCertified.crew s)) :
    PairedOnce s where
  once := by
    by_cases nobody : NoneHolds (fun q : PairRequest × Stage => q.2 ≠ .before) (pairCertified.crew s)
    · obtain ⟨-, ⟨-, none_⟩ | ⟨-, e, only, -⟩⟩ := inv.token.unheld nobody
      · simp [none_]
      · simp [only]
    · unfold NoneHolds at nobody
      push Not at nobody
      obtain ⟨i, ⟨l, stage⟩, there, had⟩ := nobody
      have hand := inv.token.held i _ there had
      cases stage with
      | before => exact absurd rfl had
      | updated => simp [hand.2.2]
      | consumed => simp [hand.2.2]
      | created token =>
        obtain ⟨-, -, e, only, -⟩ := hand
        simp [only]
      | failed => exact hand.elim
  inTime := inv.inTime
  used idle := by
    have nobody : NoneHolds (fun q : PairRequest × Stage => q.2 ≠ .before) (pairCertified.crew s) := by
      intro i q there
      simp [Certified.crew, idle i] at there
    obtain ⟨-, ⟨unused, none_⟩ | ⟨used, e, only, answered⟩⟩ := inv.token.unheld nobody
    · simp [unused, none_]
    · rw [used, only]
      exact ⟨fun _ => ⟨e, List.mem_singleton_self e, answered⟩, fun _ => rfl⟩

/-- A token is paired once in every run in which nothing fails once the token is used, and the
executor is committed in time. -/
theorem paired_once (expiresAt now : Nat) (user : String) {s : pairSystem.State}
    (run : System.Steps Smooth (unused expiresAt now user) s) : PairedOnce s := by
  have inv := (pairCertified.invariant
    (fun s => PairInv s.store (pairCertified.crew s)) (fun _ => rfl)
    (pairInv_unused expiresAt now user)
    (fun _ _ _ all inv smooth stepped => pairInv_step all inv smooth stepped) run).2
  exact pairedOnce_of_inv inv

/-! ### A token that is lost -/

def laptop : PairRequest where
  name := "laptop"
  capabilities := none
  executorToken := 0

/-- One request runs to its end. -/
def pairing (outcomes : List Outcome) : List pairSystem.Action :=
  .launch 0 laptop :: outcomes.map (fun outcome => (.call 0 outcome : pairSystem.Action)) ++
    [.finish 0]

theorem paired_once_laptop : ∃ s, System.Steps Smooth (unused 60000 0 "u") s ∧
    s.store.token.usedAt = some 0 ∧ PairedOnce s := by
  have ended : (System.exec Smooth (unused 60000 0 "u")
      (pairing [.done, .done, .done, .done, .done, .done, .done, .done])).map
        (fun s => s.store.token.usedAt) = some (some 0) := by decide +kernel
  obtain ⟨s, ran, used⟩ := Option.map_eq_some_iff.mp ended
  have steps := System.steps_of_exec ran
  exact ⟨s, steps, used, paired_once 60000 0 "u" steps⟩

/-- The insert fails after the token was marked used. -/
theorem token_burnt : ¬ ∀ (expiresAt now : Nat) (user : String) (s : pairSystem.State),
    System.Steps (fun _ _ => True) (unused expiresAt now user) s → PairedOnce s := by
  intro claim
  have ended : (System.exec (fun _ _ => True) (unused 60000 0 "u")
      (pairing [.done, .done, .done, .done, .done, .done, .failed])).map
        (fun s => (s.store.token.usedAt, s.store.executors.length, (s.process 0).isNone)) =
          some (some 0, 0, true) := by
    decide +kernel
  obtain ⟨s, ran, same⟩ := Option.map_eq_some_iff.mp ended
  obtain ⟨used, rest⟩ := Prod.mk.inj same
  obtain ⟨none_, gone⟩ := Prod.mk.inj rest
  have idle := System.idle_of_exec 1 (fun _ => rfl) (by decide) ran fun id small => by
    obtain rfl : id = 0 := by omega
    exact gone
  have paired := claim 60000 0 "u" s (System.steps_of_exec ran)
  obtain ⟨e, mem, -⟩ := (paired.used idle).mp (by rw [used]; rfl)
  rw [List.length_eq_zero_iff.mp none_] at mem
  cases mem

end Vespid.Api.ExecutorPairing
