import Mathlib.Algebra.Order.Field.Rat
import Vespid.Brain.Ops

/-!
# Selecting an executor

An executor is selected by reserving capacity on it: the one a selector names, or the first of
the least loaded ones that has room.
-/

namespace Vespid.Brain

open Interleaving

inductive SelectError where
  | noExecutorAvailable
  | executorOverCapacity
  | orgQuotaExceeded
  | executorOauthNotVerified
  deriving DecidableEq

structure SelectInput where
  organizationId : String
  kind : GatewayExecutionKind
  selector : Option ExecutorSelector
  oauthRequiredEngine : Option ExecutorOauthEngineId
  orgMaxInFlight : Nat
  reserveTtlMs : Nat

def matchesSelector (selector : Option ExecutorSelector) (route : ExecutorRoute) : Bool :=
  let labels := route.labels.getD []
  let selectorLabels := (selector.bind (·.labels)).getD [] ++ (selector.bind (·.tag)).toList
  selectorLabels.all (labels.contains ·) &&
    match selector.bind (·.group) with
    | none | some "" => true
    | some group => labels.contains group || labels.contains s!"group:{group}"

def isExecutorOauthVerified (route : ExecutorRoute) (engine : Option ExecutorOauthEngineId) : Bool :=
  engine.all (route.oauthVerified.contains ·)

def hasKind (route : ExecutorRoute) (kind : GatewayExecutionKind) : Bool :=
  (route.kinds.getD []).contains kind

def reserveOn (input : SelectInput) (route : ExecutorRoute) : ReserveInput :=
  { executorId := route.executorId
    organizationId := input.organizationId
    executorMaxInFlight := route.maxInFlight.getD 10
    orgMaxInFlight := input.orgMaxInFlight
    ttlMs := input.reserveTtlMs }

def selectedRoute (route : ExecutorRoute) : SelectedExecutor :=
  { executorId := route.executorId
    edgeId := route.edgeId
    maxInFlight := route.maxInFlight.getD 10
    pool := route.pool }

/-- The branch of a selector that names its executor. -/
def selectNamed (input : SelectInput) (pool : ExecutorPool) (routes : List ExecutorRoute)
    (executorId : String) : BrainProgram (Except SelectError SelectedExecutor) :=
  match routes.find? (·.executorId == executorId) with
  | none => return .error .noExecutorAvailable
  | some route =>
    if !hasKind route input.kind then return .error .noExecutorAvailable
    else if pool = .byon ∧ route.organizationId ≠ some input.organizationId then
      return .error .noExecutorAvailable
    else if !matchesSelector input.selector route then return .error .noExecutorAvailable
    else if !isExecutorOauthVerified route input.oauthRequiredEngine then
      return .error .executorOauthNotVerified
    else do
      let reserved : ReserveCapacityResult ← await (.reserveCapacity (reserveOn input route))
      match reserved with
      | .ok =>
        await (.markExecutorUsed route.executorId)
        return .ok (selectedRoute route)
      | .orgQuotaExceeded => return .error .orgQuotaExceeded
      | _ => return .error .executorOverCapacity

structure ScoredRoute where
  route : ExecutorRoute
  ratio : Rat
  lastUsedMs : Nat

def scoreRoutes : List ExecutorRoute → BrainProgram (List ScoredRoute)
  | [] => return []
  | route :: routes => do
    let inFlight : Nat ← await (.getInFlight route.executorId)
    let lastUsedMs : Nat ← await (.getExecutorLastUsedMs route.executorId)
    let maxInFlight := route.maxInFlight.getD 10
    let rest ← scoreRoutes routes
    let ratio : Rat := if maxInFlight > 0 then inFlight / maxInFlight else 1
    return { route, ratio, lastUsedMs } :: rest

/-- Least loaded first, and of equally loaded ones the least recently used. -/
def ScoredRoute.before (a b : ScoredRoute) : Bool :=
  if a.ratio ≠ b.ratio then a.ratio < b.ratio else a.lastUsedMs ≤ b.lastUsedMs

def reserveFirst (input : SelectInput) (sawExecutorOverCapacity sawOrgQuotaExceeded : Bool) :
    List ScoredRoute → BrainProgram (Except SelectError SelectedExecutor)
  | [] =>
    if sawOrgQuotaExceeded then return .error .orgQuotaExceeded
    else if sawExecutorOverCapacity then return .error .executorOverCapacity
    else return .error .noExecutorAvailable
  | entry :: rest => do
    let reserved : ReserveCapacityResult ← await (.reserveCapacity (reserveOn input entry.route))
    match reserved with
    | .ok =>
      await (.markExecutorUsed entry.route.executorId)
      return .ok (selectedRoute entry.route)
    | .orgQuotaExceeded => reserveFirst input sawExecutorOverCapacity true rest
    | .executorOverCapacity => reserveFirst input true sawOrgQuotaExceeded rest
    | .unknown => reserveFirst input sawExecutorOverCapacity sawOrgQuotaExceeded rest

def selectExecutorForTool (input : SelectInput) :
    BrainProgram (Except SelectError SelectedExecutor) := do
  let pool := (input.selector.map (·.pool)).getD .byon
  let listed := if pool = .byon then some input.organizationId else none
  let routes : List ExecutorRoute ← await (.listExecutorRoutes pool listed)
  match input.selector.bind (·.executorId) |>.filter (· ≠ "") with
  | some executorId => selectNamed input pool routes executorId
  | none =>
    let baseCandidates := routes.filter fun route =>
      (pool ≠ .byon || route.organizationId == some input.organizationId) &&
        hasKind route input.kind && matchesSelector input.selector route
    let candidates := baseCandidates.filter (isExecutorOauthVerified · input.oauthRequiredEngine)
    if baseCandidates ≠ [] ∧ candidates = [] then return .error .executorOauthNotVerified
    else if candidates = [] then return .error .noExecutorAvailable
    else do
      let scored ← scoreRoutes candidates
      reserveFirst input false false (scored.mergeSort ScoredRoute.before)

/-- A session looks in the managed pool only where its selector says so. -/
def resolveSessionPool (selector : Option ExecutorSelector) : ExecutorPool :=
  if selector.any (·.pool = .managed) then .managed else .byon

def selectSessionExecutor (input : SelectInput) :
    BrainProgram (Except SelectError SelectedExecutor) :=
  let pool := resolveSessionPool input.selector
  let selector : ExecutorSelector := match input.selector with
    | some selector => { selector with pool }
    | none => { pool, labels := none, group := none, tag := none, executorId := none }
  selectExecutorForTool { input with kind := .agentRun, selector := some selector }

/-- Each counter is decremented whether or not the other one was. -/
def releaseCapacity (executorId organizationId : String) : BrainProgram Unit := do
  let _ : Bool ← await (.decr (.executor executorId))
  let _ : Bool ← await (.decr (.organization organizationId))
  return ()

/-! ### What a selection issues -/

def selecting : BrainOp → Prop
  | .getOrgMaxInFlight _ | .listExecutorRoutes .. | .getInFlight _ | .getExecutorLastUsedMs _
  | .markExecutorUsed _ | .reserveCapacity _ => True
  | _ => False

theorem reserveFirst_selecting (input : SelectInput) (sawCapacity sawQuota : Bool)
    (scored : List ScoredRoute) :
    (reserveFirst input sawCapacity sawQuota scored).Only selecting := by
  induction scored generalizing sawCapacity sawQuota with
  | nil =>
    unfold reserveFirst
    split
    · trivial
    split <;> trivial
  | cons entry rest ih =>
    refine ⟨trivial, fun reserved => ?_⟩
    cases reserved with
    | ok => exact ⟨trivial, fun _ => trivial⟩
    | _ => exact ih _ _

theorem scoreRoutes_selecting (routes : List ExecutorRoute) :
    (scoreRoutes routes).Only selecting := by
  induction routes with
  | nil => trivial
  | cons route routes ih =>
    simp only [scoreRoutes, await, Program.issue_eq, Program.call_bind, Program.done_bind,
      Program.only_call]
    exact ⟨trivial, fun _ => ⟨trivial, fun _ => Program.only_bind ih fun _ => trivial⟩⟩

theorem selectNamed_selecting (input : SelectInput) (pool : ExecutorPool)
    (routes : List ExecutorRoute) (executorId : String) :
    (selectNamed input pool routes executorId).Only selecting := by
  unfold selectNamed
  split
  · trivial
  · split
    · trivial
    split
    · trivial
    split
    · trivial
    split
    · trivial
    refine ⟨trivial, fun reserved => ?_⟩
    cases reserved with
    | ok => exact ⟨trivial, fun _ => trivial⟩
    | _ => trivial

theorem selectExecutorForTool_selecting (input : SelectInput) :
    (selectExecutorForTool input).Only selecting := by
  simp only [selectExecutorForTool, await, Program.issue_eq, Program.call_bind, Program.done_bind,
    Program.only_call]
  refine ⟨trivial, fun routes => ?_⟩
  split
  · exact selectNamed_selecting _ _ _ _
  · split
    · trivial
    split
    · trivial
    exact Program.only_bind (scoreRoutes_selecting _) fun _ => reserveFirst_selecting _ _ _ _

end Vespid.Brain
