import Vespid.Edge.Sockets
import Vespid.Lib.Unwinding
import Mathlib.Data.List.Basic

/-!
# Executors kept apart

What the executors of one organization send to an edge must not be seen in the replies and
sessions of another. A message is trusted with the request it names; it keeps to itself as long
as that request was handed to its executor.
-/

namespace Vespid.Edge

open Interleaving Brain

/-! ### What a brain makes of a turn's events -/

inductive SessionStreamKind where
  | turnStarted
  | turnDelta
  | enginePhase
  | toolCall
  | toolResult
  | toolLog
  | turnFinished
  | turnCanceled
  deriving DecidableEq

def normalizeSessionStreamKind : String → SessionStreamKind
  | "turn_started" => .turnStarted
  | "turn_delta" => .turnDelta
  | "engine_phase" => .enginePhase
  | "tool_call" => .toolCall
  | "tool_result" => .toolResult
  | "tool_log" => .toolLog
  | "turn_finished" => .turnFinished
  | "turn_canceled" => .turnCanceled
  | _ => .toolLog

def SessionStreamKind.name : SessionStreamKind → String
  | turnStarted => "turn_started"
  | turnDelta => "turn_delta"
  | enginePhase => "engine_phase"
  | toolCall => "tool_call"
  | toolResult => "tool_result"
  | toolLog => "tool_log"
  | turnFinished => "turn_finished"
  | turnCanceled => "turn_canceled"

def normalizeEventLevel (level : String) : String :=
  if level = "warn" ∨ level = "error" then level else "info"

/-- What the clients of a session see, and what is appended to it (and then broadcast). -/
inductive SessionEffect where
  | stream (sessionId requestId : String) (streamSeq : Int) (kind : SessionStreamKind)
      (level : String) (text : Option String) (payload : Option Json) (createdAt : Int)
  | append (organizationId sessionId eventType level idempotencyKey : String)
      (action : Option String) (requestId : String) (event : RemoteExecutionEvent)

def SessionEffect.sessionId : SessionEffect → String
  | stream sessionId .. => sessionId
  | append _ sessionId .. => sessionId

def persistedType : SessionStreamKind → Option String
  | .toolCall => some "tool_call"
  | .toolResult => some "tool_result"
  | .turnCanceled => some "system"
  | _ => none

/-- A brain's handling of a report; it makes nothing of a tool's events. -/
def handleReport (sessionStreamV1Enabled : Bool) : ExecutorReport → List SessionEffect
  | .executorEvent .. => []
  | .sessionTurnEvent requestId organizationId sessionId event =>
    if !sessionStreamV1Enabled then []
    else
      let kind := normalizeSessionStreamKind event.kind
      let level := normalizeEventLevel event.level
      .stream sessionId requestId event.seq kind level event.message event.payload event.ts ::
        (persistedType kind).toList.map fun eventType =>
          .append organizationId sessionId eventType
            (if kind = .turnCanceled then "info" else level)
            ("stream:" ++ requestId ++ ":" ++ kind.name ++ ":" ++ toString event.seq)
            (if kind = .turnCanceled then some "session_turn_canceled" else none) requestId event

/-! ### Two organizations -/

/-- The executors of one organization, and the requests and sessions of another. -/
structure Tenants where
  foreign : String → Bool
  ours : String → Bool
  session : String → Bool

def Tenants.reports (T : Tenants) : ExecutorReport → Bool
  | .executorEvent .. => false
  | .sessionTurnEvent _ _ sessionId _ => T.session sessionId

/-- The message names a request that its executor was handed. -/
def ExecutorMessage.Owned (st : EdgeStore) (executorId : String) : ExecutorMessage → Prop
  | executorHello _ | toolEvent .. => True
  | toolResult result => (result.requestId, executorId) ∈ st.dispatched
  | turnDelta requestId _ _ =>
    ∀ pending, st.pendingSessionTurn requestId = some pending → pending.executorId = executorId
  | turnEvent requestId organizationId sessionId _ =>
    st.pendingSessionTurn requestId = some { organizationId, sessionId, executorId }
  | sessionOpened requestId _ | turnFinal requestId _ _ _ | turnError requestId _ _ _
  | memorySyncResult requestId _ _ _ | memoryQueryResult requestId _ _ _ _ =>
    (requestId, executorId) ∈ st.dispatched

/-- A request belongs to its session, and the others' requests go to their executors. -/
def Tenants.Separates (T : Tenants) (executorId : String) (command : ExecutorCommand) : Prop :=
  (T.foreign executorId = true → T.ours command.requestId = false) ∧
    match command with
    | .executorInvoke _ => True
    | .executorSession payload => T.session payload.sessionId = T.ours payload.requestId

variable {enabled : Bool}

def KeepsApart (T : Tenants) (s : (edgeSystem enabled).State) : (edgeSystem enabled).Action → Prop
  | .launch _ (.message _ _ executor msg) =>
    T.foreign executor.executorId = true → msg.Owned s.store executor.executorId
  | .launch _ (.command executorId command) => T.Separates executorId command
  | _ => True

def EdgeStore.Owns (st : EdgeStore) (ws : Nat) (executorId : String) : Prop :=
  ∃ socket, st.sockets[ws]? = some socket ∧ socket.executor.executorId = executorId

def Tenants.Hidden (T : Tenants) : EdgeLaunch → Prop
  | .connect .. => False
  | .message _ _ executor _ | .close _ executor => T.foreign executor.executorId = true
  | .command executorId _ => T.foreign executorId = true

/-- What a handler relies on once it has started. -/
def Tenants.Fine (T : Tenants) (st : EdgeStore) : EdgeLaunch → Prop
  | .connect executor ws => st.Owns ws executor.executorId
  | .message _ ws executor msg => st.Owns ws executor.executorId ∧
      (T.foreign executor.executorId = true → ∀ result, msg = .toolResult result →
        (result.requestId, executor.executorId) ∈ st.dispatched)
  | .close .. => True
  | .command executorId command => T.Separates executorId command

def EdgeLaunch.Issues : EdgeLaunch → EdgeOp → Prop
  | connect _ ws, op => op = .writeExecutorRoute ws
  | message _ ws _ msg, op => op = .writeExecutorRoute ws ∨
      ∃ result, msg = .toolResult result ∧
        (op = .setReply result.requestId result.reply ∨ op = .dropPendingTool result.requestId)
  | close .., _ => False
  | command executorId cmd, op => op = .sendCommand executorId cmd ∨
      op = .setReply cmd.requestId cmd.refusal ∨ op = .deleteRoute executorId ∨ op = .refuse cmd

/-- Of the launches, connections are seen by all. -/
def apart (T : Tenants) (enabled : Bool) : Hiding (edgeSystem enabled) where
  hidden := T.Hidden
  hiddenTick t st := match t with
    | .beginClose ws => ∃ executorId, st.Owns ws executorId ∧ T.foreign executorId = true
    | _ => False
  fine l st := T.Fine st l
  allowed := EdgeLaunch.Issues

/-! ### What is seen -/

section mask
variable {β : Type} {p : String → Bool} {f g : String → Option β} {k : String} {v : Option β}

def mask (p : String → Bool) (f : String → Option β) : String → Option β :=
  fun k => if p k then f k else none

theorem mask_update (same : mask p f = mask p g) :
    mask p (Function.update f k v) = mask p (Function.update g k v) := by
  funext i
  have at_i := congrFun same i
  by_cases here : i = k
  · subst here
    simp [mask]
  · simpa [mask, Function.update_of_ne here] using at_i

theorem mask_update_hidden (hidden : p k = false) :
    mask p (Function.update f k v) = mask p f := by
  funext i
  by_cases here : i = k
  · subst here
    simp [mask, hidden]
  · simp [mask, Function.update_of_ne here]

theorem mask_apply (same : mask p f = mask p g) (seen : p k = true) : f k = g k := by
  simpa [mask, seen] using congrFun same k

end mask

section shown
variable {T : Tenants} {l l' : List Socket} {i : Nat} {f f' : Socket → Socket}

def Tenants.look (T : Tenants) (socket : Socket) : Option Socket :=
  if T.foreign socket.executor.executorId then none else some socket

theorem look_getElem (same : l.map T.look = l'.map T.look) {socket : Socket}
    (here : l[i]? = some socket) (own : T.foreign socket.executor.executorId = false) :
    l'[i]? = some socket := by
  have at_i := congrArg (·[i]?) same
  simp only [List.getElem?_map, here, Option.map_some, Tenants.look, own] at at_i
  cases there : l'[i]? with
  | none => simp [there] at at_i
  | some socket' =>
    rw [there, Option.map_some] at at_i
    by_cases hidden : T.foreign socket'.executor.executorId = true
    · simp [Tenants.look, hidden] at at_i
    · simpa [Tenants.look, hidden] using at_i.symm

theorem look_modify (same : l.map T.look = l'.map T.look)
    (keeps : ∀ socket, l[i]? = some socket →
      (f socket).executor.executorId = socket.executor.executorId)
    (keeps' : ∀ socket, l'[i]? = some socket →
      (f socket).executor.executorId = socket.executor.executorId) :
    (l.modify i f).map T.look = (l'.modify i f).map T.look := by
  refine List.ext_getElem? fun j => ?_
  have at_j := congrArg (·[j]?) same
  simp only [List.getElem?_map] at at_j
  simp only [List.getElem?_map, List.getElem?_modify]
  by_cases here : i = j
  · subst here
    cases one : l[i]? with
    | none =>
      rw [one] at at_j
      cases other : l'[i]? with
      | none => rfl
      | some socket' => simp [other] at at_j
    | some socket =>
      cases other : l'[i]? with
      | none => simp [one, other] at at_j
      | some socket' =>
        rw [one, other] at at_j
        simp only [Option.map_some, Option.some.injEq, Tenants.look] at at_j
        simp only [Option.map_some, Option.some.injEq, Tenants.look, keeps socket one,
          keeps' socket' other, if_true, Option.map_eq_map]
        split at at_j <;> split at at_j <;> simp_all
  · simpa [here] using at_j

theorem look_modify_hidden
    (hidden : ∀ socket, l[i]? = some socket → T.foreign socket.executor.executorId = true ∧
      (f socket).executor.executorId = socket.executor.executorId) :
    (l.modify i f).map T.look = l.map T.look := by
  refine List.ext_getElem? fun j => ?_
  simp only [List.getElem?_map, List.getElem?_modify]
  by_cases here : i = j
  · subst here
    cases one : l[i]? with
    | none => rfl
    | some socket =>
      obtain ⟨foreign, keeps⟩ := hidden socket one
      simp [Tenants.look, keeps, foreign]
  · simp [here]

end shown

/-- What is not of the foreign executors. -/
structure EdgeView where
  sockets : List (Option Socket)
  executorsById : String → Option Nat
  pendingSessionTurn : String → Option PendingTurn
  routes : String → Option ExecutorRoute
  replies : String → Option Json
  toBrain : List ExecutorReport

def EdgeStore.view (T : Tenants) (st : EdgeStore) : EdgeView :=
  { sockets := st.sockets.map T.look
    executorsById := mask (!T.foreign ·) st.executorsById
    pendingSessionTurn := mask T.ours st.pendingSessionTurn
    routes := mask (!T.foreign ·) st.routes
    replies := mask T.ours st.replies
    toBrain := st.toBrain.filter T.reports }

/-- The tables name the sockets and sessions they stand for. -/
structure Sound (T : Tenants) (st : EdgeStore) : Prop where
  table : ∀ executorId ws, st.executorsById executorId = some ws → st.Owns ws executorId
  turns : ∀ requestId pending, st.pendingSessionTurn requestId = some pending →
    T.session pending.sessionId = T.ours requestId ∧
      (T.foreign pending.executorId = true → T.ours requestId = false)
  dispatched : ∀ requestId executorId, (requestId, executorId) ∈ st.dispatched →
    T.foreign executorId = true → T.ours requestId = false

/-- Two stores that look alike. -/
structure Low (T : Tenants) (st st' : EdgeStore) : Prop where
  sound : Sound T st
  sound' : Sound T st'
  view : st.view T = st'.view T

theorem Low.symm {T : Tenants} {st st' : EdgeStore} (low : Low T st st') : Low T st' st :=
  ⟨low.sound', low.sound, low.view.symm⟩

end Vespid.Edge
