import Mathlib.Logic.Function.Basic

/-!
# Sessions on an executor

The session map of a node agent. A session is a context object: opening a session again puts a
new one in its place, while a turn that is running goes on with the one it has begun with.
-/

namespace Vespid.NodeAgent

inductive Role where
  | system
  | user
  | assistant
  deriving DecidableEq

structure Message where
  role : Role
  content : String
  deriving DecidableEq

def Role.name : Role → String
  | system => "system"
  | user => "user"
  | assistant => "assistant"

def renderPromptFromMessages (messages : List Message) : String :=
  "\n\n".intercalate (messages.map fun m => s!"[{m.role.name}] {m.content}")

/-- A turn that is running, with the message it was started with. -/
structure RunningTurn where
  requestId : String
  message : Message
  deriving DecidableEq

structure SessionContext where
  sessionId : String
  maxTurns : Int
  history : List Message
  activeTurn : Option RunningTurn
  deriving DecidableEq

/-- What `session_open` says about a session. -/
structure SessionOpen where
  sessionId : String
  system : Option String
  instructions : String
  maxTurns : Int

structure SessionTurn where
  requestId : String
  sessionId : String
  message : String

/-- The contexts there have been, and which one each session has now. -/
structure NodeSessions where
  contexts : Nat → Option SessionContext
  opened : Nat
  sessions : String → Option Nat

namespace NodeSessions

def empty : NodeSessions := { contexts := fun _ => none, opened := 0, sessions := fun _ => none }

def current (node : NodeSessions) (sessionId : String) : Option SessionContext :=
  (node.sessions sessionId).bind node.contexts

def setContext (node : NodeSessions) (context : Nat) (ctx : SessionContext) : NodeSessions :=
  { node with contexts := Function.update node.contexts context (some ctx) }

end NodeSessions

def isUser (message : Message) : Bool := message.role = .user

/-- The history of a session that has just been opened. -/
def openingHistory (open_ : SessionOpen) : List Message :=
  ((open_.system.filter (· ≠ "")).toList.map fun system => { role := .system, content := system }) ++
    [{ role := .system, content := open_.instructions }]

def openSession (node : NodeSessions) (open_ : SessionOpen) : NodeSessions :=
  { contexts := Function.update node.contexts node.opened
      (some { sessionId := open_.sessionId, maxTurns := open_.maxTurns
              history := openingHistory open_, activeTurn := none })
    opened := node.opened + 1
    sessions := Function.update node.sessions open_.sessionId (some node.opened) }

structure TurnFailure where
  code : String
  message : String
  deriving DecidableEq

/-- The part of `runTurn` up to the engine: the context with the turn begun, whose history is
the prompt. -/
def beginTurn (ctx : SessionContext) (turn : SessionTurn) : Except TurnFailure SessionContext :=
  if ctx.activeTurn.isSome then
    .error { code := "TURN_IN_PROGRESS", message := "A turn is already running for this session." }
  else if ((ctx.history.filter isUser).length : Int) ≥ max 1 ctx.maxTurns then
    .error { code := "SESSION_LIMIT_REACHED", message := "Session maxTurns reached." }
  else
    let message : Message := { role := .user, content := turn.message }
    .ok { ctx with history := ctx.history ++ [message]
                   activeTurn := some { requestId := turn.requestId, message } }

/-- The part of `runTurn` after the engine. -/
def endTurn (ctx : SessionContext) : Except TurnFailure String → SessionContext
  | .ok content => { ctx with history := ctx.history ++ [{ role := .assistant, content }]
                              activeTurn := none }
  | .error _ => { ctx with activeTurn := none }

/-- What `runTurn` says where no turn is begun. -/
def runTurn (node : NodeSessions) (turn : SessionTurn) :
    Except TurnFailure (Nat × SessionContext) :=
  match node.sessions turn.sessionId with
  | none => .error
      { code := "SESSION_NOT_OPEN", message := "Session has not been opened on this executor." }
  | some context =>
    match node.contexts context with
    | none => .error
        { code := "SESSION_NOT_OPEN", message := "Session has not been opened on this executor." }
    | some ctx => (beginTurn ctx turn).map fun ctx => (context, ctx)

theorem beginTurn_ok {ctx ctx' : SessionContext} {turn : SessionTurn}
    (begun : beginTurn ctx turn = .ok ctx') : ctx.activeTurn = none ∧
      ((ctx.history.filter isUser).length : Int) < max 1 ctx.maxTurns ∧
      ctx' = { ctx with
        history := ctx.history ++ [{ role := .user, content := turn.message }]
        activeTurn := some
          { requestId := turn.requestId, message := { role := .user, content := turn.message } } } := by
  unfold beginTurn at begun
  split at begun
  · cases begun
  split at begun
  · cases begun
  · rename_i idle room
    refine ⟨by simpa using idle, by omega, (Except.ok.inj begun).symm⟩

theorem runTurn_ok {node : NodeSessions} {turn : SessionTurn} {context : Nat}
    {ctx' : SessionContext} (begun : runTurn node turn = .ok (context, ctx')) :
    ∃ ctx, node.sessions turn.sessionId = some context ∧ node.contexts context = some ctx ∧
      beginTurn ctx turn = .ok ctx' := by
  unfold runTurn at begun
  split at begun
  · cases begun
  · rename_i found
    split at begun
    · cases begun
    · rename_i ctx there
      cases started : beginTurn ctx turn with
      | error failure =>
        rw [started] at begun
        cases begun
      | ok ctx'' =>
        rw [started] at begun
        obtain ⟨rfl, rfl⟩ := Prod.mk.inj (Except.ok.inj begun)
        exact ⟨ctx, found, there, started⟩

end Vespid.NodeAgent
