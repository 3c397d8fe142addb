import Vespid.Lib.Exclusive
import Vespid.Lib.Protocol

/-!
# Deliveries of one inbound webhook message

A delivery first asks Redis for the message's marker, which is kept for 24 hours, and routes the
message only when it gets it. Each operation may throw, with or without having taken effect.
-/

namespace Vespid.Channels

open Interleaving

/-- What the adapter and the settings of the account make of the message. -/
structure ChannelAccount where
  enabled : Bool
  authFailure : Option String
  signatureValid : Bool
  normalizes : Bool
  sessionBridgeEnabled : Bool
  defaultSessionId : Option String
  deriving DecidableEq

/-- `evaluateChannelSecurity` -/
structure ChannelSecurityDecision where
  accepted : Bool
  requiresPairing : Bool
  reason : String
  deriving DecidableEq

structure SessionRoute where
  sessionId : String
  userEventSeq : Nat
  deriving DecidableEq

structure RoutingState where
  accepted : Bool
  reason : String
  sessionRoute : Option SessionRoute
  workflowMatches : List String

structure ChannelWebhookResult where
  accepted : Bool
  reason : String
  sessionRouted : Bool
  workflowsTriggered : Nat

inductive WebhookOp where
  | findAccount
  /-- `redis.set(idempotencyKey, requestId, "EX", 24 * 60 * 60, "NX")` -/
  | acquireMarker
  | begin
  | listAllowlistEntries
  | createPairingRequest
  | createChannelMessage (status : String)
  | appendChannelEvent (eventType : String)
  | upsertChannelConversation (sessionId : Option String)
  | getAgentSessionById (sessionId : String)
  /-- `appendAgentSessionEvent` of the `user_message` -/
  | appendUserMessage (sessionId : String)
  | listWorkflows
  | commit
  | rollback
  | xaddSessionSend (route : SessionRoute)
  | postInternalTrigger (workflowId : String)
  deriving DecidableEq

abbrev WebhookOp.Answer : WebhookOp → Type
  | findAccount => Option ChannelAccount
  | acquireMarker => Bool
  | listAllowlistEntries => ChannelSecurityDecision
  | upsertChannelConversation _ => Option String
  | getAgentSessionById _ => Bool
  | appendUserMessage _ => Nat
  | listWorkflows => List String
  | _ => Unit

/-- An operation that throws has no answer. -/
abbrev WebhookOps : Interface where
  Op := WebhookOp
  Reply op := Option op.Answer

abbrev WebhookProgram := Program WebhookOps

/-- Go on with the answer of an operation; what it throws ends the function. -/
def attempt {α : Type} (op : WebhookOp) (next : op.Answer → WebhookProgram (Option α)) :
    WebhookProgram (Option α) :=
  .call (I := WebhookOps) op fun reply => reply.elim (.done none) next

/-- Go on with what a function returns; what it throws is thrown on. -/
def orThrow {α β : Type} (p : WebhookProgram (Option α)) (next : α → WebhookProgram (Option β)) :
    WebhookProgram (Option β) :=
  p.bind fun value => value.elim (.done none) next

/-! ### Routing -/

def routeToSession (account : ChannelAccount) (conversation : Option String) :
    WebhookProgram (Option (Option SessionRoute)) :=
  if !account.sessionBridgeEnabled then .done (some none)
  else match (conversation.or account.defaultSessionId).filter (· ≠ "") with
    | none => .done (some none)
    | some sessionId =>
      attempt (.getAgentSessionById sessionId) fun found =>
        if !found then .done (some none)
        else
          attempt (.appendUserMessage sessionId) fun userEventSeq =>
          attempt (.upsertChannelConversation (some sessionId)) fun _ =>
          .done (some (some { sessionId, userEventSeq }))

def dropMessage (decision : ChannelSecurityDecision) : WebhookProgram (Option RoutingState) :=
  attempt (.createChannelMessage "dropped") fun _ =>
  attempt (.appendChannelEvent "channel.message.dropped") fun _ =>
  .done (some { accepted := false, reason := decision.reason, sessionRoute := none
                workflowMatches := [] })

def acceptMessage (account : ChannelAccount) : WebhookProgram (Option RoutingState) :=
  attempt (.createChannelMessage "accepted") fun _ =>
  attempt (.upsertChannelConversation none) fun conversation =>
  orThrow (routeToSession account conversation) fun sessionRoute =>
  attempt .listWorkflows fun workflowMatches =>
  attempt (.appendChannelEvent "channel.message.accepted") fun _ =>
  .done (some { accepted := true, reason := "accepted", sessionRoute, workflowMatches })

/-- The callback of the routing transaction. -/
def routeMessage (account : ChannelAccount) : WebhookProgram (Option RoutingState) :=
  attempt .listAllowlistEntries fun decision =>
    if decision.accepted then acceptMessage account
    else if decision.requiresPairing then
      attempt .createPairingRequest fun _ => dropMessage decision
    else dropMessage decision

/-- `withTenantContext`: what is thrown is thrown on after a `ROLLBACK`. -/
def inTransaction {α : Type} (callback : WebhookProgram (Option α)) : WebhookProgram (Option α) :=
  let body := attempt .begin fun _ => orThrow callback fun value =>
    attempt .commit fun _ => .done (some value)
  body.bind fun result => match result with
    | some value => .done (some value)
    | none => .call (I := WebhookOps) .rollback fun _ => .done none

/-- Sent to the brains before the workflows are triggered. -/
def sendToSession (route : Option SessionRoute) : WebhookProgram (Option Unit) :=
  match route with
  | none => .done (some ())
  | some route => attempt (.xaddSessionSend route) fun _ => .done (some ())

/-- A trigger that fails is logged; the number that succeed is returned. -/
def triggerWorkflows : List String → WebhookProgram Nat
  | [] => .done 0
  | workflowId :: rest =>
    .call (I := WebhookOps) (.postInternalTrigger workflowId) fun reply =>
      (triggerWorkflows rest).bind fun successes =>
        .done (if reply.isSome then successes + 1 else successes)

def refused (reason : String) (accepted : Bool) : ChannelWebhookResult :=
  { accepted, reason, sessionRouted := false, workflowsTriggered := 0 }

/-- What is left once the routing transaction is committed. -/
def afterRouting (routing : RoutingState) : WebhookProgram (Option ChannelWebhookResult) :=
  if !routing.accepted then .done (some (refused routing.reason false))
  else
    orThrow (sendToSession routing.sessionRoute) fun _ =>
    (triggerWorkflows routing.workflowMatches).bind fun successes =>
    attempt (.appendChannelEvent "channel.workflow.triggered") fun _ =>
    .done (some { accepted := true, reason := "accepted"
                  sessionRouted := routing.sessionRoute.isSome, workflowsTriggered := successes })

def handleWebhook : WebhookProgram (Option ChannelWebhookResult) :=
  attempt .findAccount fun account => match account with
    | none => .done (some (refused "account_not_found" false))
    | some account =>
      if !account.enabled then .done (some (refused "account_disabled" false))
      else match account.authFailure with
        | some reason =>
          attempt (.appendChannelEvent "channel.signature.invalid") fun _ =>
            .done (some (refused reason false))
        | none =>
          if !account.signatureValid then
            attempt (.appendChannelEvent "channel.signature.invalid") fun _ =>
              .done (some (refused "signature_invalid" false))
          else if !account.normalizes then .done (some (refused "normalize_failed" false))
          else
            attempt .acquireMarker fun acquired =>
              if !acquired then .done (some (refused "duplicate_message" true))
              else orThrow (inTransaction (routeMessage account)) afterRouting

/-! ### Any number of deliveries -/

/-- What routing the message leaves behind. -/
inductive Effect where
  | userMessage
  | committed
  | sessionSend
  | trigger (workflowId : String)
  deriving DecidableEq

/-- The append commits its own transaction, and what is before it in the same one. -/
def WebhookOp.effect : WebhookOp → Option Effect
  | appendUserMessage _ => some .userMessage
  | commit => some .committed
  | xaddSessionSend _ => some .sessionSend
  | postInternalTrigger workflowId => some (.trigger workflowId)
  | _ => none

/-- Time in seconds, when the marker was set, and the effects so far. -/
structure WebhookStore where
  now : Nat
  markedAt : Option Nat
  effects : List Effect

/-- Whether Redis still keeps the marker. -/
def WebhookStore.marked (st : WebhookStore) : Bool :=
  st.markedAt.any fun markedAt => st.now < markedAt + 24 * 60 * 60

def WebhookStore.mark (st : WebhookStore) : WebhookStore := { st with markedAt := some st.now }

/-- What an operation answers, and whether it takes effect although it throws. -/
structure WebhookChoice where
  answer : (op : WebhookOp) → Option op.Answer
  took : Bool

def performWebhook (op : WebhookOp) (st : WebhookStore) (choice : WebhookChoice) :
    Option (Option op.Answer × WebhookStore) :=
  match op with
  | .acquireMarker =>
    match choice.answer .acquireMarker with
    | none => some ((none : Option Bool), if choice.took && !st.marked then st.mark else st)
    | some _ => some (some (!st.marked), if st.marked then st else st.mark)
  | .listWorkflows =>
    -- the rows have different ids
    let rows : Option (List String) := choice.answer .listWorkflows
    if rows.all (decide ·.Nodup) then some (rows, st) else none
  | op =>
    if (choice.answer op).isSome || choice.took then
      some (choice.answer op, { st with effects := st.effects ++ op.effect.toList })
    else some (choice.answer op, st)

/-- Deliveries of one message, on any number of edges. -/
abbrev webhookSystem : System WebhookOps where
  Store := WebhookStore
  Launch := Unit
  Loop := Empty
  Outcome := Option ChannelWebhookResult
  Choice := WebhookChoice
  -- seconds that pass
  Tick := Nat
  perform := performWebhook
  launch _ st := some st
  entry _ := .inr <$> handleWebhook
  body _ loop := nomatch loop
  finish _ _ st := st
  tick seconds st := some { st with now := st.now + seconds }

def undelivered : webhookSystem.State :=
  { store := { now := 0, markedAt := none, effects := [] }, process := fun _ => none }

end Vespid.Channels
