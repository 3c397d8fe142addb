import Vespid.AgentRuntime.SessionRouting

/-!
# Routing a session to an agent

The bindings of an organization, and the agent and session key a request is routed to.
-/

namespace Vespid.AgentRuntime

inductive BindingDimension where
  | peer | parentPeer | orgRoles | organization | team | account | channel | default
  deriving DecidableEq

def bindingOrder : List BindingDimension :=
  [.peer, .parentPeer, .orgRoles, .organization, .team, .account, .channel, .default]

/-- The id of an agent, which is not blank. -/
structure AgentId where
  text : String
  solid : (Scheduler.trim text.toList).isEmpty = false

/-- A row of `agent_bindings`. -/
structure AgentBindingRecord where
  id : String
  organizationId : String
  agentId : AgentId
  priority : Int
  dimension : BindingDimension
  «match» : Json

/-- What is known of a request. -/
structure SessionRouteContext where
  organizationId : String
  actorUserId : String
  channel : Option String
  account : Option String
  peer : Option String
  parentPeer : Option String
  orgRoles : List String
  team : Option String
  scope : SessionScope

structure SessionRouteResolved where
  routedAgentId : AgentId
  sessionKey : String
  bindingId : Option String

def dimensionsRank (dimension : BindingDimension) : Nat := bindingOrder.idxOf dimension

/-- `value === text` -/
def equalsText (text : String) : Json → Bool
  | .str s => s = text
  | _ => false

/-- `Boolean(wanted && given && wanted === given)` -/
def bothAre (wanted : Option Json) (given : Option String) : Bool :=
  match wanted, given with
  | some wanted, some given => wanted.truthy && given ≠ "" && equalsText given wanted
  | _, _ => false

def matchesBinding (binding : AgentBindingRecord) (context : SessionRouteContext) : Bool :=
  let wanted := binding.match.field?
  match binding.dimension with
  | .peer => bothAre (wanted "peer") context.peer
  | .parentPeer => bothAre (wanted "parentPeer") context.parentPeer
  | .orgRoles =>
    match wanted "orgRoles" with
    | some (.arr targetRoles) =>
      if targetRoles.length = 0 then false
      else targetRoles.any fun role => context.orgRoles.any fun actual => equalsText actual role
    | _ => false
  | .organization =>
    match wanted "organizationId" with
    | some id => id.truthy && equalsText context.organizationId id
    | none => false
  | .team => bothAre (wanted "teamId") context.team
  | .account => bothAre (wanted "accountId") context.account
  | .channel => bothAre (wanted "channelId") context.channel
  | .default => true

section resolve
variable (js : JsRuntime) (lower : LowerCase)

/-- The comparator of candidates, as `left` not after `right`. -/
def candidateOrder (left right : AgentBindingRecord) : Bool :=
  if dimensionsRank left.dimension ≠ dimensionsRank right.dimension then
    dimensionsRank left.dimension ≤ dimensionsRank right.dimension
  else if left.priority ≠ right.priority then right.priority ≤ left.priority
  else (js.localeCompare left.id right.id).isLE

def resolveRoutedAgent (bindings : List AgentBindingRecord) (context : SessionRouteContext)
    (defaultAgentId : AgentId) : SessionRouteResolved :=
  let candidates := ((bindings.filter fun binding =>
      binding.organizationId = context.organizationId).filter fun binding =>
        matchesBinding binding context).mergeSort (candidateOrder js)
  let selected := candidates.head?
  let routedAgentId := (selected.map (·.agentId)).getD defaultAgentId
  { routedAgentId
    sessionKey := buildSessionKey lower
      { agentId := routedAgentId.text
        organizationId := context.organizationId
        scope := context.scope
        actorUserId := context.actorUserId
        channel := context.channel
        account := context.account
        peer := context.peer }
    bindingId := selected.map (·.id) }

end resolve

end Vespid.AgentRuntime
