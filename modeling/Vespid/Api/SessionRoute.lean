import Mathlib.Data.List.Sort
import Vespid.AgentRuntime.Routing
import Vespid.Workflow.Dsl

/-!
# The route of a new session

`POST sessions` picks the binding and builds the session key with code of its own. It agrees with
the routing of the runtime except in three places: an organization binding that names no
organization matches, empty team and account fields match each other, and a session of scope
`main` gets a key that no other session has.
-/

namespace Vespid.Api.SessionRoute

open AgentRuntime Workflow

/-- The part of a session-creation body that routing reads. -/
structure SessionBody where
  actor : Option String
  channel : Option String
  peer : Option String
  scope : SessionScope
  context : List (String × Json)

/-- The schema of that part. -/
def sessionBodySchema (body : SessionBody) : Bool :=
  body.actor.all isUuid && body.channel.all (stringBetween 1 120) &&
    body.peer.all (stringBetween 1 240) && body.context.all fun entry => nonempty entry.1

/-- Who creates the session, with the role of their membership. -/
structure Caller where
  organizationId : String
  userId : String
  roleKey : String
  named : organizationId ≠ ""

/-- `typeof context?.[key] === "string" ? context[key] : null` -/
def SessionBody.text (body : SessionBody) (key : String) : Option String :=
  match body.context.lookup key with
  | some (.str s) => some s
  | _ => none

def dimensionOrder : List BindingDimension :=
  [.peer, .parentPeer, .orgRoles, .organization, .team, .account, .channel, .default]

/-- `typeof wanted === "string" && wanted === given` -/
def sameText (wanted : Option Json) (given : Option String) : Bool :=
  match wanted, given with
  | some (.str s), some text => s = text
  | _, _ => false

def stringOf : Json → Option String
  | .str s => some s
  | _ => none

def matchBinding (body : SessionBody) (caller : Caller) (binding : AgentBindingRecord) : Bool :=
  let wanted := binding.match.field?
  match binding.dimension with
  | .peer => sameText (wanted "peer") body.peer
  | .parentPeer => false
  | .orgRoles =>
    let needed := match wanted "orgRoles" with
      | some (.arr roles) => roles.filterMap stringOf
      | _ => []
    needed.any fun role => [caller.roleKey].contains role
  | .organization =>
    match wanted "organizationId" with
    | some id => !id.truthy || equalsText caller.organizationId id
    | none => true
  | .team => sameText (wanted "teamId") (body.text "team")
  | .account => sameText (wanted "accountId") (body.text "account")
  | .channel => sameText (wanted "channelId") body.channel
  | .default => true

structure Routed where
  matched : Option AgentBindingRecord
  routedAgentId : Option AgentId
  sessionKey : String

section route
variable (js : JsRuntime) (lower : LowerCase)

/-- The comparator of matching bindings, as `left` not after `right`. -/
def matchedOrder (left right : AgentBindingRecord) : Bool :=
  let leftRank := dimensionOrder.idxOf left.dimension
  let rightRank := dimensionOrder.idxOf right.dimension
  if leftRank ≠ rightRank then leftRank ≤ rightRank
  else if left.priority ≠ right.priority then right.priority ≤ left.priority
  else (js.localeCompare left.id right.id).isLE

def normalizedPart (value : Option String) (fallback : String) : List Char :=
  match value with
  | none => fallback.toList
  | some value =>
    if (Scheduler.trim value.toList).isEmpty then fallback.toList
    else dashRuns false (lower.lower (Scheduler.trim value.toList))

def mainAgent : AgentId := ⟨"main", by decide⟩

/-- The routing of `POST sessions`; `uuid` is a fresh one. -/
def routeSession (bindings : List AgentBindingRecord) (body : SessionBody) (caller : Caller)
    (uuid : String) : Routed :=
  let matched :=
    ((bindings.filter fun binding => matchBinding body caller binding).mergeSort
      (matchedOrder js)).head?
  let routedAgentId := matched.map (·.agentId)
  let sessionKeyBase := "agent:".toList ++
    normalizedPart lower (some (routedAgentId.getD mainAgent).text) "main" ++ ":org:".toList ++
    normalizedPart lower (some caller.organizationId) "unknown-org" ++ ":scope:".toList ++
    normalizedPart lower (some body.scope.name) "main"
  let peer := ":peer:".toList ++
    normalizedPart lower (some ((body.peer.or body.actor).getD caller.userId)) "anonymous"
  let channel := ":channel:".toList ++ normalizedPart lower body.channel "unknown-channel"
  let account := ":account:".toList ++
    normalizedPart lower (body.text "account") "unknown-account"
  let sessionKey := match body.scope with
    | .perPeer => sessionKeyBase ++ peer
    | .perChannelPeer => sessionKeyBase ++ channel ++ peer
    | .perAccountChannelPeer => sessionKeyBase ++ account ++ channel ++ peer
    | .main => sessionKeyBase ++ ":chat:".toList ++ uuid.toList
  { matched, routedAgentId, sessionKey := String.ofList sessionKey }

end route

/-- The context of the runtime for a request. -/
def contextOf (body : SessionBody) (caller : Caller) : SessionRouteContext where
  organizationId := caller.organizationId
  actorUserId := body.actor.getD caller.userId
  channel := body.channel
  account := body.text "account"
  peer := body.peer
  parentPeer := none
  orgRoles := [caller.roleKey]
  team := body.text "team"
  scope := body.scope

/-- `toLowerCase`, which leaves no text empty that was not. -/
structure CaseMap extends LowerCase where
  filled : ∀ s, s ≠ [] → lower s ≠ []

/-! ### The key -/

section key
variable {lower : CaseMap}

theorem dashRuns_ne_nil {s : List Char} (filled : s ≠ []) : dashRuns false s ≠ [] := by
  cases s with
  | nil => exact absurd rfl filled
  | cons head rest =>
    unfold dashRuns
    split
    · exact List.cons_ne_nil _ _
    · exact List.cons_ne_nil _ _

theorem normalizedPart_eq (value : Option String) (fallback : String) :
    normalizedPart lower.toLowerCase value fallback = safePart lower.toLowerCase value fallback := by
  unfold normalizedPart safePart normalizePart
  cases value with
  | none => rfl
  | some value =>
    dsimp only
    split
    · rfl
    · next filled =>
      have filled : Scheduler.trim value.toList ≠ [] := by simpa using filled
      have kept := dashRuns_ne_nil (lower.filled _ filled)
      rw [if_neg (by simpa using kept)]

/-- Neither fallback is used for the id of an agent. -/
theorem safePart_agent (agent : AgentId) :
    safePart lower.toLowerCase (some agent.text) "main" =
      safePart lower.toLowerCase (some agent.text) "default" := by
  have filled : Scheduler.trim agent.text.toList ≠ [] := by simpa using agent.solid
  have kept := dashRuns_ne_nil (lower.filled _ filled)
  unfold safePart normalizePart
  dsimp only
  rw [agent.solid, if_neg (by decide), if_neg (by simpa using kept), if_neg (by decide),
    if_neg (by simpa using kept)]

/-- The key of the API is the one of the runtime, with a suffix of its own in scope `main`. -/
theorem sessionKey_eq (js : JsRuntime) (bindings : List AgentBindingRecord) (body : SessionBody)
    (caller : Caller) (uuid : String) :
    (routeSession js lower.toLowerCase bindings body caller uuid).sessionKey =
      buildSessionKey lower.toLowerCase
        { agentId :=
            ((routeSession js lower.toLowerCase bindings body caller uuid).routedAgentId.getD
              mainAgent).text
          organizationId := caller.organizationId
          scope := body.scope
          actorUserId := body.actor.getD caller.userId
          channel := body.channel
          account := body.text "account"
          peer := body.peer } ++ if body.scope = .main then ":chat:" ++ uuid else "" := by
  have who : (body.peer.or body.actor).getD caller.userId =
      body.peer.getD (body.actor.getD caller.userId) := by
    cases body.peer <;> rfl
  rw [← String.toList_inj, String.toList_append]
  unfold routeSession buildSessionKey
  dsimp only
  rw [String.toList_ofList, String.toList_ofList, keyParts_split]
  simp only [normalizedPart_eq, baseParts, scopeParts, safePart_scope, SessionKeyInput.who,
    safePart_agent, who]
  cases body.scope <;> simp [List.intercalate, List.intersperse]

end key

/-! ### The bindings that match -/

/-- A binding whose empty team or account the empty one of the body matches. -/
def blankMatch (body : SessionBody) (binding : AgentBindingRecord) : Bool :=
  let blank (name key : String) := body.text name = some "" &&
    (binding.match.field? key).any (equalsText "")
  match binding.dimension with
  | .team => blank "team" "teamId"
  | .account => blank "account" "accountId"
  | _ => false

/-- An organization binding that names no organization, as one that names its own. -/
def readOrganization (binding : AgentBindingRecord) : AgentBindingRecord :=
  if binding.dimension = .organization ∧
      ((binding.match.field? "organizationId").all fun id => !id.truthy) then
    { binding with «match» := .obj [("organizationId", .str binding.organizationId)] }
  else binding

theorem sameText_eq {wanted : Option Json} {given : Option String}
    (filled : ¬ (given = some "" ∧ wanted.any (equalsText "") = true)) :
    sameText wanted given = bothAre wanted given := by
  cases wanted with
  | none => rfl
  | some wanted =>
    cases given with
    | none => cases wanted <;> rfl
    | some given =>
      cases wanted with
      | str s =>
        by_cases same : s = given
        · subst same
          have named : s ≠ "" := by
            rintro rfl
            exact filled ⟨rfl, rfl⟩
          simp [sameText, bothAre, Json.truthy, equalsText, named]
        · simp [sameText, bothAre, equalsText, same]
      | _ => simp [sameText, bothAre, equalsText]

theorem orgRoles_eq (roles : List Json) (role : String) :
    ((roles.filterMap stringOf).any fun needed => [role].contains needed) =
      if roles.length = 0 then false
      else roles.any fun wanted => [role].any fun actual => equalsText actual wanted := by
  induction roles with
  | nil => rfl
  | cons first rest ih =>
    cases rest with
    | nil => cases first <;> simp [stringOf, equalsText, eq_comm]
    | cons second rest => cases first <;> simp_all [stringOf, equalsText]

theorem readOrganization_same (binding : AgentBindingRecord) :
    (readOrganization binding).id = binding.id ∧
      (readOrganization binding).organizationId = binding.organizationId ∧
      (readOrganization binding).agentId = binding.agentId ∧
      (readOrganization binding).priority = binding.priority ∧
      (readOrganization binding).dimension = binding.dimension := by
  unfold readOrganization
  split <;> exact ⟨rfl, rfl, rfl, rfl, rfl⟩

theorem readOrganization_other {binding : AgentBindingRecord}
    (other : binding.dimension ≠ .organization) : readOrganization binding = binding :=
  if_neg fun is => other is.1

theorem matchBinding_eq {body : SessionBody} (accepted : sessionBodySchema body = true)
    {caller : Caller} {binding : AgentBindingRecord}
    (own : binding.organizationId = caller.organizationId)
    (filled : blankMatch body binding = false) :
    matchBinding body caller binding =
      matchesBinding (readOrganization binding) (contextOf body caller) := by
  have short {text : String} (fits : stringBetween 1 120 text = true ∨
      stringBetween 1 240 text = true) : text ≠ "" := by
    rintro rfl
    revert fits
    decide
  unfold sessionBodySchema at accepted
  simp only [Bool.and_eq_true] at accepted
  obtain ⟨⟨⟨-, channelFits⟩, peerFits⟩, -⟩ := accepted
  have channel : body.channel ≠ some "" := by
    intro is
    rw [is] at channelFits
    exact short (.inl channelFits) rfl
  have peer : body.peer ≠ some "" := by
    intro is
    rw [is] at peerFits
    exact short (.inr peerFits) rfl
  have other (is : binding.dimension ≠ .organization) : readOrganization binding = binding :=
    readOrganization_other is
  unfold matchBinding
  cases dimension : binding.dimension with
  | peer =>
    rw [other (by simp [dimension])]
    simp only [matchesBinding, dimension]
    exact sameText_eq fun is => peer is.1
  | parentPeer =>
    rw [other (by simp [dimension])]
    simp only [matchesBinding, dimension, contextOf]
    unfold bothAre
    split <;> simp_all
  | orgRoles =>
    rw [other (by simp [dimension])]
    simp only [matchesBinding, dimension, contextOf]
    cases wanted : binding.match.field? "orgRoles" with
    | none => rfl
    | some roles =>
      cases roles with
      | arr items => exact orgRoles_eq items caller.roleKey
      | _ => rfl
  | organization =>
    dsimp only
    by_cases loose : binding.dimension = .organization ∧
        ((binding.match.field? "organizationId").all fun id => !id.truthy) = true
    · have read : readOrganization binding = { binding with
          «match» := .obj [("organizationId", .str binding.organizationId)] } := if_pos loose
      have truthy : (Json.str caller.organizationId).truthy = true := by
        simp [Json.truthy, caller.named]
      rw [read]
      simp only [matchesBinding, dimension, contextOf, Json.field?_obj, List.lookup_cons_self,
        equalsText, own, truthy, Bool.true_and, decide_true]
      have empty := loose.2
      cases wanted : binding.match.field? "organizationId" with
      | none => rfl
      | some id =>
        rw [wanted, Option.all_some] at empty
        simp [empty]
    · have read : readOrganization binding = binding := if_neg loose
      rw [read]
      simp only [matchesBinding, dimension, contextOf]
      cases wanted : binding.match.field? "organizationId" with
      | none => exact absurd ⟨dimension, by rw [wanted]; rfl⟩ loose
      | some id =>
        have truthy : id.truthy = true := by
          by_contra falsy
          exact loose ⟨dimension, by simp [wanted, falsy]⟩
        simp [truthy]
  | team =>
    rw [other (by simp [dimension])]
    simp only [matchesBinding, dimension, contextOf]
    refine sameText_eq fun is => ?_
    simp [blankMatch, dimension, is.1, is.2] at filled
  | account =>
    rw [other (by simp [dimension])]
    simp only [matchesBinding, dimension, contextOf]
    refine sameText_eq fun is => ?_
    simp [blankMatch, dimension, is.1, is.2] at filled
  | channel =>
    rw [other (by simp [dimension])]
    simp only [matchesBinding, dimension, contextOf]
    exact sameText_eq fun is => channel is.1
  | default =>
    rw [other (by simp [dimension])]
    simp only [matchesBinding, dimension]

theorem order_eq (js : JsRuntime) (left right : AgentBindingRecord) :
    matchedOrder js left right =
      candidateOrder js (readOrganization left) (readOrganization right) := by
  obtain ⟨idL, -, -, priorityL, dimensionL⟩ := readOrganization_same left
  obtain ⟨idR, -, -, priorityR, dimensionR⟩ := readOrganization_same right
  unfold matchedOrder candidateOrder
  rw [idL, idR, priorityL, priorityR, dimensionL, dimensionR]
  rfl

/-- The candidates of the runtime are the bindings that match, read as it reads them. -/
theorem candidates_eq (js : JsRuntime) {bindings : List AgentBindingRecord} {body : SessionBody}
    (accepted : sessionBodySchema body = true) {caller : Caller}
    (own : ∀ binding ∈ bindings, binding.organizationId = caller.organizationId)
    (filled : ∀ binding ∈ bindings, blankMatch body binding = false) :
    ((((bindings.map readOrganization).filter fun binding =>
        binding.organizationId = (contextOf body caller).organizationId).filter fun binding =>
          matchesBinding binding (contextOf body caller)).mergeSort (candidateOrder js)) =
      (((bindings.filter fun binding => matchBinding body caller binding).mergeSort
        (matchedOrder js)).map readOrganization) := by
  have all : (bindings.map readOrganization).filter (fun binding =>
      binding.organizationId = (contextOf body caller).organizationId) =
        bindings.map readOrganization := by
    refine List.filter_eq_self.mpr fun binding mem => ?_
    obtain ⟨before, there, rfl⟩ := List.mem_map.mp mem
    simp [contextOf, (readOrganization_same before).2.1, own before there]
  rw [all, List.filter_map, List.map_mergeSort fun a _ b _ => order_eq js a b]
  congr 2
  refine List.filter_congr fun binding mem => ?_
  exact (matchBinding_eq accepted (own binding mem) (filled binding mem)).symm

/-! ### The route -/

/-- The two routings have the same binding, agent and key. -/
structure Agrees (api : Routed) (runtime : SessionRouteResolved) : Prop where
  binding : api.matched.map (·.id) = runtime.bindingId
  agent : api.routedAgentId.getD mainAgent = runtime.routedAgentId
  key : api.sessionKey = runtime.sessionKey

/-- The route is the runtime's, where a binding of dimension organization may leave out its
organization and a key of scope `main` ends in a fresh id. -/
theorem session_routed (js : JsRuntime) (lower : CaseMap) (bindings : List AgentBindingRecord)
    (body : SessionBody) (caller : Caller) (uuid : String)
    (own : ∀ binding ∈ bindings, binding.organizationId = caller.organizationId)
    (accepted : sessionBodySchema body = true)
    (filled : ∀ binding ∈ bindings, blankMatch body binding = false) :
    let api := routeSession js lower.toLowerCase bindings body caller uuid
    let runtime := resolveRoutedAgent js lower.toLowerCase (bindings.map readOrganization)
      (contextOf body caller) mainAgent
    Agrees api { runtime with
      sessionKey := runtime.sessionKey ++ if body.scope = .main then ":chat:" ++ uuid else "" } := by
  intro api runtime
  have selected := congrArg List.head? (candidates_eq js accepted own filled)
  rw [List.head?_map] at selected
  have binding : api.matched.map (·.id) = runtime.bindingId := by
    show _ = Option.map _ (List.head? _)
    rw [selected, Option.map_map]
    refine congrArg (Option.map · _) (funext fun b => ?_)
    exact (readOrganization_same b).1.symm
  have agent : api.routedAgentId.getD mainAgent = runtime.routedAgentId := by
    show (Option.map _ (List.head? _)).getD mainAgent = (Option.map _ (List.head? _)).getD mainAgent
    rw [selected, Option.map_map]
    refine congrArg (fun agent => (Option.map agent _).getD mainAgent) (funext fun b => ?_)
    exact (readOrganization_same b).2.2.1.symm
  refine ⟨binding, agent, ?_⟩
  have key := @sessionKey_eq lower js bindings body caller uuid
  rw [show (routeSession js lower.toLowerCase bindings body caller uuid).routedAgentId.getD
    mainAgent = runtime.routedAgentId from agent] at key
  exact key

/-! ### Three sessions -/

def asciiCase : CaseMap where
  toLowerCase := asciiLower
  filled s filled := by
    show s.map Char.toLower ≠ []
    simpa using filled

/-- A runtime whose collation tells no two texts apart. -/
def plain : JsRuntime where
  localeCompare _ _ := .eq
  number _ := none
  inherited _ _ := .undefined

def asker : Caller where
  organizationId := "org-1"
  userId := "u-1"
  roleKey := "member"
  named := by decide

def asks (scope : SessionScope) (context : List (String × Json)) : SessionBody where
  actor := none
  channel := none
  peer := none
  scope := scope
  context := context

def bound (dimension : BindingDimension) (fields : List (String × Json)) : AgentBindingRecord where
  id := "b-1"
  organizationId := "org-1"
  agentId := ⟨"support", by decide⟩
  priority := 0
  dimension := dimension
  «match» := .obj fields

/-- A route by an organization binding that names no organization. -/
theorem session_routed_organization :
    Agrees
      (routeSession plain asciiLower [bound .organization []] (asks .perPeer []) asker "uuid")
      (let runtime := resolveRoutedAgent plain asciiLower
        ([bound .organization []].map readOrganization) (contextOf (asks .perPeer []) asker)
        mainAgent
      { runtime with sessionKey := runtime.sessionKey ++ "" }) :=
  session_routed plain asciiCase [bound .organization []] (asks .perPeer []) asker "uuid"
    (by simp [bound, asker]) (by decide) (by simp [bound, blankMatch])

/-- A key of scope `main` has a suffix, and an organization binding without an organization and an
empty account match in the API only. -/
theorem routes_differ :
    (¬ Agrees (routeSession plain asciiLower [] (asks .main []) asker "uuid")
      (resolveRoutedAgent plain asciiLower [] (contextOf (asks .main []) asker) mainAgent)) ∧
    (¬ Agrees
      (routeSession plain asciiLower [bound .organization []] (asks .perPeer []) asker "uuid")
      (resolveRoutedAgent plain asciiLower [bound .organization []]
        (contextOf (asks .perPeer []) asker) mainAgent)) ∧
    ¬ Agrees
      (routeSession plain asciiLower [bound .account [("accountId", .str "")]]
        (asks .perPeer [("account", .str "")]) asker "uuid")
      (resolveRoutedAgent plain asciiLower [bound .account [("accountId", .str "")]]
        (contextOf (asks .perPeer [("account", .str "")]) asker) mainAgent) := by
  refine ⟨fun agrees => ?_, fun agrees => ?_, fun agrees => ?_⟩
  · exact absurd agrees.key (by decide +kernel)
  · exact absurd agrees.binding (by simp [routeSession, resolveRoutedAgent, matchBinding,
      matchesBinding, bound, contextOf, asks, asker, List.filter_cons])
  · exact absurd agrees.binding (by simp [routeSession, resolveRoutedAgent, matchBinding,
      matchesBinding, bound, contextOf, asks, asker, sameText, bothAre, SessionBody.text])

end Vespid.Api.SessionRoute
