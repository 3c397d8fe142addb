import Mathlib.Logic.Function.Basic
import Vespid.Channels.Pairing
import Vespid.Channels.Router
import Vespid.Channels.Signatures

/-!
# Webhooks and the organizations they reach

The API keeps the key of a channel account unique in its organization. The gateway, which knows no
organization when a webhook comes in, takes any account that has the channel and the key.
-/

namespace Vespid.Channels.Ingress

open Pairing (ChannelAllowlistEntry)

/-- A row of `channel_accounts`; ids are told apart within an organization. -/
structure AccountRow where
  organizationId : String
  account : Pairing.Account
  channelId : String
  accountKey : String
  enabled : Bool
  updatedByUserId : String
  metadata : Json

def AccountRow.webhookAccount (row : AccountRow) : Router.WebhookAccount where
  organizationId := row.organizationId
  accountKey := row.accountKey

def AccountRow.signed (row : AccountRow) : Signatures.ChannelAccount where
  enabled := row.enabled
  metadata := row.metadata

/-- What an adapter makes of a message. -/
structure Envelope extends Router.InboundEnvelope where
  providerMessageId : String

def securityEvent : Router.ChannelMessageEventType → Pairing.ChannelMessageEventType
  | .dm => .dm
  | .mentioned => .mentioned
  | .received => .received

/-- What the security check reads of an envelope. -/
def Envelope.security (envelope : Envelope) : Pairing.ChannelInboundEnvelope where
  conversationId := envelope.conversationId
  senderId := envelope.senderId
  event := securityEvent envelope.event
  mentionMatched := envelope.mentionMatched

/-! ### What an organization has -/

/-- The Redis key of an inbound message, with the time it was set. -/
structure Marker where
  accountId : Nat
  providerMessageId : String
  setAt : Nat

structure Conversation where
  accountId : Nat
  conversationId : String
  sessionId : Option String

/-- The rows of one organization that a webhook reads, and its markers. -/
structure Tenant where
  entries : List ChannelAllowlistEntry
  markers : List Marker
  conversations : List Conversation
  /-- The number of events of a session. -/
  sessions : String → Option Nat
  workflows : Router.WorkflowTable

namespace Tenant

def marked (tenant : Tenant) (now accountId : Nat) (providerMessageId : String) : Bool :=
  tenant.markers.any fun marker => marker.accountId = accountId &&
    marker.providerMessageId = providerMessageId && now < marker.setAt + 24 * 60 * 60 * 1000

def mark (tenant : Tenant) (now accountId : Nat) (providerMessageId : String) : Tenant :=
  { tenant with markers := { accountId, providerMessageId, setAt := now } :: tenant.markers }

def conversation (tenant : Tenant) (accountId : Nat) (conversationId : String) :
    Option Conversation :=
  tenant.conversations.find? fun row =>
    row.accountId = accountId && row.conversationId = conversationId

/-- A conversation is entered when its first message comes in. -/
def upsertChannelConversation (tenant : Tenant) (accountId : Nat) (conversationId : String)
    (sessionId : Option String) : Tenant :=
  match tenant.conversation accountId conversationId with
  | none =>
    { tenant with
      conversations := { accountId, conversationId, sessionId } :: tenant.conversations }
  | some _ =>
    { tenant with
      conversations := tenant.conversations.map fun row =>
        if row.accountId = accountId && row.conversationId = conversationId then
          { row with sessionId := sessionId.or row.sessionId }
        else row }

/-- The rows that go with an account that is deleted. -/
def withoutAccount (tenant : Tenant) (accountId : Nat) : Tenant :=
  { tenant with
    entries := tenant.entries.filter fun entry => entry.accountId ≠ accountId
    conversations := tenant.conversations.filter fun row => row.accountId ≠ accountId }

end Tenant

/-! ### The webhook -/

variable {parse : String → Option Json}

structure Payload (parse : String → Option Json) where
  channelId : String
  accountKey : String
  request : Signatures.WebhookRequest parse

/-- An adapter of the registry; the check answers with the reason of a refusal. -/
structure Adapter (parse : String → Option Json) where
  authenticateWebhook : AccountRow → Payload parse → Option String
  normalizeWebhook : AccountRow → Payload parse → Option Envelope

/-- What an edge runs with. -/
structure Edge (parse : String → Option Json) where
  isChannelRuntimeEnabled : String → Bool
  registry : String → Option (Adapter parse)
  toLowerCase : List Char → List Char
  number : Rat → List Char
  hmac : Signatures.Hmac
  isUuid : String → Bool

structure SessionSend where
  organizationId : String
  userId : String
  sessionId : String
  userEventSeq : Nat
  deriving DecidableEq

/-- What a webhook leads to; there is no result when the handler throws. -/
structure Processed where
  result : Option ChannelWebhookResult
  organizationId : Option String
  accountId : Option Nat
  sessionSend : Option SessionSend
  posted : List (String × String)

def unknown (reason : String) : Processed where
  result := some (refused reason false)
  organizationId := none
  accountId := none
  sessionSend := none
  posted := []

def AccountRow.answers (row : AccountRow) (result : Option ChannelWebhookResult) : Processed where
  result := result
  organizationId := some row.organizationId
  accountId := some row.account.id
  sessionSend := none
  posted := []

variable (edge : Edge parse)

/-- The session a message is appended to, if there is one; the transaction throws if its id is not
a uuid. -/
def routeToSession (row : AccountRow) (envelope : Envelope) (tenant : Tenant) :
    Option (Option SessionSend × Tenant) :=
  let entered := tenant.upsertChannelConversation row.account.id envelope.conversationId none
  let conversation := entered.conversation row.account.id envelope.conversationId
  let target := (conversation.bind (·.sessionId)).or (row.signed.readString "defaultSessionId")
  if row.metadata.field? "sessionBridgeEnabled" matches some (.bool false) then
    some (none, entered)
  else
    match target.filter (· ≠ "") with
    | none => some (none, entered)
    | some sessionId =>
      if !edge.isUuid sessionId then none
      else
        match entered.sessions sessionId with
        | none => some (none, entered)
        | some seq =>
          let bound := entered.upsertChannelConversation row.account.id envelope.conversationId
            (some sessionId)
          some (some { organizationId := row.organizationId, userId := row.updatedByUserId,
                       sessionId, userEventSeq := seq },
            { bound with sessions := Function.update bound.sessions sessionId (some (seq + 1)) })

def acceptMessage (row : AccountRow) (envelope : Envelope) (tenant : Tenant)
    (outside : Router.Outside) : Processed × Tenant :=
  match routeToSession edge row envelope tenant with
  | none => (row.answers none, tenant)
  | some (sessionSend, routed) =>
    -- a message without a session sends nothing that could throw
    let sent := sessionSend.isNone || outside.sessionSent
    let triggered := Router.triggerWorkflows edge.toLowerCase routed.workflows row.webhookAccount
      envelope.toInboundEnvelope { outside with sessionSent := sent }
    let result : ChannelWebhookResult :=
      { accepted := true, reason := "accepted", sessionRouted := sessionSend.isSome
        workflowsTriggered := triggered.2 }
    ({ row.answers (if sent then some result else none) with
       sessionSend := sessionSend, posted := triggered.1 }, routed)

/-- Routing in the context of the account's organization. -/
def routeMessage (row : AccountRow) (envelope : Envelope) (tenant : Tenant)
    (outside : Router.Outside) : Processed × Tenant :=
  let allowlist := tenant.entries.filter fun entry => entry.accountId = row.account.id
  let decision := Pairing.evaluateChannelSecurity edge.toLowerCase envelope.security row.account
    allowlist
  if !decision.accepted then (row.answers (some (refused decision.reason false)), tenant)
  else acceptMessage edge row envelope tenant outside

/-- `handleWebhook` from the account on. -/
def processAccount (adapter : Adapter parse) (row : AccountRow) (tenant : Tenant) (now : Nat)
    (payload : Payload parse) (outside : Router.Outside) : Processed × Tenant :=
  if !row.enabled then (row.answers (some (refused "account_disabled" false)), tenant)
  else
    match adapter.authenticateWebhook row payload with
    | some reason => (row.answers (some (refused reason false)), tenant)
    | none =>
      if !Signatures.managerCheck edge.number edge.hmac row.signed payload.request then
        (row.answers (some (refused "signature_invalid" false)), tenant)
      else
        match adapter.normalizeWebhook row payload with
        | none => (row.answers (some (refused "normalize_failed" false)), tenant)
        | some envelope =>
          if tenant.marked now row.account.id envelope.providerMessageId then
            (row.answers (some (refused "duplicate_message" true)), tenant)
          else
            routeMessage edge row envelope
              (tenant.mark now row.account.id envelope.providerMessageId) outside

/-! ### Accounts of any organizations -/

structure World where
  accounts : List AccountRow
  nextId : String → Nat
  tenants : String → Tenant
  now : Nat

/-- `.limit(1)` on the rows found, without an order: the plan decides. -/
def getChannelAccountByChannelAndKeyGlobal (accounts : List AccountRow)
    (channelId accountKey : String) (plan : Nat) : Option AccountRow :=
  let rows := accounts.filter fun row => row.channelId = channelId && row.accountKey = accountKey
  rows[plan % rows.length]?

def World.setTenant (w : World) (organizationId : String) (tenant : Tenant) : World :=
  { w with tenants := Function.update w.tenants organizationId tenant }

def handleWebhook (w : World) (payload : Payload parse) (outside : Router.Outside) (plan : Nat) :
    Processed × World :=
  if !edge.isChannelRuntimeEnabled payload.channelId then (unknown "channel_disabled", w)
  else
    match edge.registry payload.channelId with
    | none => (unknown "adapter_not_found", w)
    | some adapter =>
      match getChannelAccountByChannelAndKeyGlobal w.accounts payload.channelId payload.accountKey
          plan with
      | none => (unknown "account_not_found", w)
      | some row =>
        let done := processAccount edge adapter row (w.tenants row.organizationId) w.now payload
          outside
        (done.1, w.setTenant row.organizationId done.2)

/-- The body of a creation, with its defaults. -/
structure AccountBody where
  channelId : String
  accountKey : String
  enabled : Bool := true
  dmPolicy : Pairing.ChannelDmPolicy := .pairing
  groupPolicy : Pairing.ChannelGroupPolicy := .allowlist
  requireMentionInGroup : Bool := true
  metadata : Json := .obj []

structure AccountPatch where
  enabled : Option Bool
  dmPolicy : Option Pairing.ChannelDmPolicy
  groupPolicy : Option Pairing.ChannelGroupPolicy
  requireMentionInGroup : Option Bool
  metadata : Option Json

inductive Event (parse : String → Option Json) where
  | createAccount (organizationId actorUserId : String) (body : AccountBody)
  | updateAccount (organizationId actorUserId : String) (accountId : Nat) (patch : AccountPatch)
  | deleteAccount (organizationId : String) (accountId : Nat)
  /-- Any other request of an organization. -/
  | request (organizationId : String) (change : Tenant → Tenant)
  | webhook (payload : Payload parse) (outside : Router.Outside) (plan : Nat)
  | wait (milliseconds : Nat)

/-- The keys of an organization's accounts are unique. -/
def taken (accounts : List AccountRow) (organizationId channelId accountKey : String) : Bool :=
  accounts.any fun row => row.organizationId = organizationId && row.channelId = channelId &&
    row.accountKey = accountKey

/-- The row that is inserted. -/
def AccountBody.row (body : AccountBody) (organizationId actorUserId accountKey : String)
    (id : Nat) : AccountRow where
  organizationId := organizationId
  account :=
    { id, dmPolicy := body.dmPolicy, groupPolicy := body.groupPolicy
      requireMentionInGroup := body.requireMentionInGroup }
  channelId := body.channelId
  accountKey := accountKey
  enabled := body.enabled
  updatedByUserId := actorUserId
  metadata := body.metadata

def createChannelAccount (w : World) (organizationId actorUserId : String) (body : AccountBody) :
    World :=
  let accountKey := String.ofList (Scheduler.trim body.accountKey.toList)
  if taken w.accounts organizationId body.channelId accountKey then w
  else
    { w with
      accounts := body.row organizationId actorUserId accountKey (w.nextId organizationId) ::
        w.accounts
      nextId := Function.update w.nextId organizationId (w.nextId organizationId + 1) }

/-- Channel and key of an account stay. -/
def AccountRow.patched (row : AccountRow) (actorUserId : String) (patch : AccountPatch) :
    AccountRow :=
  { row with
    account :=
      { row.account with
        dmPolicy := patch.dmPolicy.getD row.account.dmPolicy
        groupPolicy := patch.groupPolicy.getD row.account.groupPolicy
        requireMentionInGroup :=
          patch.requireMentionInGroup.getD row.account.requireMentionInGroup }
    enabled := patch.enabled.getD row.enabled
    updatedByUserId := actorUserId
    metadata := patch.metadata.getD row.metadata }

def updateChannelAccount (w : World) (organizationId actorUserId : String) (accountId : Nat)
    (patch : AccountPatch) : World :=
  { w with
    accounts := w.accounts.map fun row =>
      if row.organizationId = organizationId && row.account.id = accountId then
        row.patched actorUserId patch
      else row }

def deleteChannelAccount (w : World) (organizationId : String) (accountId : Nat) : World :=
  { w.setTenant organizationId ((w.tenants organizationId).withoutAccount accountId) with
    accounts := w.accounts.filter fun row =>
      !(row.organizationId = organizationId && row.account.id = accountId) }

def step (w : World) : Event parse → World
  | .createAccount organizationId actorUserId body =>
    createChannelAccount w organizationId actorUserId body
  | .updateAccount organizationId actorUserId accountId patch =>
    updateChannelAccount w organizationId actorUserId accountId patch
  | .deleteAccount organizationId accountId => deleteChannelAccount w organizationId accountId
  | .request organizationId change => w.setTenant organizationId (change (w.tenants organizationId))
  | .webhook payload outside plan => (handleWebhook edge w payload outside plan).2
  | .wait milliseconds => { w with now := w.now + milliseconds }

/-! ### The claim and its condition -/

/-- The account is found under the channel and the key. -/
def AccountRow.keyed (row : AccountRow) (channelId accountKey : String) : Prop :=
  row.channelId = channelId ∧ row.accountKey = accountKey

/-- The organization has an account under the channel and the key. -/
def Registered (organizationId : String) (w : World) (payload : Payload parse) : Prop :=
  ∃ row ∈ w.accounts, row.organizationId = organizationId ∧
    row.keyed payload.channelId payload.accountKey

def ofAccountsOf (organizationId : String) : Event parse → Prop
  | .createAccount owner .. => owner = organizationId
  | .updateAccount owner .. => owner = organizationId
  | .deleteAccount owner .. => owner = organizationId
  | _ => False

/-- Two events that differ at most in the row a lookup without an order takes. -/
inductive SameButPlan : Event parse → Event parse → Prop where
  | refl (e : Event parse) : SameButPlan e e
  | webhook (payload : Payload parse) (outside : Router.Outside) (plan plan' : Nat) :
      SameButPlan (.webhook payload outside plan) (.webhook payload outside plan')

/-- No other organization has the channel and the key of an account of this one. -/
def OwnKey (organizationId : String) (w : World) (payload : Payload parse) : Prop :=
  Registered organizationId w payload → ∀ row ∈ w.accounts,
    row.keyed payload.channelId payload.accountKey → row.organizationId = organizationId

/-- A webhook that comes in under a key of the organization. -/
def Undisputed (organizationId : String) (w : World) : Event parse → Prop
  | .webhook payload .. => OwnKey organizationId w payload
  | _ => True

/-- No account yet. -/
def founded (tenants : String → Tenant) (now : Nat) : World where
  accounts := []
  nextId := fun _ => 0
  tenants := tenants
  now := now

/-! ### What an organization sees -/

section proofs
variable {edge : Edge parse} {A B : String} {w w' : World}

def World.own (w : World) (organizationId : String) : List AccountRow :=
  w.accounts.filter fun row => row.organizationId = organizationId

theorem mem_own {row : AccountRow} :
    row ∈ w.own A ↔ row ∈ w.accounts ∧ row.organizationId = A := by
  simp [World.own]

/-- The worlds are the same to the organization; its keys are unique in the first. -/
structure Low (A : String) (w w' : World) : Prop where
  own : w.own A = w'.own A
  nextId : w.nextId A = w'.nextId A
  tenant : w.tenants A = w'.tenants A
  now : w.now = w'.now
  keys : ∀ row ∈ w.own A, ∀ other ∈ w.own A, row.channelId = other.channelId →
    row.accountKey = other.accountKey → row = other

theorem Low.symm (low : Low A w w') : Low A w' w :=
  ⟨low.own.symm, low.nextId.symm, low.tenant.symm, low.now.symm, low.own ▸ low.keys⟩

theorem Low.trans {w'' : World} (low : Low A w w') (then_ : Low A w' w'') : Low A w w'' :=
  ⟨low.own.trans then_.own, low.nextId.trans then_.nextId, low.tenant.trans then_.tenant,
    low.now.trans then_.now, low.keys⟩

@[simp] theorem own_setTenant (organizationId : String) (tenant : Tenant) :
    (w.setTenant organizationId tenant).own A = w.own A := rfl

theorem taken_own (organizationId channelId accountKey : String) :
    taken w.accounts organizationId channelId accountKey =
      taken (w.own organizationId) organizationId channelId accountKey := by
  rw [Bool.eq_iff_iff]
  simp only [taken, List.any_eq_true, Bool.and_eq_true, decide_eq_true_eq, mem_own]
  constructor
  · rintro ⟨row, mem, is, rest⟩
    exact ⟨row, ⟨mem, is.1⟩, is, rest⟩
  · rintro ⟨row, ⟨mem, -⟩, is⟩
    exact ⟨row, mem, is⟩

/-! ### Events on accounts -/

theorem own_update (organizationId actorUserId : String) (accountId : Nat)
    (patch : AccountPatch) :
    (updateChannelAccount w organizationId actorUserId accountId patch).own A =
      (w.own A).map fun row =>
        if row.organizationId = organizationId && row.account.id = accountId then
          row.patched actorUserId patch
        else row := by
  unfold World.own updateChannelAccount
  rw [List.filter_map]
  congr 2
  funext row
  simp only [Function.comp]
  split <;> rfl

theorem own_delete (organizationId : String) (accountId : Nat) :
    (deleteChannelAccount w organizationId accountId).own A =
      (w.own A).filter fun row =>
        !(row.organizationId = organizationId && row.account.id = accountId) := by
  unfold World.own deleteChannelAccount
  rw [List.filter_filter, List.filter_filter]
  congr 1
  funext row
  exact Bool.and_comm ..

/-- An event on an account of another organization is not seen. -/
theorem low_unseen (apart : A ≠ B) {e : Event parse} (hides : ofAccountsOf B e)
    (low : Low A w w') : Low A (step edge w e) w' := by
  refine Low.trans ?_ low
  cases e with
  | createAccount organizationId actorUserId body =>
    obtain rfl : organizationId = B := hides
    simp only [step, createChannelAccount]
    split
    · exact ⟨rfl, rfl, rfl, rfl, low.keys⟩
    · have own (row : AccountRow) (is : row.organizationId = organizationId) :
          (row :: w.accounts).filter (fun row => row.organizationId = A) = w.own A :=
        List.filter_cons_of_neg (by simpa [is] using apart.symm)
      refine ⟨own _ rfl, Function.update_of_ne apart _ _, rfl, rfl, ?_⟩
      unfold World.own
      rw [own _ rfl]
      exact low.keys
  | updateAccount organizationId actorUserId accountId patch =>
    obtain rfl : organizationId = B := hides
    have own : (updateChannelAccount w organizationId actorUserId accountId patch).own A =
        w.own A := by
      rw [own_update]
      refine (List.map_congr_left fun row mem => ?_).trans (List.map_id _)
      obtain ⟨-, is⟩ := mem_own.mp mem
      exact if_neg (by simp [is, apart])
    refine ⟨own, rfl, rfl, rfl, ?_⟩
    simp only [step]
    rw [own]
    exact low.keys
  | deleteAccount organizationId accountId =>
    obtain rfl : organizationId = B := hides
    have own : (deleteChannelAccount w organizationId accountId).own A = w.own A := by
      rw [own_delete, List.filter_eq_self]
      intro row mem
      obtain ⟨-, is⟩ := mem_own.mp mem
      simp [is, apart]
    refine ⟨own, rfl, Function.update_of_ne apart _ _, rfl, ?_⟩
    simp only [step]
    rw [own]
    exact low.keys
  | request => cases hides
  | webhook => cases hides
  | wait => cases hides

/-- An event on an account of another organization in both worlds. -/
theorem low_unseen_both (apart : A ≠ B) {e : Event parse} (hides : ofAccountsOf B e)
    (low : Low A w w') : Low A (step edge w e) (step edge w' e) :=
  (low_unseen apart hides (low_unseen apart hides low).symm).symm

theorem low_create (actorUserId : String) (body : AccountBody) (low : Low A w w') :
    Low A (createChannelAccount w A actorUserId body)
      (createChannelAccount w' A actorUserId body) := by
  unfold createChannelAccount
  simp only [@taken_own w, @taken_own w', ← low.own, ← low.nextId]
  generalize String.ofList (Scheduler.trim body.accountKey.toList) = accountKey
  split
  · exact low
  · next free =>
    have own (u : World) : (body.row A actorUserId accountKey (w.nextId A) :: u.accounts).filter
        (fun row => row.organizationId = A) =
          body.row A actorUserId accountKey (w.nextId A) :: u.own A :=
      List.filter_cons_of_pos (by simp [AccountBody.row])
    refine ⟨?_, ?_, low.tenant, low.now, ?_⟩
    · unfold World.own
      rw [own, own, low.own]
    · simp
    · unfold World.own
      rw [own]
      -- the key of the new row is not taken
      have fresh : ∀ row ∈ w.own A, row.channelId = body.channelId →
          row.accountKey ≠ accountKey := by
        intro row mem channel key
        refine free (List.any_eq_true.mpr ⟨row, mem, ?_⟩)
        simp [(mem_own.mp mem).2, channel, key]
      intro row mem other mem' channel key
      rcases List.mem_cons.mp mem with rfl | old <;> rcases List.mem_cons.mp mem' with rfl | old'
      · rfl
      · exact absurd key.symm (fresh other old' channel.symm)
      · exact absurd key (fresh row old channel)
      · exact low.keys row old other old' channel key

theorem low_update (organizationId actorUserId : String) (accountId : Nat) (patch : AccountPatch)
    (low : Low A w w') : Low A (updateChannelAccount w organizationId actorUserId accountId patch)
      (updateChannelAccount w' organizationId actorUserId accountId patch) := by
  refine ⟨?_, low.nextId, low.tenant, low.now, ?_⟩
  · rw [own_update, own_update, low.own]
  · rw [own_update]
    intro row mem other mem' channel key
    obtain ⟨before, there, rfl⟩ := List.mem_map.mp mem
    obtain ⟨before', there', rfl⟩ := List.mem_map.mp mem'
    have stays (row : AccountRow) : row.channelId = (if row.organizationId = organizationId &&
        row.account.id = accountId then row.patched actorUserId patch else row).channelId ∧
        row.accountKey = (if row.organizationId = organizationId &&
        row.account.id = accountId then row.patched actorUserId patch else row).accountKey := by
      split <;> exact ⟨rfl, rfl⟩
    rw [low.keys before there before' there'
      ((stays before).1.trans (channel.trans (stays before').1.symm))
      ((stays before).2.trans (key.trans (stays before').2.symm))]

theorem low_delete (accountId : Nat) (low : Low A w w') :
    Low A (deleteChannelAccount w A accountId) (deleteChannelAccount w' A accountId) := by
  refine ⟨?_, low.nextId, ?_, low.now, ?_⟩
  · rw [own_delete, own_delete, low.own]
  · simp [deleteChannelAccount, World.setTenant, low.tenant]
  · rw [own_delete]
    intro row mem other mem'
    exact low.keys row (List.mem_filter.mp mem).1 other (List.mem_filter.mp mem').1

/-- Another organization's tables are not seen. -/
theorem low_request (organizationId : String) (change : Tenant → Tenant) (low : Low A w w') :
    Low A (w.setTenant organizationId (change (w.tenants organizationId)))
      (w'.setTenant organizationId (change (w'.tenants organizationId))) := by
  refine ⟨low.own, low.nextId, ?_, low.now, low.keys⟩
  show Function.update .. = Function.update ..
  by_cases is : A = organizationId
  · subst is
    rw [Function.update_self, Function.update_self, low.tenant]
  · rw [Function.update_of_ne is, Function.update_of_ne is]
    exact low.tenant

/-! ### Webhooks -/

/-- The row a lookup finds has the channel and the key. -/
theorem lookup_mem {accounts : List AccountRow} {channelId accountKey : String} {plan : Nat}
    {row : AccountRow} (found : getChannelAccountByChannelAndKeyGlobal accounts channelId accountKey
      plan = some row) : row ∈ accounts ∧ row.keyed channelId accountKey := by
  unfold getChannelAccountByChannelAndKeyGlobal at found
  obtain ⟨mem, is⟩ := List.mem_filter.mp (List.mem_of_getElem? found)
  exact ⟨mem, by simpa [AccountRow.keyed] using is⟩

theorem lookup_exists {accounts : List AccountRow} {channelId accountKey : String}
    {row : AccountRow} (mem : row ∈ accounts) (is : row.keyed channelId accountKey) (plan : Nat) :
    ∃ other, getChannelAccountByChannelAndKeyGlobal accounts channelId accountKey plan =
      some other := by
  unfold getChannelAccountByChannelAndKeyGlobal
  have there : row ∈ accounts.filter fun row =>
      row.channelId = channelId && row.accountKey = accountKey :=
    List.mem_filter.mpr ⟨mem, by simpa [AccountRow.keyed] using is⟩
  have filled := List.length_pos_of_mem there
  exact ⟨_, List.getElem?_eq_getElem (Nat.mod_lt plan filled)⟩

/-- Under a key of its own an organization is found whatever the plan. -/
theorem lookup_own (low : Low A w w) {payload : Payload parse} (own : OwnKey A w payload)
    {row : AccountRow} (mem : row ∈ w.own A)
    (is : row.keyed payload.channelId payload.accountKey) (plan : Nat) :
    getChannelAccountByChannelAndKeyGlobal w.accounts payload.channelId payload.accountKey plan =
      some row := by
  obtain ⟨there, mine⟩ := mem_own.mp mem
  obtain ⟨other, found⟩ := lookup_exists there is plan
  obtain ⟨otherThere, otherIs⟩ := lookup_mem found
  have otherMine := own ⟨row, there, mine, is⟩ other otherThere otherIs
  have same := low.keys other (mem_own.mpr ⟨otherThere, otherMine⟩) row mem
    (otherIs.1.trans is.1.symm) (otherIs.2.trans is.2.symm)
  rw [found, same]

/-- The row of the organization, if it has one under the key. -/
theorem registered_iff {payload : Payload parse} : Registered A w payload ↔
    ∃ row ∈ w.own A, row.keyed payload.channelId payload.accountKey := by
  unfold Registered
  simp only [mem_own]
  constructor
  · rintro ⟨row, mem, mine, is⟩
    exact ⟨row, ⟨mem, mine⟩, is⟩
  · rintro ⟨row, ⟨mem, mine⟩, is⟩
    exact ⟨row, mem, mine, is⟩

/-- A webhook under another organization's key leaves the organization alone. -/
theorem handleWebhook_elsewhere {payload : Payload parse} {outside : Router.Outside} {plan : Nat}
    (elsewhere : ¬Registered A w payload) :
    (handleWebhook edge w payload outside plan).2.accounts = w.accounts ∧
      (handleWebhook edge w payload outside plan).2.tenants A = w.tenants A := by
  unfold handleWebhook
  split
  · exact ⟨rfl, rfl⟩
  · split
    · exact ⟨rfl, rfl⟩
    · split
      · exact ⟨rfl, rfl⟩
      · next row found =>
        obtain ⟨mem, is⟩ := lookup_mem found
        refine ⟨rfl, Function.update_of_ne (fun mine => ?_) _ _⟩
        exact elsewhere ⟨row, mem, mine.symm, is⟩

/-- What the own row of a webhook's key makes of it. -/
theorem handleWebhook_own {payload : Payload parse} {outside : Router.Outside} {plan : Nat}
    {row : AccountRow} (found : getChannelAccountByChannelAndKeyGlobal w.accounts payload.channelId
      payload.accountKey plan = some row) :
    handleWebhook edge w payload outside plan =
      if !edge.isChannelRuntimeEnabled payload.channelId then (unknown "channel_disabled", w)
      else match edge.registry payload.channelId with
        | none => (unknown "adapter_not_found", w)
        | some adapter =>
          let done := processAccount edge adapter row (w.tenants row.organizationId) w.now payload
            outside
          (done.1, w.setTenant row.organizationId done.2) := by
  unfold handleWebhook
  rw [found]

/-- A webhook under an undisputed key of the organization is handled the same in worlds that are
the same to it. -/
theorem handleWebhook_alike (low : Low A w w') {payload : Payload parse}
    {outside : Router.Outside} {plan plan' : Nat} (registered : Registered A w payload)
    (own : OwnKey A w payload) (own' : OwnKey A w' payload) :
    (handleWebhook edge w payload outside plan).1 =
        (handleWebhook edge w' payload outside plan').1 ∧
      (handleWebhook edge w payload outside plan).2.tenants A =
        (handleWebhook edge w' payload outside plan').2.tenants A := by
  obtain ⟨row, mem, is⟩ := registered_iff.mp registered
  have mine := (mem_own.mp mem).2
  have first := lookup_own (low.trans low.symm) own mem is plan
  have second := lookup_own (low.symm.trans low) own' (low.own ▸ mem) is plan'
  rw [handleWebhook_own first, handleWebhook_own second, mine, low.tenant, low.now]
  split
  · exact ⟨rfl, low.tenant⟩
  · split
    · exact ⟨rfl, low.tenant⟩
    · refine ⟨rfl, ?_⟩
      simp [World.setTenant]

/-- A webhook changes neither accounts nor ids nor the time. -/
theorem handleWebhook_frame (payload : Payload parse) (outside : Router.Outside) (plan : Nat) :
    (handleWebhook edge w payload outside plan).2.accounts = w.accounts ∧
      (handleWebhook edge w payload outside plan).2.nextId = w.nextId ∧
      (handleWebhook edge w payload outside plan).2.now = w.now := by
  unfold handleWebhook
  split
  · exact ⟨rfl, rfl, rfl⟩
  · split
    · exact ⟨rfl, rfl, rfl⟩
    · split <;> exact ⟨rfl, rfl, rfl⟩

/-- The organization's worlds stay the same when the same event is taken. -/
theorem low_seen (low : Low A w w') {e f : Event parse} (meets : Undisputed A w e)
    (meets' : Undisputed A w' f) (same : SameButPlan e f) :
    Low A (step edge w e) (step edge w' f) := by
  have webhook (payload : Payload parse) (outside : Router.Outside) (plan plan' : Nat)
      (own : OwnKey A w payload) (own' : OwnKey A w' payload) :
      Low A (handleWebhook edge w payload outside plan).2
        (handleWebhook edge w' payload outside plan').2 := by
    obtain ⟨accounts, nextId, now⟩ := @handleWebhook_frame _ edge w payload outside plan
    obtain ⟨accounts', nextId', now'⟩ := @handleWebhook_frame _ edge w' payload outside plan'
    refine ⟨?_, ?_, ?_, ?_, ?_⟩
    · unfold World.own
      rw [accounts, accounts']
      exact low.own
    · rw [nextId, nextId']
      exact low.nextId
    · by_cases registered : Registered A w payload
      · exact (handleWebhook_alike low registered own own').2
      · have registered' : ¬Registered A w' payload := by
          rw [registered_iff, ← low.own, ← registered_iff]
          exact registered
        rw [(handleWebhook_elsewhere registered).2, (handleWebhook_elsewhere registered').2]
        exact low.tenant
    · rw [now, now']
      exact low.now
    · unfold World.own
      rw [accounts]
      exact low.keys
  cases same with
  | webhook payload outside plan plan' => exact webhook payload outside plan plan' meets meets'
  | refl =>
    cases e with
    | createAccount organizationId actorUserId body =>
      by_cases is : A = organizationId
      · subst is
        exact low_create actorUserId body low
      · exact low_unseen_both is rfl low
    | updateAccount organizationId actorUserId accountId patch =>
      exact low_update organizationId actorUserId accountId patch low
    | deleteAccount organizationId accountId =>
      by_cases is : A = organizationId
      · subst is
        exact low_delete accountId low
      · exact low_unseen_both is rfl low
    | request organizationId change => exact low_request organizationId change low
    | webhook payload outside plan => exact webhook payload outside plan plan meets meets'
    | wait milliseconds =>
      exact ⟨low.own, low.nextId, low.tenant, congrArg (· + milliseconds) low.now, low.keys⟩

theorem low_founded (tenants : String → Tenant) (now : Nat) :
    Low A (founded tenants now) (founded tenants now) where
  own := rfl
  nextId := rfl
  tenant := rfl
  now := rfl
  keys _ mem := by cases mem

end proofs

/-- Two histories that differ in the accounts of organization `B`, and in the rows that lookups
without an order take. -/
abbrev DifferIn (edge : Edge parse) (C : World → Event parse → Prop) (B : String) (start : World) :
    World → World → Prop :=
  History.Alike (step edge) C (ofAccountsOf B) SameButPlan start

/-- A webhook under a key of organization `A` is processed alike after two histories that differ in
the accounts of `B`, as long as no webhook comes in under a key that another organization has
registered as well. -/
theorem webhooks_alike (edge : Edge parse) {A B : String} (apart : A ≠ B)
    (tenants : String → Tenant) (now : Nat) {w w' : World}
    (histories : DifferIn edge (Undisputed A) B (founded tenants now) w w')
    (payload : Payload parse) (outside : Router.Outside) (plan plan' : Nat)
    (registered : Registered A w payload) (own : OwnKey A w payload)
    (own' : OwnKey A w' payload) :
    (handleWebhook edge w payload outside plan).1 =
      (handleWebhook edge w' payload outside plan').1 := by
  have low : Low A w w' := by
    refine History.Alike.invariant (Low A) (fun _ _ low => low.symm) ?_ ?_ (low_founded tenants now)
      histories
    · intro s t e low _ hides
      exact low_unseen apart hides low
    · intro s t e f low meets meets' same
      exact low_seen low meets meets' same
  exact (handleWebhook_alike low registered own own').1

/-! ### One key of two organizations -/

/-- An organization that lets `ann` write to its first account. -/
def bareTenant : Tenant where
  entries := [{ accountId := 0, scope := "sender", subject := "ann" }]
  markers := []
  conversations := []
  sessions := fun _ => none
  workflows := { rows := [], ids := List.nodup_nil }

def plainEdge : Edge fun _ => some .null where
  isChannelRuntimeEnabled _ := true
  registry _ := some
    { authenticateWebhook := fun _ _ => none
      normalizeWebhook := fun _ payload => some
        { channelId := payload.channelId, conversationId := "chat", senderId := "ann"
          text := "hello", event := .dm, mentionMatched := false, providerMessageId := "m1" } }
  toLowerCase := id
  number _ := []
  hmac := Signatures.spellingHmac
  isUuid _ := true

def slackBody : AccountBody where
  channelId := "slack"
  accountKey := "main"

def slackPayload : Payload fun _ => some .null where
  channelId := "slack"
  accountKey := "main"
  request := { raw := "", body := .null, parsed := rfl, headers := fun _ => none
               receivedAtMs := 0 }

def allWell : Router.Outside where
  sessionSent := true
  triggered _ := true

def ofAnn : Event fun _ => some .null := .createAccount "acme" "ann" slackBody

def ofBen (channelId : String) : Event fun _ => some .null :=
  .createAccount "byte" "ben" { slackBody with channelId := channelId }

def reach (events : List (Event fun _ => some .null)) : World :=
  events.foldl (step plainEdge) (founded (fun _ => bareTenant) 0)

theorem registered_ann (events : List (Event fun _ => some .null))
    (there : (reach events).accounts.any (fun row => row.organizationId = "acme" &&
      row.channelId = "slack" && row.accountKey = "main") = true) :
    Registered "acme" (reach events) slackPayload := by
  obtain ⟨row, mem, is⟩ := List.any_eq_true.mp there
  simp only [Bool.and_eq_true, decide_eq_true_eq] at is
  exact ⟨row, mem, is.1.1, is.1.2, is.2⟩

theorem ownKey_ann (events : List (Event fun _ => some .null))
    (only : (reach events).accounts.all (fun row => row.channelId ≠ "slack" ||
      row.accountKey ≠ "main" || row.organizationId = "acme") = true) :
    OwnKey "acme" (reach events) slackPayload := by
  intro _ row mem is
  have mine := List.all_eq_true.mp only row mem
  obtain ⟨channel, key⟩ : row.channelId = "slack" ∧ row.accountKey = "main" := is
  simpa [channel, key] using mine

/-- Organization `byte` has an account on another channel, or none. -/
theorem webhooks_alike_apart :
    (handleWebhook plainEdge (reach [ofAnn]) slackPayload allWell 0).1 =
      (handleWebhook plainEdge (reach [ofAnn, ofBen "zalo"]) slackPayload allWell 1).1 := by
  have apart : "acme" ≠ "byte" := by decide
  have histories : DifferIn plainEdge (Undisputed "acme") "byte" (founded (fun _ => bareTenant) 0)
      (reach [ofAnn]) (reach [ofAnn, ofBen "zalo"]) :=
    .right (e := ofBen "zalo") (.both .start trivial trivial (SameButPlan.refl ofAnn)) trivial rfl
  exact webhooks_alike plainEdge apart _ 0 histories slackPayload allWell 0 1
    (registered_ann _ (by decide)) (ownKey_ann _ (by decide)) (ownKey_ann _ (by decide))

/-- When organization `byte` takes the key as well, the webhook reaches it. -/
theorem webhook_misdirected : ¬∀ {parse : String → Option Json} (edge : Edge parse) {A B : String},
    A ≠ B → ∀ (tenants : String → Tenant) (now : Nat) {w w' : World},
      DifferIn edge (fun _ _ => True) B (founded tenants now) w w' →
        ∀ (payload : Payload parse) (outside : Router.Outside) (plan plan' : Nat),
          Registered A w payload → Registered A w' payload →
            (handleWebhook edge w payload outside plan).1 =
              (handleWebhook edge w' payload outside plan').1 := by
  intro claim
  have apart : "acme" ≠ "byte" := by decide
  have histories : DifferIn plainEdge (fun _ _ => True) "byte" (founded (fun _ => bareTenant) 0)
      (reach [ofAnn]) (reach [ofAnn, ofBen "slack"]) :=
    .right (e := ofBen "slack") (.both .start trivial trivial (SameButPlan.refl ofAnn)) trivial rfl
  have same := claim plainEdge apart _ 0 histories slackPayload allWell 0 0
    (registered_ann _ (by decide)) (registered_ann _ (by decide))
  have reaches : (handleWebhook plainEdge (reach [ofAnn]) slackPayload allWell 0).1.organizationId =
      some "acme" := by decide
  have misses : (handleWebhook plainEdge (reach [ofAnn, ofBen "slack"]) slackPayload allWell
      0).1.organizationId = some "byte" := by decide
  rw [same, misses] at reaches
  exact absurd reaches (by decide)

end Vespid.Channels.Ingress
