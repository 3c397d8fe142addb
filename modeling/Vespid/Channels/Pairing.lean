import Mathlib.Data.List.Nodup
import Vespid.Channels.Webhook
import Vespid.Lib.History
import Vespid.Scheduler.Cron

/-!
# Pairing requests and the allowlist

The gateway admits the sender of a direct message by the allowlist of the account, and opens a
pairing request for one it does not admit. The API decides requests; it does so whatever their
status and age, and an approval does not enter the requester in the allowlist.
-/

namespace Vespid.Channels.Pairing

inductive ChannelDmPolicy where
  | pairing | allowlist | open_ | disabled
  deriving DecidableEq

inductive ChannelGroupPolicy where
  | allowlist | open_ | disabled
  deriving DecidableEq

inductive ChannelMessageEventType where
  | received | mentioned | dm
  deriving DecidableEq

/-- What the security check reads of a message. -/
structure ChannelInboundEnvelope where
  conversationId : String
  senderId : String
  event : ChannelMessageEventType
  mentionMatched : Bool

structure ChannelAllowlistEntry where
  accountId : Nat
  scope : String
  subject : String
  deriving DecidableEq

/-- What the security check reads of an account. -/
structure Account where
  id : Nat
  dmPolicy : ChannelDmPolicy
  groupPolicy : ChannelGroupPolicy
  requireMentionInGroup : Bool
  deriving DecidableEq

section security
variable (toLowerCase : List Char → List Char)

/-- `scope.trim().toLowerCase()` -/
def normalizedScope (scope : String) : List Char := toLowerCase (Scheduler.trim scope.toList)

def hasEntry (entries : List ChannelAllowlistEntry) (scope subject : String) : Bool :=
  entries.any fun entry =>
    normalizedScope toLowerCase entry.scope = normalizedScope toLowerCase scope &&
      entry.subject = subject

def wildcardAllowed (entries : List ChannelAllowlistEntry) (scopes : List String) : Bool :=
  scopes.any fun scope => hasEntry toLowerCase entries scope "*"

def senderAllowed (entries : List ChannelAllowlistEntry) (senderId : String)
    (extraScopes : List String) : Bool :=
  ("sender" :: extraScopes).any fun scope => hasEntry toLowerCase entries scope senderId

def denied (reason : String) : ChannelSecurityDecision :=
  { accepted := false, requiresPairing := false, reason }

def admitted : ChannelSecurityDecision :=
  { accepted := true, requiresPairing := false, reason := "accepted" }

def evaluateChannelSecurity (envelope : ChannelInboundEnvelope) (account : Account)
    (entries : List ChannelAllowlistEntry) : ChannelSecurityDecision :=
  let senderAllowedForDm := senderAllowed toLowerCase entries envelope.senderId ["dm"]
  let senderAllowedForGroup := senderAllowed toLowerCase entries envelope.senderId ["group"]
  let groupAllowed := hasEntry toLowerCase entries "group" envelope.conversationId ||
    hasEntry toLowerCase entries "conversation" envelope.conversationId || senderAllowedForGroup
  if envelope.event = .dm then
    match account.dmPolicy with
    | .disabled => denied "dm_disabled"
    | .pairing =>
      if !senderAllowedForDm then { denied "dm_pairing_required" with requiresPairing := true }
      else admitted
    | .allowlist => if !senderAllowedForDm then denied "dm_allowlist_denied" else admitted
    | .open_ =>
      if !wildcardAllowed toLowerCase entries ["dm", "sender"] then
        denied "dm_open_requires_wildcard"
      else admitted
  else if account.groupPolicy = .disabled then denied "group_disabled"
  else if account.requireMentionInGroup && !envelope.mentionMatched then
    denied "group_mention_required"
  else if account.groupPolicy = .allowlist ∧ groupAllowed = false then
    denied "group_allowlist_denied"
  else if account.groupPolicy = .open_ ∧
      wildcardAllowed toLowerCase entries ["group", "conversation", "sender"] = false then
    denied "group_open_requires_wildcard"
  else admitted

end security

/-! ### The tables -/

inductive PairingStatus where
  | pending | approved | rejected
  deriving DecidableEq

/-- A row of `channel_pairing_requests`. -/
structure PairingRequest where
  id : Nat
  accountId : Nat
  requesterId : String
  status : PairingStatus
  expiresAt : Nat
  approvedAt : Option Nat
  rejectedAt : Option Nat
  deriving DecidableEq

inductive Verdict where
  | approved | rejected
  deriving DecidableEq

/-- A decision of an operator, with the time it was made and the expiry of the request. -/
structure Decision where
  requestId : Nat
  madeAt : Nat
  expiresAt : Nat
  deriving DecidableEq

/-- The tables and the time; `grants` has what operators put on the allowlist and what they
approved in time, less what they removed. -/
structure Office where
  accounts : List Account
  entries : List ChannelAllowlistEntry
  requests : List PairingRequest
  nextId : Nat
  now : Nat
  grants : List ChannelAllowlistEntry
  decisions : List Decision

inductive Event where
  | inbound (account : Account) (envelope : ChannelInboundEnvelope)
  | putEntry (entry : ChannelAllowlistEntry)
  | deleteEntry (entry : ChannelAllowlistEntry)
  | decide (requestId : Nat) (verdict : Verdict)
  | wait (milliseconds : Nat)

section step
variable (toLowerCase : List Char → List Char)

def listChannelAllowlistEntries (s : Office) (accountId : Nat) : List ChannelAllowlistEntry :=
  s.entries.filter fun entry => entry.accountId = accountId

/-- The check of an inbound message. -/
def security (s : Office) (account : Account) (envelope : ChannelInboundEnvelope) :
    ChannelSecurityDecision :=
  evaluateChannelSecurity toLowerCase envelope account (listChannelAllowlistEntries s account.id)

def putChannelAllowlistEntry (entries : List ChannelAllowlistEntry)
    (entry : ChannelAllowlistEntry) : List ChannelAllowlistEntry :=
  if entry ∈ entries then entries else entry :: entries

def deleteChannelAllowlistEntry (entries : List ChannelAllowlistEntry)
    (entry : ChannelAllowlistEntry) : List ChannelAllowlistEntry :=
  entries.filter fun other => other ≠ entry

def createChannelPairingRequest (s : Office) (accountId : Nat) (requesterId : String) : Office :=
  { s with
    requests := { id := s.nextId, accountId, requesterId, status := .pending,
                  expiresAt := s.now + 24 * 60 * 60 * 1000, approvedAt := none,
                  rejectedAt := none } :: s.requests
    nextId := s.nextId + 1 }

def decided (now : Nat) (verdict : Verdict) (request : PairingRequest) : PairingRequest :=
  match verdict with
  | .approved => { request with status := .approved, approvedAt := some now, rejectedAt := none }
  | .rejected => { request with status := .rejected, rejectedAt := some now, approvedAt := none }

def updateChannelPairingRequestStatus (now : Nat) (requests : List PairingRequest)
    (requestId : Nat) (verdict : Verdict) : List PairingRequest :=
  requests.map fun request => if request.id = requestId then decided now verdict request else request

/-- The entry an approval stands for. -/
def PairingRequest.entry (request : PairingRequest) : ChannelAllowlistEntry :=
  { accountId := request.accountId, scope := "dm", subject := request.requesterId }

/-- What an operator's decision grants: an approval of a pending, unexpired request. -/
def grantsOf (s : Office) (requestId : Nat) (verdict : Verdict) : List ChannelAllowlistEntry :=
  (s.requests.filter fun request => request.id = requestId && request.status = .pending &&
    s.now < request.expiresAt && verdict = .approved).map (·.entry)

def decisionsOf (s : Office) (requestId : Nat) : List Decision :=
  (s.requests.filter fun request => request.id = requestId).map fun request =>
    { requestId, madeAt := s.now, expiresAt := request.expiresAt }

def step (s : Office) : Event → Office
  | .inbound account envelope =>
    if account ∈ s.accounts ∧ (security toLowerCase s account envelope).requiresPairing = true then
      createChannelPairingRequest s account.id envelope.senderId
    else s
  | .putEntry entry =>
    { s with entries := putChannelAllowlistEntry s.entries entry, grants := entry :: s.grants }
  | .deleteEntry entry =>
    { s with
      entries := deleteChannelAllowlistEntry s.entries entry
      grants := s.grants.filter fun other => other ≠ entry }
  | .decide requestId verdict =>
    { s with
      requests := updateChannelPairingRequestStatus s.now s.requests requestId verdict
      grants := grantsOf s requestId verdict ++ s.grants
      decisions := decisionsOf s requestId ++ s.decisions }
  | .wait milliseconds => { s with now := s.now + milliseconds }

end step

def noRequests (accounts : List Account) : Office where
  accounts := accounts
  entries := []
  requests := []
  nextId := 0
  now := 0
  grants := []
  decisions := []

/-! ### The claim and its condition -/

/-- An operator let the sender in, by the allowlist or by an approval, and did not remove that. -/
def LetIn (toLowerCase : List Char → List Char) (s : Office) (account : Account)
    (senderId : String) : Prop :=
  ∃ grant ∈ s.grants, grant.accountId = account.id ∧ grant.subject = senderId ∧
    ∃ scope ∈ ["sender", "dm"],
      normalizedScope toLowerCase grant.scope = normalizedScope toLowerCase scope

/-- Under the policy `pairing` a direct message is accepted exactly if its sender was let in, and
requests are decided once and in time. -/
structure Paired (toLowerCase : List Char → List Char) (s : Office) : Prop where
  admits : ∀ account ∈ s.accounts, account.dmPolicy = .pairing →
    ∀ envelope, envelope.event = .dm →
      ((security toLowerCase s account envelope).accepted = true ↔
        LetIn toLowerCase s account envelope.senderId)
  once : (s.decisions.map (·.requestId)).Nodup
  inTime : ∀ decision ∈ s.decisions, decision.madeAt < decision.expiresAt

/-- A request is decided while it is pending and unexpired, and approved only when its requester is
on the allowlist under the scope `dm`. -/
def HandedOver (s : Office) : Event → Prop
  | .decide requestId verdict => ∀ request ∈ s.requests, request.id = requestId →
      request.status = .pending ∧ s.now < request.expiresAt ∧
        (verdict = .approved → request.entry ∈ s.entries)
  | _ => True

instance (s : Office) (e : Event) : Decidable (HandedOver s e) := by
  cases e <;> unfold HandedOver <;> infer_instance

/-! ### The invariant -/

/-- What was granted is what the allowlist has; decided requests are not pending. -/
structure OfficeInv (s : Office) : Prop where
  granted : ∀ entry, entry ∈ s.grants ↔ entry ∈ s.entries
  ids : (s.requests.map (·.id)).Nodup
  below : ∀ request ∈ s.requests, request.id < s.nextId
  once : (s.decisions.map (·.requestId)).Nodup
  inTime : ∀ decision ∈ s.decisions, decision.madeAt < decision.expiresAt
  past : ∀ decision ∈ s.decisions, ∃ request ∈ s.requests, request.id = decision.requestId ∧
    request.status ≠ .pending

section proofs
variable {toLowerCase : List Char → List Char} {s : Office}

theorem decided_id (now : Nat) (verdict : Verdict) (request : PairingRequest) :
    (decided now verdict request).id = request.id := by
  cases verdict <;> rfl

theorem decided_status (now : Nat) (verdict : Verdict) (request : PairingRequest) :
    (decided now verdict request).status ≠ .pending := by
  cases verdict <;> exact PairingStatus.noConfusion

theorem ids_update (now : Nat) (requests : List PairingRequest) (requestId : Nat)
    (verdict : Verdict) :
    (updateChannelPairingRequestStatus now requests requestId verdict).map (·.id) =
      requests.map (·.id) := by
  unfold updateChannelPairingRequestStatus
  rw [List.map_map]
  refine List.map_congr_left fun request _ => ?_
  simp only [Function.comp]
  split
  · exact decided_id ..
  · rfl

/-- The requests of one id. -/
theorem decisionsOf_cases (inv : OfficeInv s) (requestId : Nat) :
    decisionsOf s requestId = [] ∨ ∃ request ∈ s.requests, request.id = requestId ∧
      decisionsOf s requestId =
        [{ requestId, madeAt := s.now, expiresAt := request.expiresAt }] := by
  unfold decisionsOf
  cases found : s.requests.filter fun request => request.id = requestId with
  | nil => exact .inl rfl
  | cons request rest =>
    right
    have ofId {other : PairingRequest} (mem : other ∈ request :: rest) :
        other ∈ s.requests ∧ other.id = requestId := by
      rw [← found] at mem
      obtain ⟨there, is⟩ := List.mem_filter.mp mem
      exact ⟨there, by simpa using is⟩
    obtain ⟨mem, is⟩ := ofId List.mem_cons_self
    have single : rest = [] := by
      refine List.eq_nil_iff_forall_not_mem.mpr fun other there => ?_
      obtain ⟨inS, same⟩ := ofId (List.mem_cons_of_mem _ there)
      have nodup : (request :: rest).Nodup := found ▸ (inv.ids.of_map _).filter _
      refine (List.nodup_cons.mp nodup).1 ?_
      rwa [List.inj_on_of_nodup_map inv.ids mem inS (is.trans same.symm)]
    subst single
    exact ⟨request, mem, is, rfl⟩

theorem officeInv_step (inv : OfficeInv s) (e : Event) (handed : HandedOver s e) :
    OfficeInv (step toLowerCase s e) := by
  cases e with
  | inbound account envelope =>
    simp only [step]
    split
    · refine ⟨inv.granted, List.nodup_cons.mpr ⟨fun again => ?_, inv.ids⟩, fun request mem => ?_,
        inv.once, inv.inTime, fun decision mem => ?_⟩
      · obtain ⟨request, mem, same⟩ := List.mem_map.mp again
        have small := inv.below request mem
        have taken : request.id = s.nextId := same
        omega
      · rcases List.mem_cons.mp mem with rfl | old
        · exact Nat.lt_succ_self _
        · exact Nat.lt_succ_of_lt (inv.below request old)
      · obtain ⟨request, there, is⟩ := inv.past decision mem
        exact ⟨request, List.mem_cons_of_mem _ there, is⟩
    · exact inv
  | putEntry entry =>
    refine ⟨fun other => ?_, inv.ids, inv.below, inv.once, inv.inTime, inv.past⟩
    show other ∈ entry :: s.grants ↔ other ∈ putChannelAllowlistEntry s.entries entry
    unfold putChannelAllowlistEntry
    rw [List.mem_cons, inv.granted]
    split
    · next has =>
      constructor
      · rintro (rfl | mem)
        · exact has
        · exact mem
      · exact .inr
    · rw [List.mem_cons]
  | deleteEntry entry =>
    refine ⟨fun other => ?_, inv.ids, inv.below, inv.once, inv.inTime, inv.past⟩
    show other ∈ s.grants.filter _ ↔ other ∈ deleteChannelAllowlistEntry s.entries entry
    unfold deleteChannelAllowlistEntry
    rw [List.mem_filter, List.mem_filter, inv.granted]
  | decide requestId verdict =>
    unfold HandedOver at handed
    refine ⟨fun entry => ?_, ?_, fun request mem => ?_, ?_, fun decision mem => ?_,
      fun decision mem => ?_⟩
    · show entry ∈ grantsOf s requestId verdict ++ s.grants ↔ entry ∈ s.entries
      rw [List.mem_append, inv.granted]
      constructor
      · rintro (new | old)
        · obtain ⟨request, mem, rfl⟩ := List.mem_map.mp new
          obtain ⟨there, is⟩ := List.mem_filter.mp mem
          simp only [Bool.and_eq_true, decide_eq_true_eq] at is
          exact (handed request there is.1.1.1).2.2 is.2
        · exact old
      · exact .inr
    · show (List.map _ (updateChannelPairingRequestStatus ..)).Nodup
      rw [ids_update]
      exact inv.ids
    · obtain ⟨before, there, rfl⟩ := List.mem_map.mp mem
      have small := inv.below before there
      split
      · rw [decided_id]
        exact small
      · exact small
    · show (List.map _ (decisionsOf s requestId ++ s.decisions)).Nodup
      rcases decisionsOf_cases inv requestId with none_ | ⟨request, mem, rfl, one⟩
      · rw [none_]
        exact inv.once
      · rw [one]
        refine List.nodup_cons.mpr ⟨fun again => ?_, inv.once⟩
        obtain ⟨decision, there, same⟩ := List.mem_map.mp again
        obtain ⟨other, inS, is, ended⟩ := inv.past decision there
        exact ended (handed other inS (is.trans same)).1
    · rcases List.mem_append.mp mem with new | old
      · obtain ⟨request, there, rfl⟩ := List.mem_map.mp new
        obtain ⟨inS, is⟩ := List.mem_filter.mp there
        exact (handed request inS (by simpa using is)).2.1
      · exact inv.inTime decision old
    · rcases List.mem_append.mp mem with new | old
      · obtain ⟨request, there, rfl⟩ := List.mem_map.mp new
        obtain ⟨inS, is⟩ := List.mem_filter.mp there
        have is : request.id = requestId := by simpa using is
        refine ⟨_, List.mem_map.mpr ⟨request, inS, rfl⟩, ?_⟩
        rw [if_pos is, decided_id]
        exact ⟨is, decided_status _ _ _⟩
      · obtain ⟨request, inS, is, ended⟩ := inv.past decision old
        refine ⟨_, List.mem_map.mpr ⟨request, inS, rfl⟩, ?_⟩
        split
        · rw [decided_id]
          exact ⟨is, decided_status _ _ _⟩
        · exact ⟨is, ended⟩
  | wait milliseconds =>
    exact ⟨inv.granted, inv.ids, inv.below, inv.once, inv.inTime, inv.past⟩

theorem senderAllowed_iff (entries : List ChannelAllowlistEntry) (senderId : String) :
    senderAllowed toLowerCase entries senderId ["dm"] = true ↔ ∃ entry ∈ entries,
      entry.subject = senderId ∧ ∃ scope ∈ ["sender", "dm"],
        normalizedScope toLowerCase entry.scope = normalizedScope toLowerCase scope := by
  unfold senderAllowed hasEntry
  simp only [List.any_eq_true, Bool.and_eq_true, decide_eq_true_eq]
  constructor
  · rintro ⟨scope, known, entry, mem, same, subject⟩
    exact ⟨entry, mem, subject, scope, known, same⟩
  · rintro ⟨entry, mem, subject, scope, known, same⟩
    exact ⟨scope, known, entry, mem, same, subject⟩

/-- Under the policy `pairing` the allowlist decides. -/
theorem security_accepted {account : Account} (policy : account.dmPolicy = .pairing)
    {envelope : ChannelInboundEnvelope} (dm : envelope.event = .dm) :
    (security toLowerCase s account envelope).accepted =
      senderAllowed toLowerCase (listChannelAllowlistEntries s account.id) envelope.senderId
        ["dm"] := by
  unfold security evaluateChannelSecurity
  simp only [dm, policy, if_true]
  cases senderAllowed toLowerCase (listChannelAllowlistEntries s account.id) envelope.senderId
    ["dm"] <;> rfl

theorem paired_of_inv (inv : OfficeInv s) : Paired toLowerCase s := by
  refine ⟨fun account _ policy envelope dm => ?_, inv.once, inv.inTime⟩
  rw [security_accepted policy dm, senderAllowed_iff]
  unfold LetIn listChannelAllowlistEntries
  constructor
  · rintro ⟨entry, mem, rest⟩
    obtain ⟨there, is⟩ := List.mem_filter.mp mem
    exact ⟨entry, (inv.granted entry).mpr there, by simpa using is, rest⟩
  · rintro ⟨entry, mem, account, rest⟩
    exact ⟨entry, List.mem_filter.mpr ⟨(inv.granted entry).mp mem, by simpa using account⟩, rest⟩

end proofs

/-- Pairing admits whom operators let in, as long as requests are decided while they are pending and
unexpired, and approved only for requesters on the allowlist. -/
theorem pairing_admits (toLowerCase : List Char → List Char) (accounts : List Account) (s : Office)
    (reached : History.Reached (step toLowerCase) HandedOver (noRequests accounts) s) :
    Paired toLowerCase s := by
  refine paired_of_inv (reached.invariant OfficeInv
    (fun _ e inv handed => officeInv_step inv e handed) ?_)
  constructor <;> simp [noRequests]

/-! ### One sender -/

def pairingAccount : Account where
  id := 0
  dmPolicy := .pairing
  groupPolicy := .allowlist
  requireMentionInGroup := true

def directMessage : ChannelInboundEnvelope where
  conversationId := "chat"
  senderId := "ann"
  event := .dm
  mentionMatched := false

def annsEntry : ChannelAllowlistEntry where
  accountId := 0
  scope := "dm"
  subject := "ann"

/-- The operator enters the requester in the allowlist and then approves the request. -/
theorem pairing_admits_entered : ∃ s,
    History.Reached (step id) HandedOver (noRequests [pairingAccount]) s ∧
      s.decisions.length = 1 ∧ Paired id s := by
  have done : ((History.run (step id) HandedOver (noRequests [pairingAccount])
      [.inbound pairingAccount directMessage, .putEntry annsEntry, .decide 0 .approved]).map
        fun s => s.decisions.length) = some 1 := by decide
  obtain ⟨s, ran, is⟩ := Option.map_eq_some_iff.mp done
  have reached := History.reached_of_run ran
  exact ⟨s, reached, is, pairing_admits id [pairingAccount] s reached⟩

/-- The requester of an approved request is not admitted. -/
theorem approved_not_admitted : ¬ ∀ (toLowerCase : List Char → List Char)
    (accounts : List Account) (s : Office),
      History.Reached (step toLowerCase) (fun _ _ => True) (noRequests accounts) s →
        Paired toLowerCase s := by
  intro claim
  have done : ((History.run (step id) (fun _ _ => True) (noRequests [pairingAccount])
      [.inbound pairingAccount directMessage, .decide 0 .approved]).map
        fun s => (s.accounts, s.grants, s.entries)) =
          some ([pairingAccount], [annsEntry], []) := by decide
  obtain ⟨s, ran, is⟩ := Option.map_eq_some_iff.mp done
  obtain ⟨accounts, rest⟩ := Prod.mk.inj is
  obtain ⟨grants, entries⟩ := Prod.mk.inj rest
  have paired := claim id [pairingAccount] s (History.reached_of_run ran)
  have accepted := (paired.admits pairingAccount (by rw [accounts]; exact List.mem_cons_self) rfl
    directMessage rfl).mpr ⟨annsEntry, by rw [grants]; exact List.mem_cons_self, rfl, rfl, "dm",
      by simp, rfl⟩
  rw [security_accepted rfl rfl, listChannelAllowlistEntries, entries] at accepted
  cases accepted

end Vespid.Channels.Pairing
