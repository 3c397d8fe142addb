import Mathlib.Algebra.Order.Floor.Semiring
import Mathlib.Data.Rat.Floor
import Vespid.Lib.Tx

/-!
# Replies to a channel

`sendSessionReply` posts a reply to the account's webhook until a post succeeds or the attempts
are used up, and then records the outcome in `channel_messages` in one transaction, together with
the conversation and an event. The result it returns is the one it has recorded, where it returns.
-/

namespace Vespid.Channels.Outbound

open Sql

/-! ### Posting -/

/-- What `postOutboundWebhook` does: it returns, or throws with a message. -/
inductive Post where
  | accepted
  | refused (message : String)
  deriving DecidableEq

inductive Status where
  | accepted | deadLetter | failed | channelDisabled | accountUnavailable
  deriving DecidableEq

/-- The variables of the loop. `posts` are the attempts at which it has posted. -/
structure Sending where
  status : Status
  errorMessage : Option String
  attemptCount : Nat
  delivered : Bool
  posts : List Nat

def unsent : Sending where
  status := .failed
  errorMessage := none
  attemptCount := 0
  delivered := false
  posts := []

/-- The loop over the attempts that are left. -/
def postFrom (outboundMaxAttempts : Rat) (post : Nat → Post) : List Nat → Sending → Sending
  | [], sending => sending
  | attempt :: rest, sending =>
    let posts := sending.posts ++ [attempt]
    match post attempt with
    | .accepted =>
      { status := .accepted, errorMessage := none, attemptCount := attempt, delivered := true,
        posts }
    | .refused message =>
      let failed := { sending with errorMessage := some message, attemptCount := attempt, posts }
      if outboundMaxAttempts ≤ attempt then { failed with status := .deadLetter }
      else postFrom outboundMaxAttempts post rest failed

/-- The attempts with `attempt <= outboundMaxAttempts`. -/
def attempts (outboundMaxAttempts : Rat) : List Nat := List.range' 1 ⌊outboundMaxAttempts⌋₊

/-- The loop, where the account has a webhook. -/
def sendOut (outboundMaxAttempts : Rat) (post : Nat → Post) (webhookUrl : Option String) :
    Sending :=
  match webhookUrl with
  | some _ => postFrom outboundMaxAttempts post (attempts outboundMaxAttempts) unsent
  | none => { unsent with errorMessage := some "CHANNEL_OUTBOUND_WEBHOOK_URL_MISSING" }

/-! ### The tables -/

inductive Direction where
  | inbound | outbound
  deriving DecidableEq

structure ChannelSessionSource where
  channelId : String
  accountId : String
  accountKey : String
  conversationId : String
  providerMessageId : String

structure SessionReplyInput where
  organizationId : String
  sessionId : String
  sessionEventSeq : Int
  source : ChannelSessionSource
  text : String

structure OutboundPayload where
  organizationId : String
  source : ChannelSessionSource
  text : String
  sessionId : String
  sessionEventSeq : Int
  generatedAt : String

/-- A row of `channel_messages`. -/
structure ChannelMessage where
  organizationId : String
  accountId : String
  conversationId : String
  direction : Direction
  providerMessageId : String
  sessionEventSeq : Option Int
  status : Status
  attemptCount : Int
  payload : Option OutboundPayload
  error : Option String

/-- A row of `channel_events`. -/
structure ChannelEvent where
  accountId : String
  conversationId : String
  message : String
  providerMessageId : String
  sessionId : String
  status : Status
  attemptCount : Int
  sessionEventSeq : Int

structure Tables where
  messages : List ChannelMessage
  conversations : List (String × String)
  events : List ChannelEvent

/-- The columns of `channel_messages_provider_unique`. -/
structure MessageKey where
  accountId : String
  direction : Direction
  providerMessageId : String
  deriving DecidableEq

def ChannelMessage.key (row : ChannelMessage) : MessageKey where
  accountId := row.accountId
  direction := row.direction
  providerMessageId := row.providerMessageId

/-- A column of type `int`. -/
def Int4 (n : Int) : Prop := -2147483648 ≤ n ∧ n ≤ 2147483647

instance : DecidablePred Int4 := fun _ => inferInstanceAs (Decidable (_ ∧ _))

def ChannelSessionSource.texts (source : ChannelSessionSource) : List String :=
  [source.channelId, source.accountId, source.accountKey, source.conversationId,
    source.providerMessageId]

def OutboundPayload.texts (payload : OutboundPayload) : List String :=
  [payload.organizationId, payload.text, payload.sessionId, payload.generatedAt] ++
    payload.source.texts

def ChannelMessage.texts (row : ChannelMessage) : List String :=
  [row.accountId, row.conversationId, row.providerMessageId] ++ row.error.toList ++
    row.payload.toList.flatMap (·.texts)

/-- The database stores no NUL in a text or a JSON document. -/
def takesText (text : String) : Bool := !text.toList.contains '\x00'

def insertMessage (row : ChannelMessage) (tables : Tables) :
    Except Failure (ChannelMessage × Tables) :=
  if ¬ (Int4 row.attemptCount ∧ ∀ seq ∈ row.sessionEventSeq, Int4 seq) then .error .outOfRange
  else if !row.texts.all takesText then .error .invalidText
  else if tables.messages.any (·.key = row.key) then .error .uniqueViolation
  else .ok (row, { tables with messages := tables.messages ++ [row] })

def createChannelMessage (row : ChannelMessage) : Tx Tables ChannelMessage :=
  insertOrRead (insertMessage row)
    (fun tables => tables.messages.find? (·.key = row.key))
    "Failed to read existing channel message"

def insertConversation (accountId conversationId : String) (tables : Tables) :
    Except Failure (Unit × Tables) :=
  if !takesText conversationId then .error .invalidText
  else if (accountId, conversationId) ∈ tables.conversations then .error .uniqueViolation
  else .ok ((), { tables with
    conversations := tables.conversations ++ [(accountId, conversationId)] })

/-- The time of the last message, which nothing here reads, is left out. -/
def upsertChannelConversation (accountId conversationId : String) : Tx Tables Unit := do
  let existing ← Tx.statement fun tables =>
    .ok (decide ((accountId, conversationId) ∈ tables.conversations), tables)
  if existing then Tx.statement fun tables => .ok ((), tables)
  else Tx.statement (insertConversation accountId conversationId)

def ChannelEvent.texts (event : ChannelEvent) : List String :=
  [event.accountId, event.conversationId, event.message, event.providerMessageId, event.sessionId]

def appendChannelEvent (event : ChannelEvent) : Tx Tables Unit :=
  Tx.statement fun tables =>
    if !event.texts.all takesText then .error .invalidText
    else .ok ((), { tables with events := tables.events ++ [event] })

/-! ### The reply -/

structure ChannelAccount where
  id : String
  enabled : Bool
  webhookUrl : Option String

structure SessionReplyResult where
  delivered : Bool
  status : Status
  attemptCount : Nat
  providerMessageId : String
  error : Option String

def providerMessageId (payload : SessionReplyInput) : String :=
  "session:" ++ payload.sessionId ++ ":" ++ toString payload.sessionEventSeq

def outboundPayload (payload : SessionReplyInput) (generatedAt : String) : OutboundPayload where
  organizationId := payload.organizationId
  source := payload.source
  text := payload.text
  sessionId := payload.sessionId
  sessionEventSeq := payload.sessionEventSeq
  generatedAt := generatedAt

/-- The row that records the outcome; an empty message is left out as if there were none. -/
def recordOf (payload : SessionReplyInput) (account : ChannelAccount) (generatedAt : String)
    (sending : Sending) : ChannelMessage where
  organizationId := payload.organizationId
  accountId := account.id
  conversationId := payload.source.conversationId
  direction := .outbound
  providerMessageId := providerMessageId payload
  sessionEventSeq := some payload.sessionEventSeq
  status := sending.status
  attemptCount := sending.attemptCount
  payload := some (outboundPayload payload generatedAt)
  error := sending.errorMessage.filter (· ≠ "")

def eventOf (payload : SessionReplyInput) (account : ChannelAccount) (sending : Sending) :
    ChannelEvent where
  accountId := account.id
  conversationId := payload.source.conversationId
  message :=
    if sending.delivered then "Outbound delivery accepted"
    else if sending.status = .deadLetter then "Outbound delivery moved to dead letter"
    else sending.errorMessage.getD "Outbound delivery failed"
  providerMessageId := providerMessageId payload
  sessionId := payload.sessionId
  status := sending.status
  attemptCount := sending.attemptCount
  sessionEventSeq := payload.sessionEventSeq

/-- The code of the recording transaction. -/
def record (payload : SessionReplyInput) (account : ChannelAccount) (generatedAt : String)
    (sending : Sending) : Tx Tables Unit := do
  let _ ← createChannelMessage (recordOf payload account generatedAt sending)
  upsertChannelConversation account.id payload.source.conversationId
  appendChannelEvent (eventOf payload account sending)

/-- What `sendSessionReply` meets: the account the database has, the webhook's answers. -/
structure Surroundings where
  outboundMaxAttempts : Rat
  /-- `Math.max(1, …)` -/
  positive : 1 ≤ outboundMaxAttempts
  enabledChannels : String → Bool
  account : Option ChannelAccount
  post : Nat → Post
  generatedAt : String

/-- The posts, the result or what it throws, and the tables. -/
structure Reply where
  posts : List Nat
  result : Except Failure SessionReplyResult
  tables : Tables

def notSent (payload : SessionReplyInput) (status : Status) (error : String) (tables : Tables) :
    Reply where
  posts := []
  result := .ok
    { delivered := false, status, attemptCount := 0,
      providerMessageId := providerMessageId payload, error := some error }
  tables := tables

def sendSessionReply (around : Surroundings) (payload : SessionReplyInput) (tables : Tables) :
    Reply :=
  if !around.enabledChannels payload.source.channelId then
    notSent payload .channelDisabled "CHANNEL_DISABLED" tables
  else match around.account with
    | none => notSent payload .accountUnavailable "ACCOUNT_UNAVAILABLE" tables
    | some account =>
      if !account.enabled then notSent payload .accountUnavailable "ACCOUNT_UNAVAILABLE" tables
      else
        let sending := sendOut around.outboundMaxAttempts around.post account.webhookUrl
        match transact (record payload account around.generatedAt sending) tables with
        | (.error failure, tables) =>
          { posts := sending.posts, result := .error failure, tables := tables }
        | (.ok _, tables) =>
          { posts := sending.posts
            result := .ok
              { delivered := sending.delivered
                status := sending.status
                attemptCount := sending.attemptCount
                providerMessageId := providerMessageId payload
                error := sending.errorMessage }
            tables }

/-! ### The loop -/

section loop
variable {outboundMaxAttempts : Rat} {post : Nat → Post}

/-- The posts up to the first one that succeeds. -/
def postsUntil (post : Nat → Post) : List Nat → List Nat
  | [] => []
  | attempt :: rest =>
    match post attempt with
    | .accepted => [attempt]
    | .refused _ => attempt :: postsUntil post rest

theorem postsUntil_sublist (post : Nat → Post) (planned : List Nat) :
    (postsUntil post planned).Sublist planned := by
  induction planned with
  | nil => exact .slnil
  | cons attempt rest ih =>
    unfold postsUntil
    cases post attempt with
    | accepted => exact (List.nil_sublist rest).cons_cons attempt
    | refused message => exact ih.cons_cons attempt

/-- No post comes after one that has succeeded. -/
theorem postsUntil_stops (post : Nat → Post) (planned : List Nat) :
    (postsUntil post planned).Pairwise fun earlier _ => post earlier ≠ .accepted := by
  induction planned with
  | nil => exact .nil
  | cons attempt rest ih =>
    unfold postsUntil
    cases answered : post attempt with
    | accepted => exact List.pairwise_singleton _ _
    | refused message =>
      refine List.pairwise_cons.mpr ⟨?_, ih⟩
      intro _ _
      simp [answered]

theorem postsUntil_accepted (post : Nat → Post) (planned : List Nat) :
    (∃ attempt ∈ postsUntil post planned, post attempt = .accepted) ↔
      ∃ attempt ∈ planned, post attempt = .accepted := by
  induction planned with
  | nil => simp [postsUntil]
  | cons attempt rest ih =>
    unfold postsUntil
    cases answered : post attempt with
    | accepted => simp [answered]
    | refused message => simp [answered, ih]

/-- What the loop leaves behind after these attempts, of which `len` were planned. -/
structure Sent (post : Nat → Post) (start len : Nat) (before after : Sending) : Prop where
  posts : after.posts = before.posts ++ postsUntil post (List.range' start len)
  delivered : after.delivered = true ↔ ∃ attempt ∈ List.range' start len, post attempt = .accepted
  count : 0 < len →
    after.attemptCount + 1 = start + (postsUntil post (List.range' start len)).length
  accepted : after.delivered = true → after.errorMessage = none
  refused : after.delivered = false → 0 < len → ∃ message,
    post (start + len - 1) = .refused message ∧ after.errorMessage = some message

theorem postFrom_sent (len start : Nat) (sending : Sending) (fresh : sending.delivered = false)
    (within : ∀ attempt ∈ List.range' start len, (attempt : Rat) ≤ outboundMaxAttempts) :
    Sent post start len sending
      (postFrom outboundMaxAttempts post (List.range' start len) sending) := by
  induction len generalizing start sending with
  | zero =>
    refine ⟨by simp [postFrom, postsUntil], by simp [postFrom, fresh], nofun, ?_, nofun⟩
    intro delivered
    rw [List.range'_zero, postFrom, fresh] at delivered
    cases delivered
  | succ len ih =>
    rw [List.range'_succ] at within ⊢
    unfold postFrom
    cases answered : post start with
    | accepted =>
      constructor
      · simp [List.range'_succ, postsUntil, answered]
      · simp [List.range'_succ, answered]
      · simp [List.range'_succ, postsUntil, answered]
      · intro _
        rfl
      · intro failed
        cases failed
    | refused message =>
      dsimp only
      by_cases last : outboundMaxAttempts ≤ start
      · -- the next attempt would not be within the bound
        have none : len = 0 := by
          by_contra more
          have next := within (start + 1) (List.mem_cons_of_mem _ (by
            rw [List.mem_range'_1]
            omega))
          push_cast at next
          linarith
        subst none
        rw [if_pos last]
        constructor
        · simp [List.range'_succ, postsUntil, answered]
        · simp [List.range'_succ, answered, fresh]
        · simp [List.range'_succ, postsUntil, answered]
        · intro delivered
          rw [fresh] at delivered
          cases delivered
        · intro _ _
          exact ⟨message, by simpa using answered, rfl⟩
      · rw [if_neg last]
        have rest := ih (start + 1) { sending with
            errorMessage := some message, attemptCount := start,
            posts := sending.posts ++ [start] } fresh
          fun attempt member => within attempt (List.mem_cons_of_mem _ member)
        constructor
        · rw [rest.posts, List.range'_succ]
          simp [postsUntil, answered]
        · rw [rest.delivered, List.range'_succ]
          simp [answered]
        · intro _
          rw [List.range'_succ]
          simp only [postsUntil, answered, List.length_cons]
          cases len with
          | zero => simp [postFrom, postsUntil]
          | succ len =>
            rw [rest.count (by omega)]
            omega
        · exact rest.accepted
        · intro failed _
          cases len with
          | zero => exact ⟨message, by simpa using answered, rfl⟩
          | succ len =>
            obtain ⟨text, refused, same⟩ := rest.refused failed (by omega)
            exact ⟨text, by rw [← refused]; congr 1; omega, same⟩

end loop

/-- The number of the last attempt. -/
def lastAttempt (around : Surroundings) : Nat := ⌊around.outboundMaxAttempts⌋₊

theorem lastAttempt_pos (around : Surroundings) : 0 < lastAttempt around :=
  Nat.floor_pos.mpr around.positive

theorem sendOut_sent (around : Surroundings) (webhookUrl : String) :
    Sent around.post 1 (lastAttempt around) unsent
      (sendOut around.outboundMaxAttempts around.post (some webhookUrl)) := by
  apply postFrom_sent _ _ _ rfl
  intro attempt member
  rw [List.mem_range'_1] at member
  have below : attempt ≤ ⌊around.outboundMaxAttempts⌋₊ := by
    unfold lastAttempt at member
    omega
  exact (Nat.le_floor_iff (by linarith [around.positive])).mp below

/-- A number of posts is within a bound where the plan is, or where one of the first succeeds. -/
theorem postsUntil_length_le {post : Nat → Post} (len start bound : Nat) :
    (postsUntil post (List.range' start len)).length ≤ bound ↔
      len ≤ bound ∨ ∃ attempt, start ≤ attempt ∧ attempt < start + min len bound ∧
        post attempt = .accepted := by
  induction len generalizing start bound with
  | zero => simp [postsUntil]
  | succ len ih =>
    rw [List.range'_succ]
    unfold postsUntil
    cases answered : post start with
    | accepted =>
      cases bound with
      | zero =>
        simp
        intro _ _ _
        omega
      | succ bound =>
        simp only [List.length_singleton, Nat.le_add_left, true_iff]
        exact .inr ⟨start, by omega, by omega, answered⟩
    | refused message =>
      cases bound with
      | zero =>
        simp
        intro _ _ _
        omega
      | succ bound =>
        rw [List.length_cons, Nat.add_le_add_iff_right, ih (start + 1) bound,
          Nat.add_le_add_iff_right]
        refine or_congr_right ?_
        constructor
        · intro ⟨attempt, low, high, accepted⟩
          exact ⟨attempt, by omega, by omega, accepted⟩
        · intro ⟨attempt, low, high, accepted⟩
          have later : attempt ≠ start := by
            intro same
            rw [same, answered] at accepted
            cases accepted
          exact ⟨attempt, by omega, by omega, accepted⟩

/-! ### The record -/

variable {payload : SessionReplyInput} {account : ChannelAccount} {generatedAt : String}
  {sending : Sending} {tables : Tables}

theorem insertMessage_ok_iff {row : ChannelMessage} :
    (∃ after, insertMessage row tables = .ok after) ↔
      Int4 row.attemptCount ∧ (∀ seq ∈ row.sessionEventSeq, Int4 seq) ∧
        (∀ text ∈ row.texts, takesText text = true) ∧
        ∀ other ∈ tables.messages, other.key ≠ row.key := by
  unfold insertMessage
  by_cases numbers : Int4 row.attemptCount ∧ ∀ seq ∈ row.sessionEventSeq, Int4 seq
  · rw [if_neg (by simpa using numbers)]
    by_cases texts : row.texts.all takesText = true
    · rw [if_neg (by simp [texts])]
      by_cases taken : tables.messages.any (·.key = row.key) = true
      · rw [if_pos taken]
        simp only [List.any_eq_true, decide_eq_true_eq] at taken
        obtain ⟨other, member, same⟩ := taken
        simp only [reduceCtorEq, exists_false, false_iff]
        intro all
        exact all.2.2.2 other member same
      · rw [if_neg taken]
        simp only [List.any_eq_true, decide_eq_true_eq, not_exists, not_and] at taken
        simp only [List.all_eq_true] at texts
        exact iff_of_true ⟨_, rfl⟩ ⟨numbers.1, numbers.2, texts, taken⟩
    · rw [if_pos (by simpa using texts)]
      simp only [reduceCtorEq, exists_false, false_iff]
      intro all
      exact texts (List.all_eq_true.mpr all.2.2.1)
  · rw [if_pos numbers]
    simp only [reduceCtorEq, exists_false, false_iff]
    intro all
    exact numbers ⟨all.1, all.2.1⟩

theorem insertMessage_after {row : ChannelMessage} {after : ChannelMessage × Tables}
    (inserted : insertMessage row tables = .ok after) :
    after = (row, { tables with messages := tables.messages ++ [row] }) := by
  unfold insertMessage at inserted
  split at inserted
  · cases inserted
  split at inserted
  · cases inserted
  split at inserted
  · cases inserted
  · exact (Except.ok.inj inserted).symm

theorem upsert_ok (accountId conversationId : String) (takes : takesText conversationId = true) :
    ∃ after, upsertChannelConversation accountId conversationId
        { tables := tables, aborted := false } = (.ok (), { tables := after, aborted := false }) ∧
      after.messages = tables.messages := by
  unfold upsertChannelConversation
  by_cases existing : (accountId, conversationId) ∈ tables.conversations
  · refine ⟨tables, ?_, rfl⟩
    rw [bind_ok (statement_ok rfl)]
    simp only [existing, decide_true, ↓reduceIte]
    exact statement_ok rfl
  · refine ⟨{ tables with conversations := tables.conversations ++ [(accountId, conversationId)] },
      ?_, rfl⟩
    rw [bind_ok (statement_ok rfl)]
    simp only [existing, decide_false, Bool.false_eq_true, ↓reduceIte]
    apply statement_ok
    simp [insertConversation, takes, existing]

theorem append_ok (event : ChannelEvent) (takes : event.texts.all takesText = true) :
    appendChannelEvent event { tables := tables, aborted := false } =
      (.ok (), { tables := { tables with events := tables.events ++ [event] },
                 aborted := false }) := by
  apply statement_ok
  simp [takes]

/-- Nothing that the message has stored is refused by the conversation or the event. -/
theorem eventOf_texts (texts : ∀ text ∈ (recordOf payload account generatedAt sending).texts,
      takesText text = true) : (eventOf payload account sending).texts.all takesText = true := by
  have stored : takesText (eventOf payload account sending).message = true := by
    unfold eventOf
    dsimp only
    split
    · decide
    split
    · decide
    cases message : sending.errorMessage with
    | none => decide
    | some text =>
      by_cases empty : text = ""
      · rw [empty]
        decide
      · exact texts text (by simp [recordOf, ChannelMessage.texts, message, empty])
  rw [List.all_eq_true]
  intro text member
  simp only [ChannelEvent.texts, List.mem_cons, List.not_mem_nil, or_false] at member
  obtain rfl | rfl | rfl | rfl | rfl := member
  · exact texts _ (by simp [recordOf, eventOf, ChannelMessage.texts])
  · exact texts _ (by simp [recordOf, eventOf, ChannelMessage.texts])
  · exact stored
  · exact texts _ (by simp [recordOf, eventOf, ChannelMessage.texts])
  · exact texts _ (by simp [recordOf, eventOf, ChannelMessage.texts, outboundPayload,
      OutboundPayload.texts])

theorem record_ok {after : ChannelMessage × Tables}
    (inserted : insertMessage (recordOf payload account generatedAt sending) tables = .ok after) :
    ∃ recorded, transact (record payload account generatedAt sending) tables = (.ok (), recorded) ∧
      recorded.messages = tables.messages ++ [recordOf payload account generatedAt sending] := by
  have texts := (insertMessage_ok_iff.mp ⟨after, inserted⟩).2.2.1
  rw [insertMessage_after inserted] at inserted
  have conversation : takesText payload.source.conversationId = true :=
    texts _ (by simp [recordOf, ChannelMessage.texts])
  let inserted' : Tables := { tables with
    messages := tables.messages ++ [recordOf payload account generatedAt sending] }
  obtain ⟨upserted, ran, same⟩ :=
    @upsert_ok inserted' account.id payload.source.conversationId conversation
  refine ⟨{ upserted with events := upserted.events ++ [eventOf payload account sending] }, ?_,
    same⟩
  unfold transact record createChannelMessage
  rw [bind_ok (insertOrRead_ok _ _ inserted), bind_ok ran, append_ok _ (eventOf_texts texts)]
  rfl

theorem record_error {failure : Failure}
    (refused : insertMessage (recordOf payload account generatedAt sending) tables =
      .error failure) :
    ∃ failure', transact (record payload account generatedAt sending) tables =
      (.error failure', tables) := by
  obtain ⟨failure', ran⟩ := insertOrRead_error
    (fun tables => tables.messages.find?
      (·.key = (recordOf payload account generatedAt sending).key))
    "Failed to read existing channel message" refused
  refine ⟨failure', ?_⟩
  unfold transact record createChannelMessage
  rw [bind_error ran]

/-! ### What a call comes to -/

def replyKey (payload : SessionReplyInput) (account : ChannelAccount) : MessageKey where
  accountId := account.id
  direction := .outbound
  providerMessageId := providerMessageId payload

/-- The texts of the record that the call is given. -/
def givenTexts (around : Surroundings) (payload : SessionReplyInput) (account : ChannelAccount) :
    List String :=
  [account.id, payload.source.conversationId, providerMessageId payload] ++
    (outboundPayload payload around.generatedAt).texts

/-- The reply is posted within the bound and not after a success, the call returns whether a post
succeeded, and one row has the outcome that it returns. -/
structure Truthful (around : Surroundings) (payload : SessionReplyInput)
    (account : ChannelAccount) (reply : Reply) : Prop where
  bounded : (reply.posts.length : Rat) ≤ around.outboundMaxAttempts
  stops : reply.posts.Pairwise fun earlier _ => around.post earlier ≠ .accepted
  recorded : ∃ result row, reply.result = .ok result ∧
    (result.delivered = true ↔ ∃ attempt ∈ reply.posts, around.post attempt = .accepted) ∧
    reply.tables.messages.filter (·.key = replyKey payload account) = [row] ∧
    row.status = result.status ∧ row.attemptCount = result.attemptCount ∧
    row.error = result.error ∧ Int4 row.attemptCount ∧ ∀ seq ∈ row.sessionEventSeq, Int4 seq

/-- The outcome can be stored as it is. -/
structure Recordable (around : Surroundings) (payload : SessionReplyInput)
    (account : ChannelAccount) (tables : Tables) : Prop where
  seq : Int4 payload.sessionEventSeq
  free : ∀ row ∈ tables.messages, row.key ≠ replyKey payload account
  texts : ∀ text ∈ givenTexts around payload account, takesText text = true
  few : account.webhookUrl ≠ none → lastAttempt around ≤ 2147483647 ∨
    ∃ attempt, 1 ≤ attempt ∧ attempt ≤ 2147483647 ∧ attempt ≤ lastAttempt around ∧
      around.post attempt = .accepted
  message : account.webhookUrl ≠ none →
    (∀ attempt, 1 ≤ attempt → attempt ≤ lastAttempt around → around.post attempt ≠ .accepted) →
      ∀ message, around.post (lastAttempt around) = .refused message →
        message ≠ "" ∧ takesText message = true

def sendingOf (around : Surroundings) (account : ChannelAccount) : Sending :=
  sendOut around.outboundMaxAttempts around.post account.webhookUrl

/-- The row can be stored and says what is returned. -/
def Stored (around : Surroundings) (payload : SessionReplyInput) (account : ChannelAccount)
    (tables : Tables) : Prop :=
  (∃ after, insertMessage (recordOf payload account around.generatedAt (sendingOf around account))
      tables = .ok after) ∧ (sendingOf around account).errorMessage ≠ some ""

theorem recordOf_texts : (∀ text ∈ (recordOf payload account generatedAt sending).texts,
      takesText text = true) ↔
    (∀ text ∈ [account.id, payload.source.conversationId, providerMessageId payload] ++
      (outboundPayload payload generatedAt).texts, takesText text = true) ∧
      ∀ message, sending.errorMessage = some message → message ≠ "" →
        takesText message = true := by
  simp only [ChannelMessage.texts, recordOf, Option.toList_some, List.flatMap_cons,
    List.flatMap_nil, List.append_nil, List.forall_mem_append]
  cases given : sending.errorMessage with
  | none => simp
  | some message =>
    by_cases empty : message = ""
    · simp [empty]
    · simp only [Option.filter_some, ne_eq, empty, not_false_eq_true, decide_true, ↓reduceIte,
        Option.toList_some, List.forall_mem_singleton, Option.some.injEq, forall_eq',
        forall_const]
      tauto

/-- The attempts made are as many as were needed. -/
theorem few_iff (around : Surroundings) (url : String) :
    Int4 ((sendOut around.outboundMaxAttempts around.post (some url)).attemptCount : Int) ↔
      lastAttempt around ≤ 2147483647 ∨ ∃ attempt, 1 ≤ attempt ∧ attempt ≤ 2147483647 ∧
        attempt ≤ lastAttempt around ∧ around.post attempt = .accepted := by
  have sent := sendOut_sent around url
  have count := sent.count (lastAttempt_pos around)
  have length := @postsUntil_length_le around.post (lastAttempt around) 1 2147483647
  have same : Int4 ((sendOut around.outboundMaxAttempts around.post (some url)).attemptCount : Int) ↔
      (postsUntil around.post (List.range' 1 (lastAttempt around))).length ≤ 2147483647 := by
    unfold Int4
    omega
  rw [same, length]
  refine or_congr_right ?_
  constructor
  · intro ⟨attempt, low, high, accepted⟩
    exact ⟨attempt, low, by omega, by omega, accepted⟩
  · intro ⟨attempt, low, high, within, accepted⟩
    exact ⟨attempt, low, by omega, accepted⟩

/-- An error is that of the last attempt. -/
theorem message_iff (around : Surroundings) (url : String) (holds : String → Prop) :
    (∀ message, (sendOut around.outboundMaxAttempts around.post (some url)).errorMessage =
        some message → holds message) ↔
      ((∀ attempt, 1 ≤ attempt → attempt ≤ lastAttempt around →
          around.post attempt ≠ .accepted) →
        ∀ message, around.post (lastAttempt around) = .refused message → holds message) := by
  have sent := sendOut_sent around url
  have pos := lastAttempt_pos around
  have delivered : (sendOut around.outboundMaxAttempts around.post (some url)).delivered = true ↔
      ∃ attempt, (1 ≤ attempt ∧ attempt ≤ lastAttempt around) ∧
        around.post attempt = .accepted := by
    rw [sent.delivered]
    refine exists_congr fun attempt => and_congr_left fun _ => ?_
    rw [List.mem_range'_1]
    omega
  cases success : (sendOut around.outboundMaxAttempts around.post (some url)).delivered with
  | true =>
    obtain ⟨attempt, ⟨low, high⟩, accepted⟩ := delivered.mp success
    rw [sent.accepted success]
    refine iff_of_true nofun ?_
    intro none
    exact absurd accepted (none attempt low high)
  | false =>
    obtain ⟨message, refused, same⟩ := sent.refused success pos
    rw [Nat.add_sub_cancel_left] at refused
    have none : ∀ attempt, 1 ≤ attempt → attempt ≤ lastAttempt around →
        around.post attempt ≠ .accepted := by
      intro attempt low high accepted
      rw [delivered.mpr ⟨attempt, ⟨low, high⟩, accepted⟩] at success
      cases success
    rw [same, refused]
    simp only [Option.some.injEq, forall_eq', Post.refused.injEq]
    exact ⟨fun holds _ => holds, fun holds => holds none⟩

theorem stored_iff (around : Surroundings) (payload : SessionReplyInput)
    (account : ChannelAccount) (tables : Tables) :
    Stored around payload account tables ↔ Recordable around payload account tables := by
  unfold Stored
  rw [insertMessage_ok_iff, recordOf_texts]
  have seq : (∀ seq ∈ (recordOf payload account around.generatedAt
      (sendingOf around account)).sessionEventSeq, Int4 seq) ↔ Int4 payload.sessionEventSeq := by
    simp [recordOf]
  rw [seq]
  have messages : (∀ message, (sendingOf around account).errorMessage = some message →
        message ≠ "" ∧ takesText message = true) ↔
      (∀ message, (sendingOf around account).errorMessage = some message → message ≠ "" →
        takesText message = true) ∧ (sendingOf around account).errorMessage ≠ some "" := by
    constructor
    · intro all
      exact ⟨fun message same _ => (all message same).2, fun same => (all "" same).1 rfl⟩
    · intro ⟨texts, filled⟩ message same
      have nonempty : message ≠ "" := by
        rintro rfl
        exact filled same
      exact ⟨nonempty, texts message same nonempty⟩
  cases url : account.webhookUrl with
  | none =>
    have sending : sendingOf around account =
        { unsent with errorMessage := some "CHANNEL_OUTBOUND_WEBHOOK_URL_MISSING" } := by
      rw [sendingOf, url]
      rfl
    rw [sending] at messages ⊢
    constructor
    · intro ⟨⟨_, seq, ⟨texts, _⟩, free⟩, _⟩
      exact ⟨seq, free, texts, fun some => absurd url some, fun some => absurd url some⟩
    · intro recordable
      refine ⟨⟨by simp [recordOf, unsent, Int4], recordable.seq, ⟨recordable.texts, ?_⟩,
        recordable.free⟩, by decide⟩
      intro message same _
      rw [← Option.some.inj same]
      decide
  | some webhookUrl =>
    have sending : sendingOf around account =
        sendOut around.outboundMaxAttempts around.post (some webhookUrl) := by
      rw [sendingOf, url]
    have few := few_iff around webhookUrl
    have last := message_iff around webhookUrl fun message => message ≠ "" ∧
      takesText message = true
    rw [← sending] at few last
    constructor
    · intro ⟨⟨count, seq, ⟨texts, texts'⟩, free⟩, filled⟩
      exact ⟨seq, free, texts, fun _ => few.mp count, fun _ => last.mp (messages.mpr ⟨texts', filled⟩)⟩
    · intro recordable
      have given : account.webhookUrl ≠ none := by simp [url]
      obtain ⟨texts', filled⟩ := messages.mp (last.mpr (recordable.message given))
      exact ⟨⟨few.mpr (recordable.few given), recordable.seq, ⟨recordable.texts, texts'⟩,
        recordable.free⟩, filled⟩

theorem sendSessionReply_enabled {around : Surroundings}
    (channel : around.enabledChannels payload.source.channelId = true)
    (found : around.account = some account) (enabled : account.enabled = true) :
    sendSessionReply around payload tables =
      match transact (record payload account around.generatedAt (sendingOf around account))
          tables with
      | (.error failure, after) =>
        { posts := (sendingOf around account).posts, result := .error failure, tables := after }
      | (.ok _, after) =>
        { posts := (sendingOf around account).posts
          result := .ok
            { delivered := (sendingOf around account).delivered
              status := (sendingOf around account).status
              attemptCount := (sendingOf around account).attemptCount
              providerMessageId := providerMessageId payload
              error := (sendingOf around account).errorMessage }
          tables := after } := by
  simp [sendSessionReply, channel, found, enabled, sendingOf]

/-- Whatever becomes of the record, the posts are within the bound and end with a success. -/
theorem posts_bounded (around : Surroundings) (account : ChannelAccount) :
    ((sendingOf around account).posts.length : Rat) ≤ around.outboundMaxAttempts ∧
      ((sendingOf around account).posts.Pairwise fun earlier _ =>
        around.post earlier ≠ .accepted) ∧
      ((sendingOf around account).delivered = true ↔
        ∃ attempt ∈ (sendingOf around account).posts, around.post attempt = .accepted) := by
  have positive := around.positive
  unfold sendingOf
  cases account.webhookUrl with
  | none =>
    refine ⟨?_, .nil, by simp [sendOut, unsent]⟩
    simp only [sendOut, unsent, List.length_nil, Nat.cast_zero]
    linarith
  | some url =>
    have sent := sendOut_sent around url
    have posts : (sendOut around.outboundMaxAttempts around.post (some url)).posts =
        postsUntil around.post (List.range' 1 (lastAttempt around)) := sent.posts
    rw [posts, sent.delivered, postsUntil_accepted]
    refine ⟨?_, postsUntil_stops _ _, Iff.rfl⟩
    have short := (postsUntil_sublist around.post (List.range' 1 (lastAttempt around))).length_le
    rw [List.length_range'] at short
    exact (Nat.le_floor_iff (by linarith)).mp short

theorem truthful_iff_stored {around : Surroundings}
    (channel : around.enabledChannels payload.source.channelId = true)
    (found : around.account = some account) (enabled : account.enabled = true) :
    Truthful around payload account (sendSessionReply around payload tables) ↔
      Stored around payload account tables := by
  rw [sendSessionReply_enabled channel found enabled]
  obtain ⟨bounded, stops, delivered⟩ := posts_bounded around account
  cases inserted : insertMessage (recordOf payload account around.generatedAt
      (sendingOf around account)) tables with
  | error failure =>
    obtain ⟨failure', ran⟩ := record_error inserted
    rw [ran]
    constructor
    · intro truthful
      obtain ⟨result, _, returned, _⟩ := truthful.recorded
      cases returned
    · intro stored
      obtain ⟨⟨after, stored⟩, -⟩ := stored
      rw [inserted] at stored
      cases stored
  | ok after =>
    obtain ⟨recorded, ran, messages⟩ := record_ok inserted
    obtain ⟨count, seq, -, free⟩ := insertMessage_ok_iff.mp ⟨after, inserted⟩
    rw [ran]
    have one : recorded.messages.filter (·.key = replyKey payload account) =
        [recordOf payload account around.generatedAt (sendingOf around account)] := by
      rw [messages, List.filter_append]
      have none : tables.messages.filter (·.key = replyKey payload account) = [] := by
        rw [List.filter_eq_nil_iff]
        intro row member same
        exact free row member (of_decide_eq_true same)
      rw [none]
      simp [recordOf, replyKey, ChannelMessage.key]
    have error : (sendingOf around account).errorMessage.filter (· ≠ "") =
        (sendingOf around account).errorMessage ↔
          (sendingOf around account).errorMessage ≠ some "" := by
      cases (sendingOf around account).errorMessage with
      | none => simp
      | some message => simp [Option.filter_some]
    constructor
    · intro truthful
      obtain ⟨result, row, returned, -, only, -, -, same, -⟩ := truthful.recorded
      refine ⟨⟨after, inserted⟩, error.mp ?_⟩
      rw [one] at only
      cases only
      cases returned
      exact same
    · intro stored
      refine ⟨bounded, stops, _, _, rfl, delivered, one, rfl, rfl, error.mpr stored.2, count, seq⟩

/-- A call for an enabled account in an enabled channel records truthfully what it returns exactly
where the outcome can be stored as it is. -/
theorem reply_truthful_iff (around : Surroundings) (payload : SessionReplyInput)
    (account : ChannelAccount) (tables : Tables)
    (channel : around.enabledChannels payload.source.channelId = true)
    (found : around.account = some account) (enabled : account.enabled = true) :
    Truthful around payload account (sendSessionReply around payload tables) ↔
      Recordable around payload account tables :=
  (truthful_iff_stored channel found enabled).trans (stored_iff around payload account tables)

theorem sendSessionReply_posts {around : Surroundings}
    (channel : around.enabledChannels payload.source.channelId = true)
    (found : around.account = some account) (enabled : account.enabled = true) :
    (sendSessionReply around payload tables).posts = (sendingOf around account).posts := by
  rw [sendSessionReply_enabled channel found enabled]
  split <;> rfl

/-! ### Two calls -/

def supportAccount : ChannelAccount where
  id := "account-1"
  enabled := true
  webhookUrl := some "https://hooks.example.org/out"

/-- The webhook fails once and then accepts. -/
def flaky : Surroundings where
  outboundMaxAttempts := 3
  positive := by norm_num
  enabledChannels _ := true
  account := some supportAccount
  post attempt := if attempt = 1 then .refused "CHANNEL_OUTBOUND_FAILED:503:" else .accepted
  generatedAt := "2026-02-01T09:00:00.000Z"

def emptyTables : Tables := { messages := [], conversations := [], events := [] }

def replyTo (sessionId : String) (sessionEventSeq : Int) : SessionReplyInput where
  organizationId := "org-1"
  sessionId := sessionId
  sessionEventSeq := sessionEventSeq
  source := { channelId := "telegram", accountId := "account-1", accountKey := "main",
              conversationId := "chat-7", providerMessageId := "m-1" }
  text := "hello"

theorem reply_truthful_flaky :
    Truthful flaky (replyTo "session-1" 12) supportAccount
      (sendSessionReply flaky (replyTo "session-1" 12) emptyTables) := by
  refine (reply_truthful_iff flaky (replyTo "session-1" 12) supportAccount emptyTables rfl rfl
    rfl).mpr ⟨by decide, by simp [emptyTables], by decide, ?_, ?_⟩
  · intro _
    refine .inr ⟨2, by omega, by omega, ?_, rfl⟩
    norm_num [lastAttempt, flaky]
  · intro _ none
    refine absurd ?_ (none 2 (by omega) (by norm_num [lastAttempt, flaky]))
    rfl

/-- A test reply numbered by the clock, on 2 February 2026: it is posted, and no row is left. -/
theorem test_send_unrecorded :
    (sendSessionReply flaky (replyTo "channel-test:account-1" 1770000000000) emptyTables).posts =
        [1, 2] ∧
      flaky.post 2 = .accepted ∧
      ¬ Truthful flaky (replyTo "channel-test:account-1" 1770000000000) supportAccount
        (sendSessionReply flaky (replyTo "channel-test:account-1" 1770000000000) emptyTables) := by
  refine ⟨?_, rfl, ?_⟩
  · rw [sendSessionReply_posts rfl rfl rfl]
    have posts := (sendOut_sent flaky "https://hooks.example.org/out").posts
    rw [show lastAttempt flaky = 3 by norm_num [lastAttempt, flaky]] at posts
    exact posts
  · rw [truthful_iff_stored rfl rfl rfl, stored_iff]
    intro recordable
    have seq := recordable.seq
    simp [replyTo, Int4] at seq

end Vespid.Channels.Outbound
