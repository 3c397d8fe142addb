import Mathlib.Data.String.Basic
import Vespid.Js
import Vespid.Lib.Pages
import Vespid.Scheduler.Cron

/-!
# Channel triggers

Which workflows an accepted message triggers. The candidates are one page of the organization's
workflow table, newest first, with its drafts and old revisions.
-/

namespace Vespid.Channels.Router

inductive ChannelMessageEventType where
  | dm | mentioned | received
  deriving DecidableEq

def ChannelMessageEventType.name : ChannelMessageEventType → String
  | dm => "message.dm"
  | mentioned => "message.mentioned"
  | received => "message.received"

/-- What of an inbound envelope the triggers look at. -/
structure InboundEnvelope where
  channelId : String
  conversationId : String
  senderId : String
  text : String
  event : ChannelMessageEventType
  mentionMatched : Bool
  deriving DecidableEq

/-- A row of `workflows`; times are in milliseconds. -/
structure WorkflowEntry where
  id : String
  organizationId : String
  status : String
  createdByUserId : String
  dsl : Json
  createdAt : Int

/-- The table; ids are its primary key. -/
structure WorkflowTable where
  rows : List WorkflowEntry
  ids : (rows.map (·.id)).Nodup

structure TriggerMatch where
  textContains : Option String
  senderIn : Option (List String)
  groupIn : Option (List String)

structure TriggerChannelConfig where
  channelId : String
  accountKey : Option String
  event : Option ChannelMessageEventType
  matching : Option TriggerMatch

def stringField (v : Json) (key : String) : Option String :=
  match v.field? key with
  | some (.str s) => some s
  | _ => none

/-- The strings of a field that is an array. -/
def stringsField (v : Json) (key : String) : Option (List String) :=
  match v.field? key with
  | some (.arr items) => some (items.filterMap fun item => match item with
    | .str s => some s
    | _ => none)
  | _ => none

def readObject (v : Option Json) : Option Json :=
  v.filter fun v => v.asObject.isSome

def parseTriggerChannelConfig (dsl : Json) : Option TriggerChannelConfig :=
  (readObject (some dsl)).bind fun dsl => (readObject (dsl.field? "trigger")).bind fun trigger =>
    if stringField trigger "type" ≠ some "trigger.channel" then none
    else (readObject (trigger.field? "config")).bind fun config =>
      (stringField config "channelId").map fun channelId =>
        { channelId
          accountKey := stringField config "accountKey"
          event := (stringField config "event").bind fun event =>
            [ChannelMessageEventType.dm, .mentioned, .received].find? (·.name = event)
          matching := (readObject (config.field? "match")).map fun found =>
            { textContains := stringField found "textContains"
              senderIn := stringsField found "senderIn"
              groupIn := stringsField found "groupIn" } }

def eventMatches (expected : Option ChannelMessageEventType) (envelope : InboundEnvelope) : Bool :=
  match expected with
  | none | some .received => true
  | some .dm => envelope.event = .dm
  | some .mentioned => envelope.mentionMatched || envelope.event = .mentioned

section lower
-- `toLowerCase` of the runtime
variable (lower : List Char → List Char)

def textContainsMatches (needle : Option String) (text : String) : Bool :=
  match needle with
  | none => true
  | some needle =>
    (Scheduler.trim needle.toList).isEmpty ||
      occursIn (lower (Scheduler.trim needle.toList)) (lower text.toList)

def inListMatches (values : Option (List String)) (target : String) : Bool :=
  match values with
  | none => true
  | some values => values.isEmpty || values.contains target

def configMatches (accountKey : String) (envelope : InboundEnvelope)
    (config : TriggerChannelConfig) : Bool :=
  config.channelId = envelope.channelId &&
    (config.accountKey.filter (· ≠ "")).all (· = accountKey) &&
    eventMatches config.event envelope &&
    textContainsMatches lower (config.matching.bind (·.textContains)) envelope.text &&
    inListMatches (config.matching.bind (·.senderIn)) envelope.senderId &&
    inListMatches (config.matching.bind (·.groupIn)) envelope.conversationId

def collectChannelTriggeredWorkflows (workflows : List WorkflowEntry) (envelope : InboundEnvelope)
    (accountKey : String) : List (String × String) :=
  (workflows.filter fun workflow => workflow.status = "published" &&
    (parseTriggerChannelConfig workflow.dsl).any (configMatches lower accountKey envelope)).map
    fun workflow => (workflow.id, workflow.createdByUserId)

/-- `createdAt` and then the id, newest first. -/
def newer (a b : WorkflowEntry) : Bool :=
  b.createdAt < a.createdAt || (a.createdAt = b.createdAt && b.id < a.id)

/-- `listWorkflows` without a cursor. -/
def listWorkflows (table : WorkflowTable) (organizationId : String) (limit : Nat) :
    List WorkflowEntry :=
  Listing.page newer (min 200 (max 1 limit))
    (table.rows.filter (·.organizationId = organizationId))

/-- The account a webhook has come for. -/
structure WebhookAccount where
  organizationId : String
  accountKey : String

/-- What happens outside of the edge to an accepted message. -/
structure Outside where
  /-- The `session_send` of a routed message, if there is one, gets onto the stream. -/
  sessionSent : Bool
  /-- A trigger request is answered with success. -/
  triggered : String → Bool

/-- The triggers posted for an accepted message, with their requesters, and how many of them went
through; a message whose `session_send` throws posts none. -/
def triggerWorkflows (table : WorkflowTable) (account : WebhookAccount)
    (envelope : InboundEnvelope) (outside : Outside) : List (String × String) × Nat :=
  if outside.sessionSent then
    let matched := collectChannelTriggeredWorkflows lower
      (listWorkflows table account.organizationId 200) envelope account.accountKey
    (matched, matched.countP fun posted => outside.triggered posted.1)
  else ([], 0)

/-! ### What is to be triggered -/

/-- A config asks for the message. -/
structure AsksFor (accountKey : String) (envelope : InboundEnvelope)
    (config : TriggerChannelConfig) : Prop where
  channel : config.channelId = envelope.channelId
  account : ∀ key ∈ config.accountKey, key = "" ∨ key = accountKey
  dm : config.event = some .dm → envelope.event = .dm
  mentioned : config.event = some .mentioned →
    envelope.mentionMatched = true ∨ envelope.event = .mentioned
  text : ∀ found ∈ config.matching, ∀ needle ∈ found.textContains,
    Scheduler.trim needle.toList = [] ∨
      lower (Scheduler.trim needle.toList) <:+: lower envelope.text.toList
  sender : ∀ found ∈ config.matching, ∀ senders ∈ found.senderIn,
    senders = [] ∨ envelope.senderId ∈ senders
  group : ∀ found ∈ config.matching, ∀ groups ∈ found.groupIn,
    groups = [] ∨ envelope.conversationId ∈ groups

/-- A published workflow of the account's organization whose trigger asks for the message. -/
structure IsTriggered (account : WebhookAccount) (envelope : InboundEnvelope)
    (workflow : WorkflowEntry) : Prop where
  own : workflow.organizationId = account.organizationId
  published : workflow.status = "published"
  asks : ∃ config, parseTriggerChannelConfig workflow.dsl = some config ∧
    AsksFor lower account.accountKey envelope config

end lower

theorem occursIn_iff {part s : List Char} : occursIn part s = true ↔ part <:+: s := by
  induction s with
  | nil => simp [occursIn]
  | cons c rest ih =>
    rw [occursIn, Bool.or_eq_true, ih, List.isPrefixOf_iff_prefix, List.infix_cons_iff]

variable {lower : List Char → List Char} {accountKey : String} {envelope : InboundEnvelope}

theorem inListMatches_iff {found : Option TriggerMatch}
    {values : TriggerMatch → Option (List String)} {target : String} :
    inListMatches (found.bind values) target = true ↔
      ∀ m ∈ found, ∀ list ∈ values m, list = [] ∨ target ∈ list := by
  cases found with
  | none => simp [inListMatches]
  | some m =>
    cases list : values m with
    | none => simp [inListMatches, list]
    | some list' => simp [inListMatches, list]

theorem textContainsMatches_iff {found : Option TriggerMatch} {text : String} :
    textContainsMatches lower (found.bind (·.textContains)) text = true ↔
      ∀ m ∈ found, ∀ needle ∈ m.textContains, Scheduler.trim needle.toList = [] ∨
        lower (Scheduler.trim needle.toList) <:+: lower text.toList := by
  cases found with
  | none => simp [textContainsMatches]
  | some m =>
    cases needle : m.textContains with
    | none => simp [textContainsMatches, needle]
    | some needle' => simp [textContainsMatches, needle, occursIn_iff]

theorem eventMatches_iff {expected : Option ChannelMessageEventType} :
    eventMatches expected envelope = true ↔
      (expected = some .dm → envelope.event = .dm) ∧
      (expected = some .mentioned →
        envelope.mentionMatched = true ∨ envelope.event = .mentioned) := by
  match expected with
  | none => simp [eventMatches]
  | some .received => simp [eventMatches]
  | some .dm => simp [eventMatches]
  | some .mentioned => simp [eventMatches]

theorem accountMatches_iff {key : Option String} :
    (key.filter (· ≠ "")).all (· = accountKey) = true ↔ ∀ k ∈ key, k = "" ∨ k = accountKey := by
  cases key with
  | none => simp
  | some k =>
    by_cases empty : k = ""
    · simp [empty]
    · simp [empty, Option.filter]

/-- The matcher decides whether a config asks for the message. -/
theorem configMatches_iff {config : TriggerChannelConfig} :
    configMatches lower accountKey envelope config = true ↔
      AsksFor lower accountKey envelope config := by
  simp only [configMatches, Bool.and_eq_true, accountMatches_iff, eventMatches_iff,
    textContainsMatches_iff, inListMatches_iff, decide_eq_true_eq]
  constructor
  · rintro ⟨⟨⟨⟨⟨channel, account⟩, dm, mentioned⟩, text⟩, sender⟩, group⟩
    exact ⟨channel, account, dm, mentioned, text, sender, group⟩
  · rintro ⟨channel, account, dm, mentioned, text, sender, group⟩
    exact ⟨⟨⟨⟨⟨channel, account⟩, dm, mentioned⟩, text⟩, sender⟩, group⟩

/-! ### The page of candidates -/

theorem newer_asymm (a b : WorkflowEntry) (ahead : newer a b = true) : newer b a = false := by
  simp only [newer, Bool.or_eq_true, Bool.and_eq_true, decide_eq_true_eq, Bool.or_eq_false_iff,
    Bool.and_eq_false_iff, decide_eq_false_iff_not] at *
  rcases ahead with later | ⟨same, less⟩
  · exact ⟨by omega, .inl (by omega)⟩
  · exact ⟨by omega, .inr (lt_asymm less)⟩

theorem newer_negTrans (a b c : WorkflowEntry) (first : newer b a = false)
    (second : newer c b = false) : newer c a = false := by
  simp only [newer, Bool.or_eq_false_iff, Bool.and_eq_false_iff, decide_eq_false_iff_not] at *
  refine ⟨by omega, ?_⟩
  by_cases same : c.createdAt = a.createdAt
  · have one := first.2.resolve_left (by omega)
    have two := second.2.resolve_left (by omega)
    exact .inr (not_lt.mpr ((not_lt.mp two).trans (not_lt.mp one)))
  · exact .inl same

theorem newer_total {a b : WorkflowEntry} (apart : a.id ≠ b.id) :
    newer a b = true ∨ newer b a = true := by
  simp only [newer, Bool.or_eq_true, Bool.and_eq_true, decide_eq_true_eq]
  rcases lt_trichotomy a.createdAt b.createdAt with less | same | more
  · exact .inr (.inl less)
  · rcases lt_or_gt_of_ne apart with less | more
    · exact .inr (.inr ⟨same.symm, less⟩)
    · exact .inl (.inr ⟨same, more⟩)
  · exact .inl (.inl more)

namespace WorkflowTable
variable (table : WorkflowTable) (organizationId : String)

def ofOrganization : List WorkflowEntry := table.rows.filter (·.organizationId = organizationId)

theorem id_inj {a b : WorkflowEntry} (here : a ∈ table.rows) (there : b ∈ table.rows)
    (same : a.id = b.id) : a = b :=
  List.inj_on_of_nodup_map table.ids here there same

theorem newer_orders : Listing.Orders newer (table.ofOrganization organizationId) where
  asymm := newer_asymm
  negTrans := newer_negTrans
  total _ here _ there apart :=
    newer_total fun same => apart (table.id_inj (List.mem_of_mem_filter here)
      (List.mem_of_mem_filter there) same)
  nodup := table.ids.of_map.filter _

/-- How many workflows of the organization, drafts and revisions included, are newer. -/
def newerThan (workflow : WorkflowEntry) : Nat :=
  (table.ofOrganization organizationId).countP (newer · workflow)

theorem mem_listWorkflows {workflow : WorkflowEntry} : workflow ∈
    listWorkflows table organizationId 200 ↔ workflow ∈ table.ofOrganization organizationId ∧
      table.newerThan organizationId workflow < 200 := by
  constructor
  · intro on
    have mem := Listing.mem_of_mem_page on
    exact ⟨mem, (Listing.mem_page_iff (table.newer_orders organizationId) mem).mp on⟩
  · rintro ⟨mem, few⟩
    exact (Listing.mem_page_iff (table.newer_orders organizationId) mem).mpr few

theorem mem_rows_of_listed {workflow : WorkflowEntry} {limit : Nat}
    (listed : workflow ∈ listWorkflows table organizationId limit) : workflow ∈ table.rows :=
  List.mem_of_mem_filter (Listing.mem_of_mem_page listed)

end WorkflowTable

/-! ### Every match is triggered -/

variable {table : WorkflowTable} {account : WebhookAccount} {outside : Outside}

theorem mem_triggerWorkflows {posted : String × String} :
    posted ∈ (triggerWorkflows lower table account envelope outside).1 ↔
      outside.sessionSent = true ∧ ∃ workflow ∈ table.rows,
        IsTriggered lower account envelope workflow ∧
        table.newerThan account.organizationId workflow < 200 ∧
        posted = (workflow.id, workflow.createdByUserId) := by
  unfold triggerWorkflows
  split
  · rename_i sent
    simp only [collectChannelTriggeredWorkflows, List.mem_map, List.mem_filter,
      WorkflowTable.mem_listWorkflows, WorkflowTable.ofOrganization, Bool.and_eq_true,
      decide_eq_true_eq, Option.any_eq_true, configMatches_iff, sent, true_and]
    constructor
    · rintro ⟨workflow, ⟨⟨⟨mem, own⟩, few⟩, published, asks⟩, rfl⟩
      exact ⟨workflow, mem, ⟨own, published, asks⟩, few, rfl⟩
    · rintro ⟨workflow, mem, ⟨own, published, asks⟩, few, rfl⟩
      exact ⟨workflow, ⟨⟨⟨mem, own⟩, few⟩, published, asks⟩, rfl⟩
  · simp_all

theorem triggered_once : ((triggerWorkflows lower table account envelope outside).1.map
    (·.1)).Nodup := by
  unfold triggerWorkflows
  split
  · rw [collectChannelTriggeredWorkflows, List.map_map]
    refine List.Nodup.map_on ?_ ((Listing.nodup_page (table.ids.of_map.filter _)).filter _)
    intro a here b there same
    exact table.id_inj (table.mem_rows_of_listed _ (List.mem_of_mem_filter here))
      (table.mem_rows_of_listed _ (List.mem_of_mem_filter there)) same
  · exact List.nodup_nil

/-- The workflows that are to be triggered are, each once, exactly if each of them has fewer than
200 newer workflows and the message's `session_send` goes out. -/
theorem channel_workflows_triggered_iff (lower : List Char → List Char) (table : WorkflowTable)
    (account : WebhookAccount) (envelope : InboundEnvelope) (outside : Outside) :
    (((triggerWorkflows lower table account envelope outside).1.map (·.1)).Nodup ∧
      ∀ id, id ∈ (triggerWorkflows lower table account envelope outside).1.map (·.1) ↔
        ∃ workflow ∈ table.rows, workflow.id = id ∧ IsTriggered lower account envelope workflow) ↔
    ∀ workflow ∈ table.rows, IsTriggered lower account envelope workflow →
      outside.sessionSent = true ∧ table.newerThan account.organizationId workflow < 200 := by
  simp only [triggered_once, true_and, List.mem_map, mem_triggerWorkflows]
  constructor
  · intro exactly workflow mem triggered
    obtain ⟨posted, ⟨sent, other, there, -, few, rfl⟩, same⟩ :=
      (exactly workflow.id).mpr ⟨workflow, mem, rfl, triggered⟩
    obtain rfl := table.id_inj there mem same
    exact ⟨sent, few⟩
  · intro holds id
    constructor
    · rintro ⟨posted, ⟨-, workflow, mem, triggered, -, rfl⟩, rfl⟩
      exact ⟨workflow, mem, rfl, triggered⟩
    · rintro ⟨workflow, mem, rfl, triggered⟩
      obtain ⟨sent, few⟩ := holds workflow mem triggered
      exact ⟨_, ⟨sent, workflow, mem, triggered, few, rfl⟩, rfl⟩

/-! ### A trigger behind 200 drafts -/

namespace Sample

def slackDsl : Json :=
  .obj [("trigger", .obj [("type", .str "trigger.channel"),
    ("config", .obj [("channelId", .str "slack")])])]

def slackWorkflow : WorkflowEntry :=
  { id := "slack", organizationId := "org", status := "published", createdByUserId := "user"
    dsl := slackDsl, createdAt := 0 }

def laterDraft (n : Nat) : WorkflowEntry :=
  { id := toString n, organizationId := "org", status := "draft", createdByUserId := "user"
    dsl := .null, createdAt := n + 1 }

/-- The number that the digits of an id make. -/
def digits (id : String) : Nat := id.toList.foldl (fun n c => 10 * n + (c.toNat - 48)) 0

theorem crowded_ids :
    ((slackWorkflow :: (List.range 200).map laterDraft).map (·.id)).Nodup := by
  have numbers : ((slackWorkflow :: (List.range 200).map laterDraft).map (·.id)).map digits =
      digits "slack" :: List.range 200 := by
    decide +kernel
  apply List.Nodup.of_map digits
  rw [numbers, List.nodup_cons]
  exact ⟨by decide +kernel, List.nodup_range⟩

def crowded : WorkflowTable :=
  { rows := slackWorkflow :: (List.range 200).map laterDraft, ids := crowded_ids }

def orgAccount : WebhookAccount := { organizationId := "org", accountKey := "main" }

def directMessage : InboundEnvelope :=
  { channelId := "slack", conversationId := "c", senderId := "u", text := "hello", event := .dm
    mentionMatched := false }

def allWell : Outside := { sessionSent := true, triggered := fun _ => true }

theorem slackWorkflow_triggered : IsTriggered id orgAccount directMessage slackWorkflow where
  own := rfl
  published := rfl
  asks := ⟨{ channelId := "slack", accountKey := none, event := none, matching := none }, rfl,
    configMatches_iff.mp (by decide)⟩

end Sample

theorem workflow_not_triggered : ¬∀ (lower : List Char → List Char) (table : WorkflowTable)
    (account : WebhookAccount) (envelope : InboundEnvelope) (outside : Outside) (id : String),
    id ∈ (triggerWorkflows lower table account envelope outside).1.map (·.1) ↔
      ∃ workflow ∈ table.rows, workflow.id = id ∧ IsTriggered lower account envelope workflow := by
  intro claim
  have triggered := (claim id Sample.crowded Sample.orgAccount Sample.directMessage Sample.allWell
    "slack").mpr ⟨Sample.slackWorkflow, List.mem_cons_self, rfl, Sample.slackWorkflow_triggered⟩
  obtain ⟨posted, mem, same⟩ := List.mem_map.mp triggered
  obtain ⟨-, workflow, there, -, few, rfl⟩ := mem_triggerWorkflows.mp mem
  obtain rfl : workflow = Sample.slackWorkflow :=
    Sample.crowded.id_inj there List.mem_cons_self same
  have many : Sample.crowded.newerThan "org" Sample.slackWorkflow = 200 := by decide +kernel
  exact absurd few (by rw [show Sample.orgAccount.organizationId = "org" from rfl, many]; decide)

end Vespid.Channels.Router
