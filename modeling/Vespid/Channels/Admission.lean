import Vespid.Channels.Pairing

/-!
# Admission by the allowlist

The security check of an inbound message asks of the allowlist only which scopes name which
subjects, so it reads the entries as a set and admits more as the set grows.
-/

namespace Vespid.Channels.Pairing

variable {toLowerCase : List Char → List Char} {entries more : List ChannelAllowlistEntry}

def Names (toLowerCase : List Char → List Char) (entries : List ChannelAllowlistEntry)
    (scope subject : String) : Prop :=
  ∃ entry ∈ entries,
    normalizedScope toLowerCase entry.scope = normalizedScope toLowerCase scope ∧
      entry.subject = subject

theorem hasEntry_iff {scope subject : String} :
    hasEntry toLowerCase entries scope subject = true ↔
      Names toLowerCase entries scope subject := by
  simp [hasEntry, Names]

theorem Names.mono {scope subject : String} (subset : entries ⊆ more)
    (named : Names toLowerCase entries scope subject) :
    Names toLowerCase more scope subject := by
  obtain ⟨entry, member, same⟩ := named
  exact ⟨entry, subset member, same⟩

theorem wildcardAllowed_iff {scopes : List String} :
    wildcardAllowed toLowerCase entries scopes = true ↔
      ∃ scope ∈ scopes, Names toLowerCase entries scope "*" := by
  simp [wildcardAllowed, hasEntry_iff]

theorem senderAllowed_names {senderId : String} {scopes : List String} :
    senderAllowed toLowerCase entries senderId scopes = true ↔
      ∃ scope ∈ "sender" :: scopes, Names toLowerCase entries scope senderId := by
  simp only [senderAllowed, List.any_eq_true, hasEntry_iff]

/-- Some scope names the sender or the conversation of a group message. -/
def GroupNamed (toLowerCase : List Char → List Char) (entries : List ChannelAllowlistEntry)
    (envelope : ChannelInboundEnvelope) : Prop :=
  (∃ scope ∈ ["group", "conversation"], Names toLowerCase entries scope envelope.conversationId) ∨
    ∃ scope ∈ ["sender", "group"], Names toLowerCase entries scope envelope.senderId

/-- What the policies of an account ask of the allowlist before they accept a message. -/
def Admits (toLowerCase : List Char → List Char) (envelope : ChannelInboundEnvelope)
    (account : Account) (entries : List ChannelAllowlistEntry) : Prop :=
  if envelope.event = .dm then
    match account.dmPolicy with
    | .disabled => False
    | .pairing | .allowlist =>
      ∃ scope ∈ ["sender", "dm"], Names toLowerCase entries scope envelope.senderId
    | .open_ => ∃ scope ∈ ["dm", "sender"], Names toLowerCase entries scope "*"
  else
    (account.requireMentionInGroup = true → envelope.mentionMatched = true) ∧
      match account.groupPolicy with
      | .disabled => False
      | .allowlist => GroupNamed toLowerCase entries envelope
      | .open_ =>
        ∃ scope ∈ ["group", "conversation", "sender"], Names toLowerCase entries scope "*"

theorem groupAllowed_iff {envelope : ChannelInboundEnvelope} :
    (hasEntry toLowerCase entries "group" envelope.conversationId ||
      hasEntry toLowerCase entries "conversation" envelope.conversationId ||
        senderAllowed toLowerCase entries envelope.senderId ["group"]) = true ↔
      GroupNamed toLowerCase entries envelope := by
  simp only [Bool.or_eq_true, hasEntry_iff, senderAllowed_names, GroupNamed, List.mem_cons,
    List.not_mem_nil, or_false, exists_eq_or_imp, exists_eq_left]

theorem dm_accepted {envelope : ChannelInboundEnvelope} {account : Account}
    (dm : envelope.event = .dm) :
    (evaluateChannelSecurity toLowerCase envelope account entries).accepted = true ↔
      Admits toLowerCase envelope account entries := by
  unfold evaluateChannelSecurity Admits
  simp only [dm, ↓reduceIte, ← senderAllowed_names, ← wildcardAllowed_iff]
  cases account.dmPolicy with
  | disabled => simp [denied]
  | pairing =>
    cases senderAllowed toLowerCase entries envelope.senderId ["dm"] <;> simp [denied, admitted]
  | allowlist =>
    cases senderAllowed toLowerCase entries envelope.senderId ["dm"] <;> simp [denied, admitted]
  | open_ =>
    cases wildcardAllowed toLowerCase entries ["dm", "sender"] <;> simp [denied, admitted]

theorem group_accepted {envelope : ChannelInboundEnvelope} {account : Account}
    (group : envelope.event ≠ .dm) :
    (evaluateChannelSecurity toLowerCase envelope account entries).accepted = true ↔
      Admits toLowerCase envelope account entries := by
  unfold evaluateChannelSecurity Admits
  simp only [group, ↓reduceIte, ← groupAllowed_iff, ← wildcardAllowed_iff]
  generalize (hasEntry toLowerCase entries "group" envelope.conversationId ||
    hasEntry toLowerCase entries "conversation" envelope.conversationId ||
      senderAllowed toLowerCase entries envelope.senderId ["group"]) = groupAllowed
  generalize wildcardAllowed toLowerCase entries ["group", "conversation", "sender"] = wildcard
  -- the mention gate stands before both policies that let a message through
  cases account.requireMentionInGroup <;> cases envelope.mentionMatched <;>
    cases account.groupPolicy <;> cases groupAllowed <;> cases wildcard <;>
    simp [denied, admitted]

/-- The check accepts exactly what the policies ask for. -/
theorem evaluateChannelSecurity_accepted {envelope : ChannelInboundEnvelope} {account : Account} :
    (evaluateChannelSecurity toLowerCase envelope account entries).accepted = true ↔
      Admits toLowerCase envelope account entries := by
  by_cases dm : envelope.event = .dm
  · exact dm_accepted dm
  · exact group_accepted dm

theorem hasEntry_congr (same : ∀ entry, entry ∈ entries ↔ entry ∈ more) :
    hasEntry toLowerCase entries = hasEntry toLowerCase more := by
  funext scope subject
  rw [Bool.eq_iff_iff, hasEntry_iff, hasEntry_iff]
  constructor
  · exact Names.mono fun entry => (same entry).mp
  · exact Names.mono fun entry => (same entry).mpr

/-- The whole decision, reason included, reads the entries as a set. -/
theorem evaluateChannelSecurity_congr (envelope : ChannelInboundEnvelope) (account : Account)
    (same : ∀ entry, entry ∈ entries ↔ entry ∈ more) :
    evaluateChannelSecurity toLowerCase envelope account entries =
      evaluateChannelSecurity toLowerCase envelope account more := by
  unfold evaluateChannelSecurity senderAllowed wildcardAllowed
  rw [hasEntry_congr same]

theorem GroupNamed.mono {envelope : ChannelInboundEnvelope} (subset : entries ⊆ more)
    (named : GroupNamed toLowerCase entries envelope) :
    GroupNamed toLowerCase more envelope := by
  cases named with
  | inl conversation =>
    obtain ⟨scope, listed, named⟩ := conversation
    exact .inl ⟨scope, listed, named.mono subset⟩
  | inr sender =>
    obtain ⟨scope, listed, named⟩ := sender
    exact .inr ⟨scope, listed, named.mono subset⟩

theorem exists_names_mono {scopes : List String} {subject : String} (subset : entries ⊆ more)
    (named : ∃ scope ∈ scopes, Names toLowerCase entries scope subject) :
    ∃ scope ∈ scopes, Names toLowerCase more scope subject := by
  obtain ⟨scope, listed, named⟩ := named
  exact ⟨scope, listed, named.mono subset⟩

theorem Admits.mono {envelope : ChannelInboundEnvelope} {account : Account}
    (subset : entries ⊆ more) (admits : Admits toLowerCase envelope account entries) :
    Admits toLowerCase envelope account more := by
  unfold Admits at admits ⊢
  by_cases dm : envelope.event = .dm
  · simp only [dm, ↓reduceIte] at admits ⊢
    cases policy : account.dmPolicy with
    | disabled => simp [policy] at admits
    | pairing => simp only [policy] at admits ⊢; exact exists_names_mono subset admits
    | allowlist => simp only [policy] at admits ⊢; exact exists_names_mono subset admits
    | open_ => simp only [policy] at admits ⊢; exact exists_names_mono subset admits
  · simp only [dm, ↓reduceIte] at admits ⊢
    obtain ⟨mention, admits⟩ := admits
    refine ⟨mention, ?_⟩
    cases policy : account.groupPolicy with
    | disabled => simp [policy] at admits
    | allowlist => simp only [policy] at admits ⊢; exact admits.mono subset
    | open_ => simp only [policy] at admits ⊢; exact exists_names_mono subset admits

/-- Admission is a monotone function of the set of entries; a disabled policy admits nothing, the
pairing and allowlist policies admit the direct messages of named senders and no others, and the
allowlist policy admits group messages of named conversations and senders only. -/
theorem channel_admission_monotone (toLowerCase : List Char → List Char)
    (envelope : ChannelInboundEnvelope) (account : Account)
    (entries : List ChannelAllowlistEntry) :
    (∀ others, (∀ entry, entry ∈ entries ↔ entry ∈ others) →
      evaluateChannelSecurity toLowerCase envelope account others =
        evaluateChannelSecurity toLowerCase envelope account entries) ∧
    (∀ more, entries ⊆ more →
      (evaluateChannelSecurity toLowerCase envelope account entries).accepted = true →
      (evaluateChannelSecurity toLowerCase envelope account more).accepted = true) ∧
    (envelope.event = .dm → account.dmPolicy = .disabled →
      (evaluateChannelSecurity toLowerCase envelope account entries).accepted = false) ∧
    (envelope.event ≠ .dm → account.groupPolicy = .disabled →
      (evaluateChannelSecurity toLowerCase envelope account entries).accepted = false) ∧
    (envelope.event = .dm → account.dmPolicy = .pairing ∨ account.dmPolicy = .allowlist →
      ((evaluateChannelSecurity toLowerCase envelope account entries).accepted = true ↔
        Names toLowerCase entries "sender" envelope.senderId ∨
          Names toLowerCase entries "dm" envelope.senderId)) ∧
    (envelope.event ≠ .dm → account.groupPolicy = .allowlist →
      (evaluateChannelSecurity toLowerCase envelope account entries).accepted = true →
      (∃ scope ∈ ["group", "conversation"],
        Names toLowerCase entries scope envelope.conversationId) ∨
        ∃ scope ∈ ["sender", "group"], Names toLowerCase entries scope envelope.senderId) := by
  have accepts := @evaluateChannelSecurity_accepted toLowerCase entries envelope account
  refine ⟨?_, ?_, ?_, ?_, ?_, ?_⟩
  · intro others same
    exact (evaluateChannelSecurity_congr envelope account same).symm
  · intro more subset accepted
    apply evaluateChannelSecurity_accepted.mpr
    exact (accepts.mp accepted).mono subset
  · intro dm disabled
    rw [← Bool.not_eq_true, accepts]
    simp [Admits, dm, disabled]
  · intro group disabled
    rw [← Bool.not_eq_true, accepts]
    simp [Admits, group, disabled]
  · intro dm policy
    rw [accepts]
    obtain policy | policy := policy <;> simp [Admits, dm, policy]
  · intro group allowlist accepted
    have admits := accepts.mp accepted
    simp only [Admits, group, ↓reduceIte, allowlist] at admits
    exact admits.2

end Vespid.Channels.Pairing
