import Vespid.Js
import Vespid.Scheduler.Cron

/-!
# Session keys

The key under which a session is kept for its agent, organization and peer, and the directory an
executor derives from it. Every part of a key is normalised before the parts are joined.
-/

namespace Vespid.AgentRuntime

/-- `[a-z0-9._-]` -/
def isPartChar (c : Char) : Bool :=
  ('a' ≤ c && c ≤ 'z') || c.isDigit || c = '.' || c = '_' || c = '-'

/-- `toLowerCase` of the runtime, which leaves lower-case ASCII text as it is. -/
structure LowerCase where
  lower : List Char → List Char
  ascii : ∀ s, (∀ c ∈ s, isPartChar c = true ∨ c = ':') → lower s = s

/-- `replace(/[^a-z0-9._-]+/g, "-")`; `inRun` is within a run that is replaced already. -/
def dashRuns : (inRun : Bool) → List Char → List Char
  | _, [] => []
  | inRun, c :: rest =>
    if isPartChar c then c :: dashRuns false rest
    else if inRun then dashRuns true rest
    else '-' :: dashRuns true rest

inductive SessionScope where
  | main | perPeer | perChannelPeer | perAccountChannelPeer
  deriving DecidableEq

def SessionScope.name : SessionScope → String
  | main => "main"
  | perPeer => "per-peer"
  | perChannelPeer => "per-channel-peer"
  | perAccountChannelPeer => "per-account-channel-peer"

structure SessionKeyInput where
  agentId : String
  organizationId : String
  scope : SessionScope
  actorUserId : String
  channel : Option String
  account : Option String
  peer : Option String

def SessionKeyInput.who (input : SessionKeyInput) : String := input.peer.getD input.actorUserId

section normalise
variable (js : LowerCase)

def normalizePart (value : String) : List Char :=
  dashRuns false (js.lower (Scheduler.trim value.toList))

def safePart (value : Option String) (fallback : String) : List Char :=
  match value with
  | none => fallback.toList
  | some value =>
    if (Scheduler.trim value.toList).isEmpty then fallback.toList
    else if (normalizePart js value).isEmpty then fallback.toList
    else normalizePart js value

/-- The labels and parts of a key. -/
def keyParts (input : SessionKeyInput) : List (List Char) :=
  let agentPart := safePart js (some input.agentId) "default"
  let orgPart := safePart js (some input.organizationId) "unknown-org"
  let scopePart := safePart js (some input.scope.name) "main"
  let peerPart := safePart js (some input.who) "anonymous"
  let channelPart := safePart js input.channel "unknown-channel"
  let accountPart := safePart js input.account "unknown-account"
  let base := ["agent".toList, agentPart, "org".toList, orgPart, "scope".toList, scopePart]
  if scopePart = "per-peer".toList then base ++ ["peer".toList, peerPart]
  else if scopePart = "per-channel-peer".toList then
    base ++ ["channel".toList, channelPart, "peer".toList, peerPart]
  else if scopePart = "per-account-channel-peer".toList then
    base ++ ["account".toList, accountPart, "channel".toList, channelPart, "peer".toList, peerPart]
  else base

def buildSessionKey (input : SessionKeyInput) : String :=
  String.ofList ([':'].intercalate (keyParts js input))

/-- `normalizePathPart` of the node agent. -/
def normalizePathPart (value : String) : List Char :=
  let trimmed := js.lower (Scheduler.trim value.toList)
  if trimmed.isEmpty then "unknown".toList else dashRuns false trimmed

/-- The directories of a session under the memory root: its organization's and its own. -/
def workspaceDir (input : SessionKeyInput) : List Char × List Char :=
  (normalizePathPart js input.organizationId, normalizePathPart js (buildSessionKey js input))

end normalise

/-! ### Parts -/

/-- A part of a key as it is once normalised. -/
structure IsPart (part : List Char) : Prop where
  chars : ∀ c ∈ part, isPartChar c = true
  nonempty : part ≠ []

variable {js : LowerCase}

theorem isPartChar_dashRuns (inRun : Bool) (s : List Char) :
    ∀ c ∈ dashRuns inRun s, isPartChar c = true := by
  induction s generalizing inRun with
  | nil => simp [dashRuns]
  | cons head rest ih =>
    intro c mem
    rw [dashRuns] at mem
    split at mem
    · rcases List.mem_cons.mp mem with rfl | later
      · assumption
      · exact ih false c later
    · split at mem
      · exact ih true c mem
      · rcases List.mem_cons.mp mem with rfl | later
        · decide
        · exact ih true c later

theorem dashRuns_part {part : List Char} (chars : ∀ c ∈ part, isPartChar c = true)
    (inRun : Bool) (rest : List Char) (nonempty : part ≠ []) :
    dashRuns inRun (part ++ rest) = part ++ dashRuns false rest := by
  induction part generalizing inRun with
  | nil => exact absurd rfl nonempty
  | cons head tail ih =>
    rw [List.cons_append, dashRuns, if_pos (chars head (by simp)), List.cons_append]
    by_cases last : tail = []
    · subst last
      rfl
    · rw [ih (fun c mem => chars c (List.mem_cons_of_mem _ mem)) false last]

theorem isPart_of_all {s : List Char} (chars : s.all isPartChar = true) (nonempty : s ≠ []) :
    IsPart s :=
  ⟨fun c mem => List.all_eq_true.mp chars c mem, nonempty⟩

theorem isPart_safePart (value : Option String) {fallback : String}
    (fits : IsPart fallback.toList) : IsPart (safePart js value fallback) := by
  unfold safePart
  split
  · exact fits
  split
  · exact fits
  split
  · exact fits
  next filled =>
    exact ⟨isPartChar_dashRuns false _, fun empty => filled (by simpa using empty)⟩

theorem lower_part {part : List Char} (chars : ∀ c ∈ part, isPartChar c = true) :
    js.lower part = part := js.ascii part fun c mem => .inl (chars c mem)

theorem scopeName_chars (scope : SessionScope) : scope.name.toList.all isPartChar = true := by
  cases scope <;> rfl

@[simp] theorem safePart_scope (scope : SessionScope) (fallback : String) :
    safePart js (some scope.name) fallback = scope.name.toList := by
  have normal : normalizePart js scope.name = scope.name.toList := by
    unfold normalizePart
    rw [show Scheduler.trim scope.name.toList = scope.name.toList by cases scope <;> decide,
      lower_part (List.all_eq_true.mp (scopeName_chars scope))]
    cases scope <;> decide
  simp only [safePart, normal]
  cases scope <;> rfl

theorem isPart_keyParts (input : SessionKeyInput) : ∀ part ∈ keyParts js input, IsPart part := by
  have agent : IsPart (safePart js (some input.agentId) "default") :=
    isPart_safePart _ (isPart_of_all (by decide) (by decide))
  have org : IsPart (safePart js (some input.organizationId) "unknown-org") :=
    isPart_safePart _ (isPart_of_all (by decide) (by decide))
  have peer : IsPart (safePart js (some input.who) "anonymous") :=
    isPart_safePart _ (isPart_of_all (by decide) (by decide))
  have channel : IsPart (safePart js input.channel "unknown-channel") :=
    isPart_safePart _ (isPart_of_all (by decide) (by decide))
  have account : IsPart (safePart js input.account "unknown-account") :=
    isPart_safePart _ (isPart_of_all (by decide) (by decide))
  have label (s : String) (chars : s.toList.all isPartChar = true) (nonempty : s.toList ≠ []) :
      IsPart s.toList := isPart_of_all chars nonempty
  have scope (scope : SessionScope) : IsPart scope.name.toList := by
    cases scope <;> exact label _ (by decide) (by decide)
  have base : ∀ part ∈ [("agent".toList), safePart js (some input.agentId) "default",
      "org".toList, safePart js (some input.organizationId) "unknown-org", "scope".toList,
      input.scope.name.toList], IsPart part := by
    simp only [List.forall_mem_cons]
    exact ⟨label _ (by decide) (by decide), agent, label _ (by decide) (by decide), org,
      label _ (by decide) (by decide), scope _, by simp⟩
  unfold keyParts
  simp only [safePart_scope]
  split
  · refine List.forall_mem_append.mpr ⟨base, ?_⟩
    simp only [List.forall_mem_cons]
    exact ⟨label _ (by decide) (by decide), peer, by simp⟩
  split
  · refine List.forall_mem_append.mpr ⟨base, ?_⟩
    simp only [List.forall_mem_cons]
    exact ⟨label _ (by decide) (by decide), channel, label _ (by decide) (by decide), peer,
      by simp⟩
  split
  · refine List.forall_mem_append.mpr ⟨base, ?_⟩
    simp only [List.forall_mem_cons]
    exact ⟨label _ (by decide) (by decide), account, label _ (by decide) (by decide),
      channel, label _ (by decide) (by decide), peer, by simp⟩
  · exact base

/-! ### Requests with the same key -/

def SessionScope.hasChannel : SessionScope → Bool
  | perChannelPeer | perAccountChannelPeer => true
  | _ => false

/-- The same agent, organization and scope, and the same value of every dimension the scope
includes. -/
structure SameRoute (a b : SessionKeyInput) : Prop where
  scope : a.scope = b.scope
  agent : a.agentId = b.agentId
  organization : a.organizationId = b.organizationId
  peer : a.scope ≠ .main → a.who = b.who
  channel : a.scope.hasChannel = true → a.channel = b.channel
  account : a.scope = .perAccountChannelPeer → a.account = b.account

/-- The same, of the parts as they are normalised. -/
structure SameParts (js : LowerCase) (a b : SessionKeyInput) : Prop where
  scope : a.scope = b.scope
  agent : safePart js (some a.agentId) "default" = safePart js (some b.agentId) "default"
  organization : safePart js (some a.organizationId) "unknown-org" =
    safePart js (some b.organizationId) "unknown-org"
  peer : a.scope ≠ .main →
    safePart js (some a.who) "anonymous" = safePart js (some b.who) "anonymous"
  channel : a.scope.hasChannel = true →
    safePart js a.channel "unknown-channel" = safePart js b.channel "unknown-channel"
  account : a.scope = .perAccountChannelPeer →
    safePart js a.account "unknown-account" = safePart js b.account "unknown-account"

theorem SameRoute.parts {a b : SessionKeyInput} (same : SameRoute a b) : SameParts js a b where
  scope := same.scope
  agent := by rw [same.agent]
  organization := by rw [same.organization]
  peer scope := by rw [same.peer scope]
  channel scope := by rw [same.channel scope]
  account scope := by rw [same.account scope]

/-- The parts every key starts with. -/
def baseParts (js : LowerCase) (input : SessionKeyInput) : List (List Char) :=
  ["agent".toList, safePart js (some input.agentId) "default",
    "org".toList, safePart js (some input.organizationId) "unknown-org",
    "scope".toList, input.scope.name.toList]

/-- The parts the scope adds. -/
def scopeParts (js : LowerCase) (input : SessionKeyInput) : List (List Char) :=
  match input.scope with
  | .main => []
  | .perPeer => ["peer".toList, safePart js (some input.who) "anonymous"]
  | .perChannelPeer =>
    ["channel".toList, safePart js input.channel "unknown-channel",
      "peer".toList, safePart js (some input.who) "anonymous"]
  | .perAccountChannelPeer =>
    ["account".toList, safePart js input.account "unknown-account",
      "channel".toList, safePart js input.channel "unknown-channel",
      "peer".toList, safePart js (some input.who) "anonymous"]

theorem keyParts_split (input : SessionKeyInput) :
    keyParts js input = baseParts js input ++ scopeParts js input := by
  unfold keyParts baseParts scopeParts
  simp only [safePart_scope]
  cases input.scope with
  | main => rfl
  | perPeer => exact if_pos rfl
  | perChannelPeer => exact (if_neg (by decide)).trans (if_pos rfl)
  | perAccountChannelPeer =>
    exact (if_neg (by decide)).trans ((if_neg (by decide)).trans (if_pos rfl))

theorem name_injective {s t : SessionScope} (same : s.name.toList = t.name.toList) : s = t := by
  cases s <;> cases t <;> first | rfl | exact absurd same (by decide)

theorem baseParts_eq_iff (a b : SessionKeyInput) :
    baseParts js a = baseParts js b ↔
      safePart js (some a.agentId) "default" = safePart js (some b.agentId) "default" ∧
      safePart js (some a.organizationId) "unknown-org" =
        safePart js (some b.organizationId) "unknown-org" ∧ a.scope = b.scope := by
  constructor
  · intro same
    simp only [baseParts, List.cons.injEq] at same
    exact ⟨same.2.1, same.2.2.2.1, name_injective same.2.2.2.2.2.1⟩
  · rintro ⟨agent, org, scope⟩
    rw [baseParts, agent, org, scope, baseParts]

theorem keyParts_eq_iff (a b : SessionKeyInput) :
    keyParts js a = keyParts js b ↔ SameParts js a b := by
  rw [keyParts_split, keyParts_split]
  constructor
  · intro same
    obtain ⟨base, added⟩ := List.append_inj same rfl
    obtain ⟨agent, org, scope⟩ := (baseParts_eq_iff a b).mp base
    unfold scopeParts at added
    rw [← scope] at added
    have noAccount (other : a.scope ≠ .perAccountChannelPeer) : a.scope = .perAccountChannelPeer →
        safePart js a.account "unknown-account" = safePart js b.account "unknown-account" :=
      fun h => absurd h other
    have noChannel (other : a.scope.hasChannel = false) : a.scope.hasChannel = true →
        safePart js a.channel "unknown-channel" = safePart js b.channel "unknown-channel" :=
      fun h => absurd h (by simp [other])
    cases at_a : a.scope with
    | main =>
      exact ⟨scope, agent, org, fun h => absurd at_a h, noChannel (by rw [at_a]; rfl),
        noAccount (by simp [at_a])⟩
    | perPeer =>
      simp only [at_a, List.cons.injEq] at added
      exact ⟨scope, agent, org, fun _ => added.2.1, noChannel (by rw [at_a]; rfl),
        noAccount (by simp [at_a])⟩
    | perChannelPeer =>
      simp only [at_a, List.cons.injEq] at added
      exact ⟨scope, agent, org, fun _ => added.2.2.2.1, fun _ => added.2.1,
        noAccount (by simp [at_a])⟩
    | perAccountChannelPeer =>
      simp only [at_a, List.cons.injEq] at added
      exact ⟨scope, agent, org, fun _ => added.2.2.2.2.2.1, fun _ => added.2.2.2.1,
        fun _ => added.2.1⟩
  · intro same
    rw [(baseParts_eq_iff a b).mpr ⟨same.agent, same.organization, same.scope⟩]
    congr 1
    unfold scopeParts
    rw [← same.scope]
    cases at_a : a.scope with
    | main => rfl
    | perPeer => simp only [same.peer (by simp [at_a])]
    | perChannelPeer =>
      simp only [same.peer (by simp [at_a]), same.channel (by simp [at_a, SessionScope.hasChannel])]
    | perAccountChannelPeer =>
      simp only [same.peer (by simp [at_a]), same.channel (by simp [at_a, SessionScope.hasChannel]),
        same.account at_a]

theorem buildSessionKey_eq_iff (a b : SessionKeyInput) :
    buildSessionKey js a = buildSessionKey js b ↔ SameParts js a b := by
  rw [← keyParts_eq_iff]
  refine ⟨fun same => ?_, fun same => by rw [buildSessionKey, same, buildSessionKey]⟩
  have back (input : SessionKeyInput) :
      (buildSessionKey js input).toList.splitOn ':' = keyParts js input := by
    rw [buildSessionKey, String.toList_ofList]
    refine List.splitOn_intercalate ':' (fun part mem colon => ?_) ?_
    · exact absurd ((isPart_keyParts input part mem).chars _ colon) (by decide)
    · rw [keyParts_split]
      exact List.cons_ne_nil _ _
  rw [← back a, ← back b, same]

/-! ### The directory derived from a key -/

/-- The parts of a key joined with dashes. -/
def dashed (js : LowerCase) (input : SessionKeyInput) : List Char :=
  ['-'].intercalate (keyParts js input)

theorem dashRuns_joined {parts : List (List Char)} (fit : ∀ part ∈ parts, IsPart part)
    (inRun : Bool) :
    dashRuns inRun ([':'].intercalate parts) = ['-'].intercalate parts := by
  induction parts generalizing inRun with
  | nil => rfl
  | cons part rest ih =>
    have first := fit part (by simp)
    cases rest with
    | nil =>
      have alone := dashRuns_part first.chars inRun [] first.nonempty
      simpa [dashRuns] using alone
    | cons next rest =>
      rw [List.intercalate_cons_cons, List.intercalate_cons_cons, List.append_assoc,
        dashRuns_part first.chars inRun _ first.nonempty, List.append_assoc]
      have colon : dashRuns false (':' :: [':'].intercalate (next :: rest)) =
          '-' :: dashRuns true ([':'].intercalate (next :: rest)) := by
        rw [dashRuns, if_neg (by decide), if_neg (by decide)]
      rw [List.singleton_append, colon,
        ih (fun part mem => fit part (List.mem_cons_of_mem _ mem)) true, List.singleton_append]

theorem keyChar_range {c : Char} (fits : isPartChar c = true ∨ c = ':') :
    (97 ≤ c.toNat ∧ c.toNat ≤ 122) ∨ (48 ≤ c.toNat ∧ c.toNat ≤ 58) ∨ c.toNat ∈ [45, 46, 95] := by
  rcases fits with part | rfl
  · simp only [isPartChar, Bool.or_eq_true, Bool.and_eq_true, decide_eq_true_eq, Char.isDigit,
      Char.le_def, ge_iff_le, UInt32.le_iff_toNat_le] at part
    rcases part with (((letter | digit) | rfl) | rfl) | rfl
    · exact .inl letter
    · exact .inr (.inl ⟨digit.1, digit.2.trans (by decide)⟩)
    · decide
    · decide
    · decide
  · decide

theorem isSpace_keyChar {c : Char} (fits : isPartChar c = true ∨ c = ':') :
    Scheduler.isSpace c = false := by
  have range := keyChar_range fits
  simp only [Scheduler.isSpace, Bool.or_eq_false_iff, decide_eq_false_iff_not, List.mem_cons,
    List.not_mem_nil, or_false, Bool.and_eq_false_iff] at range ⊢
  omega

theorem chars_joined {parts : List (List Char)} (fit : ∀ part ∈ parts, IsPart part) :
    ∀ c ∈ [':'].intercalate parts, isPartChar c = true ∨ c = ':' := by
  induction parts with
  | nil => simp
  | cons part rest ih =>
    have first := fit part (by simp)
    cases rest with
    | nil => simpa using fun c mem => .inl (first.chars c mem)
    | cons next rest =>
      rw [List.intercalate_cons_cons]
      intro c mem
      rcases List.mem_append.mp mem with early | late
      · rcases List.mem_append.mp early with inPart | colon
        · exact .inl (first.chars c inPart)
        · exact .inr (List.mem_singleton.mp colon)
      · exact ih (fun part mem => fit part (List.mem_cons_of_mem _ mem)) c late

theorem normalizePathPart_buildSessionKey (input : SessionKeyInput) :
    normalizePathPart js (buildSessionKey js input) = dashed js input := by
  have fit : ∀ part ∈ keyParts js input, IsPart part := isPart_keyParts input
  have chars := chars_joined fit
  have trimmed : js.lower (Scheduler.trim (buildSessionKey js input).toList) =
      [':'].intercalate (keyParts js input) := by
    rw [buildSessionKey, String.toList_ofList, 
      Scheduler.trim_of_solid fun c mem => isSpace_keyChar (chars c mem), js.ascii _ chars]
  unfold normalizePathPart
  rw [trimmed, dashed, ← dashRuns_joined fit false]
  refine if_neg ?_
  rw [keyParts_split]
  simp [baseParts]

theorem workspaceDir_eq_iff (a b : SessionKeyInput) :
    workspaceDir js a = workspaceDir js b ↔
      normalizePathPart js a.organizationId = normalizePathPart js b.organizationId ∧
        dashed js a = dashed js b := by
  rw [workspaceDir, workspaceDir, Prod.mk.injEq, normalizePathPart_buildSessionKey,
    normalizePathPart_buildSessionKey]

/-! ### Isolation -/

/-- Keys and directories tell two requests apart that are not of the same agent, organization and
peer exactly when these differ also once they are normalised and joined. -/
theorem peers_isolated (js : LowerCase) (a b : SessionKeyInput) :
    ((buildSessionKey js a = buildSessionKey js b → SameRoute a b) ∧
        (workspaceDir js a = workspaceDir js b → SameRoute a b)) ↔
      SameRoute a b ∨
        (¬ SameParts js a b ∧
          ¬ (normalizePathPart js a.organizationId = normalizePathPart js b.organizationId ∧
            dashed js a = dashed js b)) := by
  rw [buildSessionKey_eq_iff, workspaceDir_eq_iff]
  constructor
  · rintro ⟨ofKey, ofDir⟩
    by_cases same : SameRoute a b
    · exact .inl same
    · exact .inr ⟨fun parts => same (ofKey parts), fun dirs => same (ofDir dirs)⟩
  · rintro (same | ⟨parts, dirs⟩)
    · exact ⟨fun _ => same, fun _ => same⟩
    · exact ⟨fun equal => absurd equal parts, fun equal => absurd equal dirs⟩

/-- Lower case of ASCII letters, which is all that `toLowerCase` changes in the names below. -/
def asciiLower : LowerCase where
  lower s := s.map Char.toLower
  ascii s chars := by
    refine (List.map_congr_left fun c mem => ?_).trans s.map_id
    have range := keyChar_range (chars c mem)
    simp only [List.mem_cons, List.not_mem_nil, or_false] at range
    refine dif_neg ?_
    simp only [ge_iff_le, UInt32.le_iff_toNat_le]
    rintro ⟨low, high⟩
    change 65 ≤ c.toNat at low
    change c.toNat ≤ 90 at high
    omega

/-- A request of one agent in one organization, on behalf of a peer. -/
def requestOf (peer : String) : SessionKeyInput where
  agentId := "support"
  organizationId := "org-1"
  scope := .perPeer
  actorUserId := "bot"
  channel := none
  account := none
  peer := some peer

/-- Two peers whose names have no Latin letter share a key and a directory. -/
theorem peers_share_session :
    buildSessionKey asciiLower (requestOf "王") = buildSessionKey asciiLower (requestOf "李") ∧
      workspaceDir asciiLower (requestOf "王") = workspaceDir asciiLower (requestOf "李") ∧
      ¬ SameRoute (requestOf "王") (requestOf "李") := by
  refine ⟨by decide +kernel, by decide +kernel, fun same => ?_⟩
  exact absurd (same.peer (by decide)) (by decide)

end Vespid.AgentRuntime
