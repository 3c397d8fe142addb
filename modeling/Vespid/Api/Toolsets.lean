import Vespid.Api.ToolsetPolicy
import Vespid.Api.OAuthProfile
import Vespid.Scheduler.Cron
import Vespid.Lib.Exclusive
import Vespid.Lib.Protocol

/-!
# Toolsets

Requests on toolsets, statement by statement. A write and the commit after it are one step: other
writes of the row wait for the commit, and readers see the row as it was.
-/

namespace Vespid.Api.Toolsets

open Interleaving
open OAuth (AppError)

inductive ToolsetVisibility where
  | private_ | org | public_
  deriving DecidableEq

/-- What a payload can ask for. -/
abbrev DraftVisibility := { visibility : ToolsetVisibility // visibility ≠ .public_ }

structure AdoptedFrom where
  toolsetId : Nat
  publicSlug : Option String

/-- The columns that statements write. -/
structure ToolsetValues where
  organizationId : Nat
  name : String
  description : Option String
  visibility : ToolsetVisibility
  publicSlug : Option String
  publishedAt : Option Nat
  mcpServers : List McpServerConfig
  agentSkills : List AgentSkillBundle
  adoptedFrom : Option AdoptedFrom

structure AgentToolset extends ToolsetValues where
  id : Nat

/-! ### Errors -/

structure ToolsetError extends AppError where
  details : Option PolicyError := none

def toolsetNotFound (message : String) : ToolsetError where
  statusCode := 404
  code := "TOOLSET_NOT_FOUND"
  message := message

def publicSlugConflict : ToolsetError where
  statusCode := 409
  code := "PUBLIC_SLUG_CONFLICT"
  message := "Public slug already exists"

def invalidMcpPlaceholder (details : PolicyError) : ToolsetError where
  statusCode := 400
  code := "INVALID_MCP_PLACEHOLDER"
  message := "Invalid MCP placeholder policy"
  details := some details

def invalidSkillBundle (details : PolicyError) : ToolsetError where
  statusCode := 400
  code := "INVALID_SKILL_BUNDLE"
  message := "Invalid skill bundle"
  details := some details

def mustBeUnpublished : ToolsetError where
  statusCode := 400
  code := "BAD_REQUEST"
  message := "Published toolsets must be unpublished before editing."

def internalError : ToolsetError where
  statusCode := 500
  code := "INTERNAL_ERROR"
  message := "Internal server error"

/-! ### Statements -/

inductive ToolsetOp where
  | getAgentToolsetById (organizationId toolsetId : Nat)
  | insertAgentToolset (values : ToolsetValues)
  | updateAgentToolset (toolsetId : Nat) (values : ToolsetValues)
  | deleteAgentToolset (organizationId toolsetId : Nat)
  | publishAgentToolset (organizationId toolsetId : Nat) (publicSlug : String)
  | unpublishAgentToolset (organizationId toolsetId : Nat) (visibility : DraftVisibility)
  | getPublicAgentToolsetBySlug (publicSlug : String)

/-- An error of a publish carries its message. -/
abbrev ToolsetOp.Reply : ToolsetOp → Type
  | getAgentToolsetById _ _ => Option AgentToolset
  | insertAgentToolset _ => AgentToolset
  | updateAgentToolset _ _ => Option AgentToolset
  | deleteAgentToolset _ _ => Bool
  | publishAgentToolset _ _ _ => Except String (Option AgentToolset)
  | unpublishAgentToolset _ _ _ => Option AgentToolset
  | getPublicAgentToolsetBySlug _ => Option AgentToolset

abbrev ToolsetOps : Interface where
  Op := ToolsetOp
  Reply := ToolsetOp.Reply

abbrev ToolsetProgram := Program ToolsetOps

abbrev ask (op : ToolsetOp) : ToolsetProgram op.Reply := Program.issue (I := ToolsetOps) op

/-! ### Requests -/

structure ToolsetUpsert where
  name : String
  description : Option String
  visibility : DraftVisibility
  mcpServers : List McpServerConfig
  agentSkills : List AgentSkillBundle

/-- A request that its organization's admins may make, as parsed. -/
inductive ToolsetRequest where
  | create (payload : ToolsetUpsert)
  | update (toolsetId : Nat) (payload : ToolsetUpsert)
  | delete (toolsetId : Nat)
  | publish (toolsetId : Nat) (publicSlug : String)
  | unpublish (toolsetId : Nat) (visibility : Option DraftVisibility)
  | adopt (publicSlug : String) (name description : Option String)

inductive ToolsetAnswer where
  | toolset (toolset : AgentToolset)
  | ok

abbrev Answer := Except ToolsetError ToolsetAnswer

def checkContent (mcpServers : List McpServerConfig) (agentSkills : List AgentSkillBundle) :
    Except ToolsetError Unit :=
  match validateMcpPlaceholderPolicy mcpServers with
  | .error details => .error (invalidMcpPlaceholder details)
  | .ok () =>
    match validateAgentSkillBundles agentSkills with
    | .error details => .error (invalidSkillBundle details)
    | .ok () => .ok ()

def found (toolset : Option AgentToolset) (message : String) : Answer :=
  match toolset with
  | none => .error (toolsetNotFound message)
  | some toolset => .ok (.toolset toolset)

def createToolset (organizationId : Nat) (payload : ToolsetUpsert) : ToolsetProgram Answer :=
  match checkContent payload.mcpServers payload.agentSkills with
  | .error error => return .error error
  | .ok () => do
    let toolset ← ask (.insertAgentToolset
      { organizationId, name := payload.name, description := payload.description
        visibility := payload.visibility.1, publicSlug := none, publishedAt := none
        mcpServers := payload.mcpServers, agentSkills := payload.agentSkills
        adoptedFrom := none })
    return .ok (.toolset toolset)

/-- The transaction of an edit. -/
def updateAgentToolset (organizationId toolsetId : Nat) (payload : ToolsetUpsert) :
    ToolsetProgram (Option AgentToolset) := do
  match ← ask (.getAgentToolsetById organizationId toolsetId) with
  | none => return none
  | some existing => ask (.updateAgentToolset toolsetId
      { organizationId, name := payload.name, description := payload.description
        visibility := payload.visibility.1, publicSlug := existing.publicSlug
        publishedAt := existing.publishedAt, mcpServers := payload.mcpServers
        agentSkills := payload.agentSkills, adoptedFrom := existing.adoptedFrom })

def updateToolset (organizationId toolsetId : Nat) (payload : ToolsetUpsert) :
    ToolsetProgram Answer := do
  match ← ask (.getAgentToolsetById organizationId toolsetId) with
  | none => return .error (toolsetNotFound "Toolset not found")
  | some current =>
    if current.visibility = .public_ then return .error mustBeUnpublished
    else match checkContent payload.mcpServers payload.agentSkills with
      | .error error => return .error error
      | .ok () =>
        let toolset ← updateAgentToolset organizationId toolsetId payload
        return found toolset "Toolset not found"

def deleteToolset (organizationId toolsetId : Nat) : ToolsetProgram Answer := do
  let ok ← ask (.deleteAgentToolset organizationId toolsetId)
  return if ok then .ok .ok else .error (toolsetNotFound "Toolset not found")

def publishToolset (organizationId toolsetId : Nat) (publicSlug : String) :
    ToolsetProgram Answer := do
  match ← ask (.getAgentToolsetById organizationId toolsetId) with
  | none => return .error (toolsetNotFound "Toolset not found")
  | some current =>
    match checkContent current.mcpServers current.agentSkills with
    | .error error => return .error error
    | .ok () =>
      match ← ask (.publishAgentToolset organizationId toolsetId publicSlug) with
      | .error message =>
        return .error (if message = "PUBLIC_SLUG_CONFLICT" then publicSlugConflict else internalError)
      | .ok toolset => return found toolset "Toolset not found"

def unpublishToolset (organizationId toolsetId : Nat) (visibility : Option DraftVisibility) :
    ToolsetProgram Answer := do
  let toolset ← ask (.unpublishAgentToolset organizationId toolsetId
    (visibility.getD ⟨.org, by decide⟩))
  return found toolset "Toolset not found"

/-- The name of an adopted toolset, unless the one asked for is blank. -/
def adoptedName (name : Option String) (source : String) : String :=
  match name with
  | some name => if (Scheduler.trim name.toList).isEmpty then source else name
  | none => source

def adoptToolset (organizationId : Nat) (publicSlug : String) (name description : Option String) :
    ToolsetProgram Answer := do
  match ← ask (.getPublicAgentToolsetBySlug publicSlug) with
  | none => return .error (toolsetNotFound "Public toolset not found")
  | some source =>
    let toolset ← ask (.insertAgentToolset
      { organizationId, name := adoptedName name source.name
        description := description <|> source.description, visibility := .org
        publicSlug := none, publishedAt := none, mcpServers := source.mcpServers
        agentSkills := source.agentSkills
        adoptedFrom := some { toolsetId := source.id, publicSlug := source.publicSlug } })
    return .ok (.toolset toolset)

def handle (organizationId : Nat) : ToolsetRequest → ToolsetProgram Answer
  | .create payload => createToolset organizationId payload
  | .update toolsetId payload => updateToolset organizationId toolsetId payload
  | .delete toolsetId => deleteToolset organizationId toolsetId
  | .publish toolsetId publicSlug => publishToolset organizationId toolsetId publicSlug
  | .unpublish toolsetId visibility => unpublishToolset organizationId toolsetId visibility
  | .adopt publicSlug name description => adoptToolset organizationId publicSlug name description

/-! ### The table -/

structure Content where
  mcpServers : List McpServerConfig
  agentSkills : List AgentSkillBundle

abbrev ToolsetValues.content (values : ToolsetValues) : Content where
  mcpServers := values.mcpServers
  agentSkills := values.agentSkills

/-- The table, and what each toolset contained when it was published, unless it was unpublished
since. -/
structure ToolsetStore where
  toolsets : List AgentToolset
  nextId : Nat
  now : Nat
  published : Nat → Option Content

namespace ToolsetStore

def find (st : ToolsetStore) (organizationId toolsetId : Nat) : Option AgentToolset :=
  st.toolsets.find? fun t => t.organizationId = organizationId ∧ t.id = toolsetId

def replace (st : ToolsetStore) (toolset : AgentToolset) : ToolsetStore :=
  { st with toolsets := st.toolsets.map fun t => if t.id = toolset.id then toolset else t }

/-- Another toolset has the slug in the unique index, which holds the slugs of public ones. -/
def conflicts (st : ToolsetStore) (toolsetId : Nat) (publicSlug : String) : Bool :=
  st.toolsets.any fun t =>
    t.id ≠ toolsetId ∧ t.visibility = .public_ ∧ t.publicSlug = some publicSlug

def publish (st : ToolsetStore) (toolset : AgentToolset) (publicSlug : String) : ToolsetStore :=
  { st.replace { toolset with
      visibility := .public_, publicSlug := some publicSlug, publishedAt := some st.now } with
    published := Function.update st.published toolset.id
      (some ((st.published toolset.id).getD toolset.content)) }

def unpublish (st : ToolsetStore) (toolset : AgentToolset) (visibility : DraftVisibility) :
    ToolsetStore :=
  { st.replace { toolset with
      visibility := visibility.1, publicSlug := none, publishedAt := none } with
    published := Function.update st.published toolset.id none }

def insert (st : ToolsetStore) (values : ToolsetValues) : ToolsetStore :=
  { st with toolsets := { values with id := st.nextId } :: st.toolsets, nextId := st.nextId + 1 }

def delete (st : ToolsetStore) (toolset : AgentToolset) : ToolsetStore :=
  { st with
    toolsets := st.toolsets.filter fun t => t.id ≠ toolset.id
    published := Function.update st.published toolset.id none }

end ToolsetStore

def performToolset (st : ToolsetStore) : (op : ToolsetOp) → op.Reply × ToolsetStore
  | .getAgentToolsetById organizationId toolsetId => (st.find organizationId toolsetId, st)
  | .insertAgentToolset values => ({ values with id := st.nextId }, st.insert values)
  | .updateAgentToolset toolsetId values =>
    match st.find values.organizationId toolsetId with
    | none => (none, st)
    | some t => (some { values with id := t.id }, st.replace { values with id := t.id })
  | .deleteAgentToolset organizationId toolsetId =>
    match st.find organizationId toolsetId with
    | none => (false, st)
    | some t => (true, st.delete t)
  | .publishAgentToolset organizationId toolsetId publicSlug =>
    match st.find organizationId toolsetId with
    | none => (.ok none, st)
    | some t =>
      if st.conflicts t.id publicSlug then (.error "PUBLIC_SLUG_CONFLICT", st)
      else (.ok ((st.publish t publicSlug).find organizationId toolsetId), st.publish t publicSlug)
  | .unpublishAgentToolset organizationId toolsetId visibility =>
    match st.find organizationId toolsetId with
    | none => (none, st)
    | some t =>
      ((st.unpublish t visibility).find organizationId toolsetId, st.unpublish t visibility)
  | .getPublicAgentToolsetBySlug publicSlug =>
    (st.toolsets.find? fun t => t.visibility = .public_ ∧ t.publicSlug = some publicSlug, st)

/-- Any number of requests of any organizations. -/
abbrev toolsetSystem : System ToolsetOps where
  Store := ToolsetStore
  Launch := Nat × ToolsetRequest
  Loop := Empty
  Outcome := Answer
  Choice := Unit
  Tick := Nat
  perform op st _ := some (performToolset st op)
  launch _ st := some st
  entry l := .inr <$> handle l.1 l.2
  body _ loop := nomatch loop
  finish _ _ st := st
  tick milliseconds st := some { st with now := st.now + milliseconds }

/-- No toolsets yet. -/
def noToolsets (now : Nat) : toolsetSystem.State where
  store := { toolsets := [], nextId := 0, now, published := fun _ => none }
  process _ := none

/-! ### The claim and its condition -/

/-- The content passes both checks. -/
def Content.Passes (content : Content) : Prop :=
  validateMcpPlaceholderPolicy content.mcpServers = .ok () ∧
    validateAgentSkillBundles content.agentSkills = .ok ()

/-- Public toolsets have a slug of their own and content that passes, and are as they were
published; the others have no slug. -/
structure GallerySound (st : ToolsetStore) : Prop where
  slug : ∀ t ∈ st.toolsets, t.visibility = .public_ → ∃ slug, t.publicSlug = some slug ∧
    ∀ u ∈ st.toolsets, u.publicSlug = some slug → u.id = t.id
  passes : ∀ t ∈ st.toolsets, t.visibility = .public_ → t.content.Passes
  hidden : ∀ t ∈ st.toolsets, t.visibility ≠ .public_ → t.publicSlug = none
  frozen : ∀ t ∈ st.toolsets, ∀ content, st.published t.id = some content →
    t.visibility = .public_ ∧ t.content = content

/-- What a request has read. -/
inductive Seen where
  | nothing
  | checked
  | existing (toolset : AgentToolset)
  | source (toolset : AgentToolset)

/-- An edit reads its toolset twice. -/
def Seen.look : Seen → Option AgentToolset → Seen
  | .nothing, _ => .checked
  | .checked, some t => .existing t
  | seen, _ => seen

def toolsetProtocol : Protocol ToolsetOps Seen where
  permits seen op := match op with
    | .insertAgentToolset values => values.visibility ≠ .public_ ∧ values.publicSlug = none ∧
        (values.content.Passes ∨ ∃ t, seen = .source t ∧ values.content = t.content)
    | .updateAgentToolset _ values => values.visibility ≠ .public_ ∧ values.content.Passes ∧
        ∃ t, seen = .existing t ∧ values.publicSlug = t.publicSlug
    | _ => True
  expects _ _ := True
  observe seen op reply := match op, reply with
    | .getAgentToolsetById _ _, found => seen.look found
    | .getPublicAgentToolsetBySlug _, found => found.elim seen .source
    | _, _ => seen

theorem checkContent_passes {mcpServers : List McpServerConfig}
    {agentSkills : List AgentSkillBundle} (ok : checkContent mcpServers agentSkills = .ok ()) :
    Content.Passes { mcpServers, agentSkills } := by
  unfold checkContent at ok
  split at ok
  · cases ok
  · next servers =>
    split at ok
    · cases ok
    · next skills => exact ⟨servers, skills⟩

theorem createToolset_follows (organizationId : Nat) (payload : ToolsetUpsert) :
    (createToolset organizationId payload).wp toolsetProtocol (fun _ _ => True) .nothing := by
  unfold createToolset
  split
  · trivial
  · next ok =>
    exact ⟨⟨payload.visibility.2, rfl, .inl (checkContent_passes ok)⟩, fun _ _ => trivial⟩

theorem updateAgentToolset_follows (organizationId toolsetId : Nat) {payload : ToolsetUpsert}
    (passes : Content.Passes { mcpServers := payload.mcpServers, agentSkills := payload.agentSkills }) :
    (updateAgentToolset organizationId toolsetId payload).wp toolsetProtocol
      (fun _ _ => True) .checked := by
  refine ⟨trivial, fun existing _ => ?_⟩
  cases existing with
  | none => trivial
  | some t => exact ⟨⟨payload.visibility.2, passes, t, rfl, rfl⟩, fun _ _ => trivial⟩

theorem updateToolset_follows (organizationId toolsetId : Nat) (payload : ToolsetUpsert) :
    (updateToolset organizationId toolsetId payload).wp toolsetProtocol (fun _ _ => True)
      .nothing := by
  refine ⟨trivial, fun current _ => ?_⟩
  cases current with
  | none => trivial
  | some current =>
    show Program.wp toolsetProtocol _ (if current.visibility = .public_ then _ else _) .checked
    split
    · trivial
    · show Program.wp toolsetProtocol _
        (match checkContent payload.mcpServers payload.agentSkills with | .error _ => _ | .ok () => _) _
      split
      · trivial
      · next ok =>
        exact Program.wp_seq
          (updateAgentToolset_follows organizationId toolsetId (checkContent_passes ok))
          fun _ _ _ => trivial

theorem publishToolset_follows (organizationId toolsetId : Nat) (publicSlug : String) :
    (publishToolset organizationId toolsetId publicSlug).wp toolsetProtocol (fun _ _ => True)
      .nothing := by
  refine ⟨trivial, fun current _ => ?_⟩
  cases current with
  | none => trivial
  | some current =>
    show Program.wp toolsetProtocol _
      (match checkContent current.mcpServers current.agentSkills with | .error _ => _ | .ok () => _) _
    split
    · trivial
    · refine ⟨trivial, fun published _ => ?_⟩
      cases published <;> trivial

theorem adoptToolset_follows (organizationId : Nat) (publicSlug : String)
    (name description : Option String) :
    (adoptToolset organizationId publicSlug name description).wp toolsetProtocol
      (fun _ _ => True) .nothing := by
  refine ⟨trivial, fun source _ => ?_⟩
  cases source with
  | none => trivial
  | some source => exact ⟨⟨fun is => (by cases is), rfl, .inr ⟨source, rfl, rfl⟩⟩, fun _ _ => trivial⟩

theorem handle_follows (organizationId : Nat) (request : ToolsetRequest) :
    (handle organizationId request).wp toolsetProtocol (fun _ _ => True) .nothing := by
  cases request with
  | create payload => exact createToolset_follows organizationId payload
  | update toolsetId payload => exact updateToolset_follows organizationId toolsetId payload
  | delete toolsetId => exact ⟨trivial, fun _ _ => trivial⟩
  | publish toolsetId slug => exact publishToolset_follows organizationId toolsetId slug
  | unpublish toolsetId visibility => exact ⟨trivial, fun _ _ => trivial⟩
  | adopt slug name description => exact adoptToolset_follows organizationId slug name description

def toolsetCertified : Certified toolsetSystem toolsetProtocol where
  start _ := .nothing
  looping _ loop _ := nomatch loop
  ended _ _ _ := True
  entry_follows l := Program.wp_seq (handle_follows l.1 l.2) fun _ _ ended => ended
  body_follows _ loop := nomatch loop
  replies _ _ _ _ _ _ := trivial

/-- The toolset, if it is there, is not public. -/
def IsDraft (st : ToolsetStore) (organizationId toolsetId : Nat) : Prop :=
  ∀ t ∈ st.find organizationId toolsetId, t.visibility ≠ .public_

instance (st : ToolsetStore) (organizationId toolsetId : Nat) :
    Decidable (IsDraft st organizationId toolsetId) := by
  unfold IsDraft
  infer_instance

/-- The transaction of an edit finds the toolset not public, when it reads it and when it
writes it. -/
def EditsDraft (s : toolsetSystem.State) (a : toolsetSystem.Action) : Prop :=
  match toolsetCertified.issued s a with
  | some (.checked, .getAgentToolsetById organizationId toolsetId) =>
    IsDraft s.store organizationId toolsetId
  | some (_, .updateAgentToolset toolsetId values) =>
    IsDraft s.store values.organizationId toolsetId
  | _ => True

instance (s : toolsetSystem.State) (a : toolsetSystem.Action) : Decidable (EditsDraft s a) := by
  unfold EditsDraft
  split <;> infer_instance

/-! ### What every request keeps -/

/-- A row is sound on its own. -/
structure RowSound (published : Nat → Option Content) (t : AgentToolset) : Prop where
  passes : t.content.Passes
  slug : t.visibility = .public_ ↔ t.publicSlug.isSome = true
  frozen : ∀ content, published t.id = some content →
    t.visibility = .public_ ∧ t.content = content

structure TableSound (st : ToolsetStore) : Prop where
  rows : ∀ t ∈ st.toolsets, RowSound st.published t
  ids : ∀ t ∈ st.toolsets, ∀ u ∈ st.toolsets, t.id = u.id → t = u
  slugs : ∀ t ∈ st.toolsets, ∀ u ∈ st.toolsets, ∀ slug, t.publicSlug = some slug →
    u.publicSlug = some slug → t.id = u.id
  fresh : ∀ t ∈ st.toolsets, t.id < st.nextId
  unknown : ∀ id, st.nextId ≤ id → st.published id = none

section table
variable {st : ToolsetStore} {t : AgentToolset}

theorem mem_of_find {organizationId toolsetId : Nat}
    (found : st.find organizationId toolsetId = some t) :
    t ∈ st.toolsets ∧ t.organizationId = organizationId ∧ t.id = toolsetId := by
  have matched := List.find?_some found
  exact ⟨List.mem_of_find?_eq_some found, by simpa using matched⟩

theorem mem_replace {new : AgentToolset} (u : AgentToolset) (mem : u ∈ (st.replace new).toolsets) :
    u = new ∨ (u ∈ st.toolsets ∧ u.id ≠ new.id) := by
  obtain ⟨v, there, rfl⟩ := List.mem_map.mp mem
  by_cases same : v.id = new.id
  · exact .inl (if_pos same)
  · rw [if_neg same]
    exact .inr ⟨there, same⟩

/-- A row is replaced by one that is sound, and whose slug no other row has. -/
theorem tableSound_replace (sound : TableSound st) (mem : t ∈ st.toolsets) (new : AgentToolset)
    (published : Nat → Option Content) (same : new.id = t.id) (row : RowSound published new)
    (others : ∀ id, id ≠ t.id → published id = st.published id)
    (own : ∀ u ∈ st.toolsets, u.id ≠ t.id → ∀ slug, new.publicSlug = some slug →
      u.publicSlug ≠ some slug) : TableSound { st.replace new with published } where
  rows u there := by
    obtain rfl | ⟨there, different⟩ := mem_replace u there
    · exact row
    · obtain ⟨passes, slug, frozen⟩ := sound.rows u there
      refine ⟨passes, slug, fun content was => frozen content ?_⟩
      rwa [← others u.id (by rwa [← same])]
  ids u there v also is := by
    obtain rfl | ⟨there, different⟩ := mem_replace u there
    · obtain rfl | ⟨-, different⟩ := mem_replace v also
      · rfl
      · exact absurd is.symm different
    · obtain rfl | ⟨also, -⟩ := mem_replace v also
      · exact absurd is different
      · exact sound.ids u there v also is
  slugs u there v also slug has too := by
    obtain rfl | ⟨there, different⟩ := mem_replace u there
    · obtain rfl | ⟨also, different⟩ := mem_replace v also
      · rfl
      · exact absurd too (own v also (by rwa [← same]) slug has)
    · obtain rfl | ⟨also, -⟩ := mem_replace v also
      · exact absurd has (own u ‹_› (by rwa [← same]) slug too)
      · exact sound.slugs u there v also slug has too
  fresh u there := by
    obtain rfl | ⟨there, -⟩ := mem_replace u there
    · rw [same]
      exact sound.fresh t mem
    · exact sound.fresh u there
  unknown id large := by
    have different : id ≠ t.id := by
      have small := sound.fresh t mem
      have large : st.nextId ≤ id := large
      omega
    exact (others id different).trans (sound.unknown id large)

theorem tableSound_insert (sound : TableSound st) {values : ToolsetValues}
    (draft : values.visibility ≠ .public_) (none_ : values.publicSlug = none)
    (passes : values.content.Passes) : TableSound (st.insert values) where
  rows u there := by
    obtain rfl | there := List.mem_cons.mp there
    · refine ⟨passes, by simp [draft, none_], fun content was => ?_⟩
      rw [show (st.insert values).published st.nextId = none from sound.unknown _ le_rfl] at was
      cases was
    · exact sound.rows u there
  ids u there v also is := by
    obtain rfl | there := List.mem_cons.mp there
    · obtain rfl | also := List.mem_cons.mp also
      · rfl
      · exact absurd is (sound.fresh v also).ne'
    · obtain rfl | also := List.mem_cons.mp also
      · exact absurd is (sound.fresh u there).ne
      · exact sound.ids u there v also is
  slugs u there v also slug has too := by
    obtain rfl | there := List.mem_cons.mp there
    · rw [none_] at has
      cases has
    · obtain rfl | also := List.mem_cons.mp also
      · rw [none_] at too
        cases too
      · exact sound.slugs u there v also slug has too
  fresh u there := by
    obtain rfl | there := List.mem_cons.mp there
    · exact Nat.lt_succ_self _
    · exact Nat.lt_succ_of_lt (sound.fresh u there)
  unknown id large := sound.unknown id (Nat.le_of_succ_le large)

theorem tableSound_delete (sound : TableSound st) (mem : t ∈ st.toolsets) :
    TableSound (st.delete t) where
  rows u there := by
    obtain ⟨there, different⟩ := List.mem_filter.mp there
    obtain ⟨passes, slug, frozen⟩ := sound.rows u there
    refine ⟨passes, slug, fun content was => frozen content ?_⟩
    rwa [show (st.delete t).published u.id = st.published u.id from
      Function.update_of_ne (by simpa using different) _ _] at was
  ids u there v also := sound.ids u (List.mem_filter.mp there).1 v (List.mem_filter.mp also).1
  slugs u there v also :=
    sound.slugs u (List.mem_filter.mp there).1 v (List.mem_filter.mp also).1
  fresh u there := sound.fresh u (List.mem_filter.mp there).1
  unknown id large := by
    have different : id ≠ t.id := by
      have small := sound.fresh t mem
      have large : st.nextId ≤ id := large
      omega
    rw [show (st.delete t).published id = st.published id from Function.update_of_ne different _ _]
    exact sound.unknown id large

/-- The index lets the publish through. -/
theorem tableSound_publish (sound : TableSound st) (mem : t ∈ st.toolsets) {publicSlug : String}
    (free : st.conflicts t.id publicSlug = false) : TableSound (st.publish t publicSlug) := by
  obtain ⟨passes, -, frozen⟩ := sound.rows t mem
  refine tableSound_replace sound mem _ _ rfl ⟨passes, by simp, fun content was => ⟨rfl, ?_⟩⟩
    (fun id different => Function.update_of_ne different _ _) fun u there different slug is also => ?_
  · rw [show Function.update st.published t.id _ t.id = _ from Function.update_self ..] at was
    rw [← Option.some.inj was]
    cases before : st.published t.id with
    | none => rfl
    | some content => exact (frozen content before).2
  · rw [← Option.some.inj is] at also
    have public_ := (sound.rows u there).slug.mpr (by rw [also]; rfl)
    rw [ToolsetStore.conflicts, List.any_eq_false] at free
    exact free u there (by simp [different, public_, also])

theorem tableSound_unpublish (sound : TableSound st) (mem : t ∈ st.toolsets)
    (visibility : DraftVisibility) : TableSound (st.unpublish t visibility) := by
  refine tableSound_replace sound mem { t with
      visibility := visibility.1, publicSlug := none, publishedAt := none } _ rfl
    ⟨(sound.rows t mem).passes, by simp [visibility.2], fun content was => ?_⟩
    (fun id different => Function.update_of_ne different _ _) fun u _ _ slug is => by cases is
  rw [show Function.update st.published t.id none t.id = none from Function.update_self ..] at was
  cases was

/-- An edit of a toolset that is not public, whose slug is then none. -/
theorem tableSound_update (sound : TableSound st) (mem : t ∈ st.toolsets)
    (draft : t.visibility ≠ .public_) {values : ToolsetValues}
    (still : values.visibility ≠ .public_) (none_ : values.publicSlug = none)
    (passes : values.content.Passes) : TableSound (st.replace { values with id := t.id }) := by
  refine tableSound_replace sound mem { values with id := t.id } _ rfl
    ⟨passes, by simp [still, none_], fun content was => ?_⟩
    (fun _ _ => rfl) fun u _ _ slug is => ?_
  · exact absurd ((sound.rows t mem).frozen content was).1 draft
  · rw [none_] at is
    cases is

end table

theorem gallerySound_of_table {st : ToolsetStore} (sound : TableSound st) : GallerySound st where
  slug t mem public_ := by
    obtain ⟨slug, is⟩ := Option.isSome_iff_exists.mp ((sound.rows t mem).slug.mp public_)
    exact ⟨slug, is, fun u there has => sound.slugs u there t mem slug has is⟩
  passes t mem _ := (sound.rows t mem).passes
  hidden t mem draft := by
    rw [← Option.not_isSome_iff_eq_none, ← (sound.rows t mem).slug]
    exact draft
  frozen t mem := (sound.rows t mem).frozen

/-- What is still true of what a request has read. -/
def Seen.Holds : Seen → Prop
  | .existing t => t.publicSlug = none
  | .source t => t.content.Passes
  | _ => True

section step
variable {st : ToolsetStore} {seen : Seen} {op : ToolsetOp}

theorem tableSound_perform (sound : TableSound st) (permitted : toolsetProtocol.permits seen op)
    (holds : seen.Holds) (draft : ∀ toolsetId values, op = .updateAgentToolset toolsetId values →
      IsDraft st values.organizationId toolsetId) : TableSound (performToolset st op).2 := by
  cases op with
  | getAgentToolsetById => exact sound
  | getPublicAgentToolsetBySlug => exact sound
  | insertAgentToolset values =>
    obtain ⟨still, none_, passes | ⟨t, rfl, same⟩⟩ := permitted
    · exact tableSound_insert sound still none_ passes
    · exact tableSound_insert sound still none_ (by rw [same]; exact holds)
  | updateAgentToolset toolsetId values =>
    obtain ⟨still, passes, t, rfl, slug⟩ := permitted
    simp only [performToolset]
    split
    · exact sound
    · next found =>
      exact tableSound_update sound (mem_of_find found).1 (draft toolsetId values rfl _ found) still
        (slug.trans holds) passes
  | deleteAgentToolset =>
    simp only [performToolset]
    split
    · exact sound
    · next found => exact tableSound_delete sound (mem_of_find found).1
  | publishAgentToolset =>
    simp only [performToolset]
    split
    · exact sound
    · next found =>
      split
      · exact sound
      · next free => exact tableSound_publish sound (mem_of_find found).1 (by simpa using free)
  | unpublishAgentToolset _ _ visibility =>
    simp only [performToolset]
    split
    · exact sound
    · next found => exact tableSound_unpublish sound (mem_of_find found).1 visibility

theorem holds_observe (sound : TableSound st) (holds : seen.Holds)
    (draft : ∀ organizationId toolsetId, seen = .checked →
      op = .getAgentToolsetById organizationId toolsetId → IsDraft st organizationId toolsetId) :
    (toolsetProtocol.observe seen op (performToolset st op).1).Holds := by
  cases op with
  | getAgentToolsetById organizationId toolsetId =>
    show (seen.look (st.find organizationId toolsetId)).Holds
    cases seen with
    | nothing => trivial
    | checked =>
      cases found : st.find organizationId toolsetId with
      | none => trivial
      | some t =>
        exact (gallerySound_of_table sound).hidden t (mem_of_find found).1
          (draft organizationId toolsetId rfl rfl t found)
    | existing t => exact holds
    | source t => exact holds
  | getPublicAgentToolsetBySlug publicSlug =>
    show ((performToolset st (.getPublicAgentToolsetBySlug publicSlug)).1.elim seen .source).Holds
    cases found : (performToolset st (.getPublicAgentToolsetBySlug publicSlug)).1 with
    | none => exact holds
    | some t => exact (sound.rows t (List.mem_of_find?_eq_some found)).passes
  | _ => exact holds

end step

structure ToolsetInv (st : ToolsetStore) (crew : Nat → Option ((Nat × ToolsetRequest) × Seen)) :
    Prop where
  table : TableSound st
  reads : ∀ i q, crew i = some q → q.2.Holds

theorem toolsetInv_step {s t : toolsetSystem.State} {a : toolsetSystem.Action}
    (all : toolsetCertified.AllFollow s)
    (inv : ToolsetInv s.store (toolsetCertified.crew s)) (meets : EditsDraft s a)
    (stepped : System.Stepped s a t) : ToolsetInv t.store (toolsetCertified.crew t) := by
  have happened := Certified.happened all stepped
  generalize toolsetCertified.crew t = crew at happened ⊢
  generalize t.store = store at happened ⊢
  cases happened with
  | launch free launched =>
    cases launched
    refine ⟨inv.table, fun i q there => ?_⟩
    obtain ⟨-, same⟩ | ⟨-, there⟩ := update_cases there
    · rw [← Option.some.inj same]
      trivial
    · exact inv.reads i q there
  | call here issues permitted performed =>
    have holds := inv.reads _ _ here
    obtain ⟨rfl, rfl⟩ := Prod.mk.inj (Option.some.inj performed)
    refine ⟨tableSound_perform inv.table permitted holds ?_, fun i q there => ?_⟩
    · rintro toolsetId values rfl
      unfold EditsDraft at meets
      simpa only [issues] using meets
    · obtain ⟨-, same⟩ | ⟨-, there⟩ := update_cases there
      · rw [← Option.some.inj same]
        refine holds_observe inv.table holds ?_
        rintro organizationId toolsetId rfl rfl
        unfold EditsDraft at meets
        simpa only [issues] using meets
      · exact inv.reads i q there
  | loop => exact inv
  | finish here ended =>
    refine ⟨inv.table, fun i q there => ?_⟩
    obtain ⟨-, same⟩ | ⟨-, there⟩ := update_cases there
    · cases same
    · exact inv.reads i q there
  | tick ticked =>
    cases ticked
    obtain ⟨rows, ids, slugs, fresh, unknown⟩ := inv.table
    exact ⟨⟨rows, ids, slugs, fresh, unknown⟩, inv.reads⟩

/-- The gallery is sound in every run whose edits find their toolset not public. -/
theorem gallery_sound (now : Nat) {s : toolsetSystem.State}
    (run : System.Steps EditsDraft (noToolsets now) s) : GallerySound s.store := by
  have empty : TableSound (noToolsets now).store :=
    ⟨fun _ mem => (by cases mem), fun _ mem => (by cases mem), fun _ mem => (by cases mem),
      fun _ mem => (by cases mem), fun _ _ => rfl⟩
  have inv := (toolsetCertified.invariant
    (fun s => ToolsetInv s.store (toolsetCertified.crew s)) (fun _ => rfl)
    ⟨empty, fun _ _ there => (by cases there)⟩
    (fun _ _ _ all inv meets stepped => toolsetInv_step all inv meets stepped) run).2
  exact gallerySound_of_table inv.table

/-! ### An edit that overlaps a publish -/

/-- A toolset without servers and skills, under another name. -/
def emptyToolset (name : String) : ToolsetUpsert where
  name := name
  description := none
  visibility := ⟨.org, by decide⟩
  mcpServers := []
  agentSkills := []

/-- Organization `0` runs a request on its own, with the given number of statements. -/
def request (id : Nat) (request : ToolsetRequest) (calls : Nat) : List toolsetSystem.Action :=
  .launch id (0, request) :: List.replicate calls (.call id ()) ++ [.finish id]

/-- A toolset is made, published and refuses an edit. -/
theorem gallery_sound_published : ∃ s, System.Steps EditsDraft (noToolsets 0) s ∧
    s.store.toolsets.map (fun t => (t.visibility, t.publicSlug)) = [(.public_, some "tools")] ∧
      GallerySound s.store := by
  have ended : (System.exec EditsDraft (noToolsets 0)
      (request 0 (.create (emptyToolset "a")) 1 ++ request 0 (.publish 0 "tools") 2 ++
        request 0 (.update 0 (emptyToolset "b")) 1)).map
          (fun s => s.store.toolsets.map fun t => (t.visibility, t.publicSlug)) =
        some [(.public_, some "tools")] := by decide +kernel
  obtain ⟨s, ran, rows⟩ := Option.map_eq_some_iff.mp ended
  have steps := System.steps_of_exec ran
  exact ⟨s, steps, rows, gallery_sound 0 steps⟩

/-- An edit checks its toolset, the toolset is published, and the edit goes on. -/
theorem published_toolset_edited : ¬ ∀ (now : Nat) (s : toolsetSystem.State),
    System.Steps (fun _ _ => True) (noToolsets now) s → GallerySound s.store := by
  intro claim
  have ended : (System.exec (fun _ _ => True) (noToolsets 0)
      (request 0 (.create (emptyToolset "a")) 1 ++
        [.launch 0 (0, .update 0 (emptyToolset "b")), .call 0 ()] ++
        request 1 (.publish 0 "tools") 2 ++ [.call 0 (), .call 0 (), .finish 0])).map
          (fun s => s.store.toolsets.map fun t => (t.visibility, t.publicSlug)) =
        some [(.org, some "tools")] := by decide +kernel
  obtain ⟨s, ran, rows⟩ := Option.map_eq_some_iff.mp ended
  obtain ⟨t, mem, is⟩ := List.map_eq_singleton_iff.mp rows
  obtain ⟨visibility, slug⟩ := Prod.mk.inj is
  have hidden := (claim 0 s (System.steps_of_exec ran)).hidden t (by rw [mem]; exact List.mem_cons_self)
    (by rw [visibility]; exact ToolsetVisibility.noConfusion)
  rw [slug] at hidden
  cases hidden

end Vespid.Api.Toolsets
