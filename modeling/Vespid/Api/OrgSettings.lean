import Mathlib.Logic.Function.Basic
import Vespid.Js
import Vespid.ProviderRegistry
import Vespid.Workflow.Dsl

/-!
# Organization settings

The settings are one JSON document. They are normalized when they are read; an update is merged with
what was read, section by section, and the whole document is written back.
-/

namespace Vespid.Api.OrgSettings

open ProviderRegistry

/-- The checks of texts that are not in the repository. -/
structure Formats where
  uuid : String → Bool
  url : String → Bool
  lower : LowerCase

/-- `z.string().min(1).max(200)` -/
abbrev ModelName := { s : String // Workflow.stringBetween 1 200 s = true }

/-- A provider that can be the default of sessions. -/
abbrev SessionProvider := { id : LlmProviderId // id.servesSessions = true }

inductive LlmProviderApiKind where
  | openaiCompatible | anthropicCompatible | google | vertex | bedrock | copilot | custom
  deriving DecidableEq

namespace LlmProviderApiKind

def name : LlmProviderApiKind → String
  | openaiCompatible => "openai-compatible"
  | anthropicCompatible => "anthropic-compatible"
  | google => "google"
  | vertex => "vertex"
  | bedrock => "bedrock"
  | copilot => "copilot"
  | custom => "custom"

/-- `llmApiKindValues` -/
def all : List LlmProviderApiKind :=
  [.openaiCompatible, .anthropicCompatible, .google, .vertex, .bedrock, .copilot, .custom]

def ofName (name : String) : Option LlmProviderApiKind := all.find? fun kind => kind.name = name

@[simp] theorem ofName_name (kind : LlmProviderApiKind) : ofName kind.name = some kind := by
  cases kind <;> rfl

end LlmProviderApiKind

inductive Engine where
  | codex | claude | opencode
  deriving DecidableEq

def Engine.key : Engine → String
  | codex => "gateway.codex.v2"
  | claude => "gateway.claude.v2"
  | opencode => "gateway.opencode.v2"

def engineKeys : List String := [Engine.codex.key, Engine.claude.key, Engine.opencode.key]

inductive AuthMode where
  | oauthExecutor | apiKey
  deriving DecidableEq

/-! ### Settings -/

section settings
variable (formats : Formats)

abbrev Uuid := { s : String // formats.uuid s = true }

/-- `z.string().url().max(2000)` -/
abbrev BaseUrl := { s : String // (formats.url s && jsLength s ≤ 2000) = true }

structure PrimaryDefault where
  provider : Option SessionProvider
  model : Option ModelName
  secretId : Option (Uuid formats)

structure ProviderConf where
  baseUrl : Option (BaseUrl formats)
  apiKind : Option LlmProviderApiKind

/-- An executor that signs in by itself has no secret. -/
inductive AgentEngineAuthDefault where
  | oauthExecutor
  | apiKey (secretId : Option (Uuid formats))

structure Settings where
  shellRunEnabled : Bool
  defaultToolsetId : Option (Uuid formats)
  primary : PrimaryDefault formats
  providers : LlmProviderId → Option (ProviderConf formats)
  engineAuth : Engine → AgentEngineAuthDefault formats
  engineRuntime : Engine → Option (BaseUrl formats)

/-- What `agentEngineAuthDefaultSchema` accepts. -/
structure AuthPatch where
  mode : Option AuthMode
  secretId : Option (Uuid formats)

/-- A body that `orgSettingsSchema` accepts; a body without a setting has `none` for it. -/
structure Body where
  shellRunEnabled : Option Bool
  defaultToolsetId : Option (Option (Uuid formats))
  primary : Option (PrimaryDefault formats)
  providers : List (String × ProviderConf formats)
  engineAuth : Engine → Option (AuthPatch formats)
  engineRuntime : Engine → Option (Option (BaseUrl formats))

end settings

/-! ### Schemas -/

/-- `value ?? {}` -/
def orEmpty : Option Json → Json
  | none | some .null => .obj []
  | some value => value

/-- The fields of an object that has no others. -/
def strictObject (keys : List String) (value : Json) : Option (List (String × Json)) :=
  value.asObject.filter fun fields => fields.all fun field => keys.contains field.1

/-- A field that may be absent or null; `none` where it is neither and not valid. -/
def nullable (valid : String → Bool) :
    Option Json → Option (Option { s : String // valid s = true })
  | none | some .null => some none
  | some (.str s) => if is : valid s = true then some (some ⟨s, is⟩) else none
  | _ => none

/-- A field whose value counts only where it is valid. -/
def readText (valid : String → Bool) : Option Json → Option { s : String // valid s = true }
  | some (.str s) => if is : valid s = true then some ⟨s, is⟩ else none
  | _ => none

section schemas
variable {formats : Formats}

/-- `llmNullableProviderInputSchema.optional()` with the refinement of `llmDefaultPrimarySchema` -/
def sessionProvider (lower : LowerCase) : Option Json → Option (Option SessionProvider)
  | none | some .null => some none
  | some (.str s) =>
    match normalizeLlmProviderId lower s with
    | none => none
    | some id => if is : id.servesSessions = true then some (some ⟨id, is⟩) else none
  | _ => none

def llmDefaultPrimarySchema (value : Json) : Option (PrimaryDefault formats) := do
  let fields ← strictObject ["provider", "model", "secretId"] value
  let provider ← sessionProvider formats.lower (fields.lookup "provider")
  let model ← nullable (Workflow.stringBetween 1 200) (fields.lookup "model")
  let secretId ← nullable formats.uuid (fields.lookup "secretId")
  return { provider, model, secretId }

def authMode : Option Json → Option (Option AuthMode)
  | none => some none
  | some (.str "oauth_executor") => some (some .oauthExecutor)
  | some (.str "api_key") => some (some .apiKey)
  | _ => none

def agentEngineAuthDefaultSchema (value : Json) : Option (AuthPatch formats) := do
  let fields ← strictObject ["mode", "secretId"] value
  let mode ← authMode (fields.lookup "mode")
  let secretId ← nullable formats.uuid (fields.lookup "secretId")
  return { mode, secretId }

def agentEngineRuntimeDefaultSchema (value : Json) : Option (Option (BaseUrl formats)) := do
  let fields ← strictObject ["baseUrl"] value
  nullable (fun s => formats.url s && jsLength s ≤ 2000) (fields.lookup "baseUrl")

/-- An object with an optional field for each engine. -/
def enginesSchema (accepts : Json → Bool) (value : Json) : Option (Engine → Option Json) :=
  (strictObject engineKeys value).bind fun fields =>
    if [Engine.codex, .claude, .opencode].all fun engine => (fields.lookup engine.key).all accepts
    then some fun engine => fields.lookup engine.key
    else none

/-! ### Normalization -/

theorem defaultModel_valid (id : LlmProviderId) :
    Workflow.stringBetween 1 200 id.defaultModelId = true := by
  cases id <;> decide +kernel

/-- `normalizeProviderDefault` for sessions: a provider without a model gets its default one. -/
def PrimaryDefault.filled (primary : PrimaryDefault formats) : PrimaryDefault formats :=
  match primary.provider, primary.model with
  | some provider, none =>
    { primary with model := some ⟨provider.val.defaultModelId, defaultModel_valid _⟩ }
  | _, _ => primary

def defaultEngineAuthMode : Engine → AuthMode
  | .opencode => .apiKey
  | _ => .oauthExecutor

def AuthPatch.resolve (engine : Engine) (patch : AuthPatch formats) :
    AgentEngineAuthDefault formats :=
  match patch.mode.getD (defaultEngineAuthMode engine) with
  | .oauthExecutor => .oauthExecutor
  | .apiKey => .apiKey patch.secretId

def normalizeAgentEngineAuthDefault (engine : Engine) (value : Option Json) :
    AgentEngineAuthDefault formats :=
  ((agentEngineAuthDefaultSchema (orEmpty value)).getD { mode := none, secretId := none }).resolve
    engine

def normalizeAgentEngineAuthDefaults (value : Option Json) (engine : Engine) :
    AgentEngineAuthDefault formats :=
  let accepts := fun v => (@agentEngineAuthDefaultSchema formats v).isSome
  normalizeAgentEngineAuthDefault engine
    ((enginesSchema accepts (orEmpty value)).bind fun raw => raw engine)

def normalizeAgentEngineRuntimeDefault (value : Option Json) : Option (BaseUrl formats) :=
  (agentEngineRuntimeDefaultSchema (orEmpty value)).join

def normalizeAgentEngineRuntimeDefaults (value : Option Json) (engine : Engine) :
    Option (BaseUrl formats) :=
  let accepts := fun v => (@agentEngineRuntimeDefaultSchema formats v).isSome
  normalizeAgentEngineRuntimeDefault
    ((enginesSchema accepts (orEmpty value)).bind fun raw => raw engine)

def readProviderConf (conf : Json) : ProviderConf formats where
  baseUrl := readText (fun s => formats.url s && jsLength s ≤ 2000) (conf.field? "baseUrl")
  apiKind := match conf.field? "apiKind" with
    | some (.str s) => LlmProviderApiKind.ofName s
    | _ => none

/-- The entries of known providers over what there was; of two entries of one provider the later
counts. -/
def putProviders (lower : LowerCase) (existing : LlmProviderId → Option (ProviderConf formats))
    (entries : List (String × ProviderConf formats)) :
    LlmProviderId → Option (ProviderConf formats) :=
  entries.foldl (fun out entry =>
    match normalizeLlmProviderId lower entry.1 with
    | none => out
    | some id => Function.update out id (some entry.2)) existing

def normalizeOrgSettings (input : Json) : Settings formats where
  shellRunEnabled :=
    match (input.field? "tools").bind (·.field? "shellRunEnabled") with
    | some (.bool b) => b
    | _ => false
  defaultToolsetId :=
    readText formats.uuid ((input.field? "toolsets").bind (·.field? "defaultToolsetId"))
  primary :=
    let primaryRaw := ((input.field? "llm").bind (·.field? "defaults")).bind (·.field? "primary")
    ((llmDefaultPrimarySchema (orEmpty primaryRaw)).getD
      { provider := none, model := none, secretId := none }).filled
  providers :=
    let providersRaw := ((input.field? "llm").bind (·.field? "providers")).bind (·.asObject)
    putProviders formats.lower (fun _ => none)
      ((providersRaw.getD []).map fun entry => (entry.1, readProviderConf entry.2))
  engineAuth := normalizeAgentEngineAuthDefaults
    ((input.field? "agents").bind (·.field? "engineAuthDefaults"))
  engineRuntime := normalizeAgentEngineRuntimeDefaults
    ((input.field? "agents").bind (·.field? "engineRuntimeDefaults"))

/-! ### The document -/

def jsonText {valid : String → Bool} : Option { s : String // valid s = true } → Json
  | none => .null
  | some s => .str s.val

def PrimaryDefault.toJson (primary : PrimaryDefault formats) : Json :=
  .obj [("provider", match primary.provider with
      | none => .null
      | some provider => .str provider.val.name),
    ("model", jsonText primary.model), ("secretId", jsonText primary.secretId)]

def ProviderConf.toJson (conf : ProviderConf formats) : Json :=
  .obj [("baseUrl", jsonText conf.baseUrl), ("apiKind", match conf.apiKind with
    | none => .null
    | some kind => .str kind.name)]

def AgentEngineAuthDefault.toJson : AgentEngineAuthDefault formats → Json
  | oauthExecutor => .obj [("mode", .str "oauth_executor"), ("secretId", .null)]
  | apiKey secretId => .obj [("mode", .str "api_key"), ("secretId", jsonText secretId)]

def runtimeJson (baseUrl : Option (BaseUrl formats)) : Json := .obj [("baseUrl", jsonText baseUrl)]

def enginesJson (value : Engine → Json) : Json :=
  .obj [(Engine.codex.key, value .codex), (Engine.claude.key, value .claude),
    (Engine.opencode.key, value .opencode)]

def providersJson (providers : LlmProviderId → Option (ProviderConf formats)) : Json :=
  .obj (LlmProviderId.all.filterMap fun id => (providers id).map fun conf => (id.name, conf.toJson))

def Settings.toJson (s : Settings formats) : Json :=
  .obj [("tools", .obj [("shellRunEnabled", .bool s.shellRunEnabled)]),
    ("toolsets", .obj [("defaultToolsetId", jsonText s.defaultToolsetId)]),
    ("llm", .obj [("defaults", .obj [("primary", s.primary.toJson)]),
      ("providers", providersJson s.providers)]),
    ("agents", .obj [("engineAuthDefaults", enginesJson fun engine => (s.engineAuth engine).toJson),
      ("engineRuntimeDefaults", enginesJson fun engine => runtimeJson (s.engineRuntime engine))])]

/-- What is written for a body over the settings that were read. -/
def merge (body : Body formats) (existing : Settings formats) : Settings formats where
  shellRunEnabled := body.shellRunEnabled.getD existing.shellRunEnabled
  defaultToolsetId := body.defaultToolsetId.getD existing.defaultToolsetId
  primary := body.primary.getD existing.primary
  providers := putProviders formats.lower existing.providers body.providers
  engineAuth engine :=
    ((body.engineAuth engine).map fun patch => patch.resolve engine).getD
      (existing.engineAuth engine)
  engineRuntime engine := (body.engineRuntime engine).getD (existing.engineRuntime engine)

end schemas

/-! ### What was written is read back -/

section readBack
variable {formats : Formats}

theorem nullable_jsonText {valid : String → Bool} (s : Option { s : String // valid s = true }) :
    nullable valid (some (jsonText s)) = some s := by
  cases s with
  | none => rfl
  | some s => exact dif_pos s.property

theorem readText_jsonText {valid : String → Bool} (s : Option { s : String // valid s = true }) :
    readText valid (some (jsonText s)) = s := by
  cases s with
  | none => rfl
  | some s => exact dif_pos s.property

theorem sessionProvider_name (lower : LowerCase) (provider : SessionProvider) :
    sessionProvider lower (some (.str provider.val.name)) = some (some provider) := by
  unfold sessionProvider
  simp only [normalize_name]
  exact dif_pos provider.property

theorem strictObject_obj {keys : List String} {fields : List (String × Json)}
    (within : fields.all (fun field => keys.contains field.1) = true) :
    strictObject keys (.obj fields) = some fields := by
  unfold strictObject
  simp only [Json.asObject, Option.filter, within, if_true]

theorem orEmpty_engines (value : Engine → Json) :
    orEmpty (some (enginesJson value)) = enginesJson value := rfl

theorem primarySchema_toJson (primary : PrimaryDefault formats) :
    llmDefaultPrimarySchema primary.toJson = some primary := by
  obtain ⟨provider, model, secretId⟩ := primary
  have read : sessionProvider formats.lower (some (match provider with
      | none => .null
      | some provider => .str provider.val.name)) = some provider := by
    cases provider with
    | none => rfl
    | some provider => exact sessionProvider_name ..
  unfold llmDefaultPrimarySchema PrimaryDefault.toJson
  rw [strictObject_obj (by simp)]
  simp [List.lookup_cons, read, nullable_jsonText]

theorem authSchema_toJson (default : AgentEngineAuthDefault formats) (engine : Engine) :
    (@agentEngineAuthDefaultSchema formats default.toJson).isSome = true ∧
      normalizeAgentEngineAuthDefault engine (some default.toJson) = default := by
  have fields (mode secretId : Json) :
      strictObject ["mode", "secretId"] (.obj [("mode", mode), ("secretId", secretId)]) =
        some [("mode", mode), ("secretId", secretId)] := strictObject_obj (by simp)
  unfold normalizeAgentEngineAuthDefault agentEngineAuthDefaultSchema
  cases default with
  | oauthExecutor =>
    unfold AgentEngineAuthDefault.toJson
    simp [orEmpty, fields, List.lookup_cons, authMode, nullable, AuthPatch.resolve]
  | apiKey secretId =>
    unfold AgentEngineAuthDefault.toJson
    simp [orEmpty, fields, List.lookup_cons, authMode, nullable_jsonText, AuthPatch.resolve]

theorem runtimeSchema_json (baseUrl : Option (BaseUrl formats)) :
    agentEngineRuntimeDefaultSchema (runtimeJson baseUrl) = some baseUrl := by
  unfold agentEngineRuntimeDefaultSchema runtimeJson
  rw [strictObject_obj (by simp)]
  exact nullable_jsonText baseUrl

/-- The field of an engine in an object of all three. -/
theorem enginesSchema_json {accepts : Json → Bool} {value : Engine → Json}
    (all : ∀ engine, accepts (value engine) = true) :
    enginesSchema accepts (enginesJson value) = some fun engine => some (value engine) := by
  have fields (engine : Engine) : [(Engine.codex.key, value .codex),
      (Engine.claude.key, value .claude), (Engine.opencode.key, value .opencode)].lookup
        engine.key = some (value engine) := by
    cases engine <;> simp [List.lookup_cons, Engine.key]
  unfold enginesSchema enginesJson
  rw [strictObject_obj (by simp [engineKeys])]
  simp [fields, all]

/-- Entries that stand under the names of providers. -/
theorem putProviders_named (lower : LowerCase)
    (providers : LlmProviderId → Option (ProviderConf formats)) (ids : List LlmProviderId)
    (out : LlmProviderId → Option (ProviderConf formats)) (id : LlmProviderId) :
    putProviders lower out (ids.filterMap fun id => (providers id).map fun conf => (id.name, conf))
        id = if id ∈ ids then (providers id).or (out id) else out id := by
  unfold putProviders
  induction ids generalizing out with
  | nil => rfl
  | cons first rest ih =>
    rw [List.filterMap_cons]
    cases conf : providers first with
    | none =>
      simp only [Option.map_none]
      rw [ih]
      by_cases same : id = first
      · subst same
        simp [conf]
      · simp [same]
    | some conf =>
      simp only [Option.map_some, List.foldl_cons, normalize_name]
      rw [ih]
      by_cases same : id = first
      · subst same
        simp [conf]
      · simp [same]

theorem providerConf_toJson (conf : ProviderConf formats) :
    readProviderConf conf.toJson = conf := by
  obtain ⟨baseUrl, apiKind⟩ := conf
  unfold readProviderConf ProviderConf.toJson
  cases apiKind with
  | none => simp [List.lookup_cons, readText_jsonText]
  | some kind => simp [List.lookup_cons, readText_jsonText]

theorem providers_json (providers : LlmProviderId → Option (ProviderConf formats)) :
    putProviders formats.lower (fun _ => none)
      ((((providersJson providers).asObject).getD []).map fun entry =>
        (entry.1, readProviderConf entry.2)) = providers := by
  have entries : (((providersJson providers).asObject).getD []).map
      (fun entry => (entry.1, @readProviderConf formats entry.2)) =
        LlmProviderId.all.filterMap fun id => (providers id).map fun conf => (id.name, conf) := by
    unfold providersJson
    simp only [Json.asObject, Option.getD_some, List.map_filterMap, Option.map_map]
    congr 1
    funext id
    cases providers id with
    | none => rfl
    | some conf => simp [providerConf_toJson]
  rw [entries]
  funext id
  rw [putProviders_named, if_pos id.mem_all, Option.or_none]

theorem filled_filled (primary : PrimaryDefault formats) :
    primary.filled.filled = primary.filled := by
  obtain ⟨provider, model, secretId⟩ := primary
  cases provider <;> cases model <;> rfl

/-- Settings that were written are read back, with the default model where there was none. -/
theorem normalize_toJson (s : Settings formats) :
    normalizeOrgSettings s.toJson = { s with primary := s.primary.filled } := by
  obtain ⟨shellRunEnabled, defaultToolsetId, primary, providers, engineAuth, engineRuntime⟩ := s
  have auth : normalizeAgentEngineAuthDefaults
      (some (enginesJson fun engine => (engineAuth engine).toJson)) = engineAuth := by
    funext engine
    have read := @enginesSchema_json (fun v => (@agentEngineAuthDefaultSchema formats v).isSome)
      (fun engine => (engineAuth engine).toJson)
      fun engine => (authSchema_toJson (engineAuth engine) engine).1
    unfold normalizeAgentEngineAuthDefaults
    simp only [orEmpty_engines, read]
    exact (authSchema_toJson (engineAuth engine) engine).2
  have runtime : normalizeAgentEngineRuntimeDefaults
      (some (enginesJson fun engine => runtimeJson (engineRuntime engine))) = engineRuntime := by
    funext engine
    have read := @enginesSchema_json (fun v => (@agentEngineRuntimeDefaultSchema formats v).isSome)
      (fun engine => runtimeJson (engineRuntime engine))
      fun engine => by rw [runtimeSchema_json]; rfl
    unfold normalizeAgentEngineRuntimeDefaults normalizeAgentEngineRuntimeDefault
    simp only [orEmpty_engines, read]
    show (agentEngineRuntimeDefaultSchema (runtimeJson (engineRuntime engine))).join =
      engineRuntime engine
    rw [runtimeSchema_json]
    rfl
  have primary' : llmDefaultPrimarySchema (orEmpty (some primary.toJson)) = some primary :=
    primarySchema_toJson primary
  unfold normalizeOrgSettings
  simp [Settings.toJson, List.lookup_cons, readText_jsonText, providers_json, auth, runtime, primary']

/-! ### Single settings -/

/-- The settings that a body can mention. -/
inductive Setting where
  | shellRunEnabled
  | defaultToolsetId
  | primary
  | provider (id : LlmProviderId)
  | engineAuth (engine : Engine)
  | engineRuntime (engine : Engine)
  deriving DecidableEq

abbrev Setting.Value (formats : Formats) : Setting → Type
  | shellRunEnabled => Bool
  | defaultToolsetId => Option (Uuid formats)
  | primary => PrimaryDefault formats
  | provider _ => Option (ProviderConf formats)
  | engineAuth _ => AgentEngineAuthDefault formats
  | engineRuntime _ => Option (BaseUrl formats)

def Settings.get (s : Settings formats) : (key : Setting) → key.Value formats
  | .shellRunEnabled => s.shellRunEnabled
  | .defaultToolsetId => s.defaultToolsetId
  | .primary => s.primary
  | .provider id => s.providers id
  | .engineAuth engine => s.engineAuth engine
  | .engineRuntime engine => s.engineRuntime engine

/-- The normalized value that a body has for a setting, if it mentions it. -/
def Body.get (body : Body formats) : (key : Setting) → Option (key.Value formats)
  | .shellRunEnabled => body.shellRunEnabled
  | .defaultToolsetId => body.defaultToolsetId
  | .primary => body.primary.map (·.filled)
  | .provider id => (putProviders formats.lower (fun _ => none) body.providers id).map some
  | .engineAuth engine => (body.engineAuth engine).map fun patch => patch.resolve engine
  | .engineRuntime engine => body.engineRuntime engine

theorem putProviders_or (lower : LowerCase)
    {inner outer base : LlmProviderId → Option (ProviderConf formats)}
    (under : ∀ id, outer id = (inner id).or (base id))
    (entries : List (String × ProviderConf formats)) (id : LlmProviderId) :
    putProviders lower outer entries id = (putProviders lower inner entries id).or (base id) := by
  unfold putProviders
  induction entries generalizing inner outer with
  | nil => exact under id
  | cons entry rest ih =>
    simp only [List.foldl_cons]
    refine ih fun other => ?_
    cases normalizeLlmProviderId lower entry.1 with
    | none => exact under other
    | some named =>
      by_cases same : other = named
      · subst same
        simp
      · simp only [Function.update_of_ne same]
        exact under other

theorem primary_normal (document : Json) :
    (@normalizeOrgSettings formats document).primary.filled =
      (normalizeOrgSettings document).primary := filled_filled _

/-- What is written and read back: the values of the body, and else what was read. -/
theorem merge_get (body : Body formats) (document : Json) (key : Setting) :
    (normalizeOrgSettings (merge body (normalizeOrgSettings document)).toJson).get key =
      (body.get key).getD ((normalizeOrgSettings document).get key) := by
  rw [normalize_toJson]
  cases key with
  | primary =>
    show (body.primary.getD (normalizeOrgSettings document).primary).filled =
      (body.primary.map (·.filled)).getD (normalizeOrgSettings document).primary
    cases body.primary with
    | none => exact primary_normal document
    | some primary => rfl
  | provider id =>
    show putProviders formats.lower (normalizeOrgSettings document).providers body.providers id =
      ((putProviders formats.lower (fun _ => none) body.providers id).map some).getD
        ((normalizeOrgSettings document).providers id)
    have under : ∀ other, (normalizeOrgSettings document).providers other =
        ((none : Option (ProviderConf formats)).or
          ((normalizeOrgSettings document).providers other)) := fun _ => Option.none_or.symm
    rw [putProviders_or formats.lower under]
    cases putProviders formats.lower (fun _ => none) body.providers id <;> rfl
  | _ => rfl

end readBack

end Vespid.Api.OrgSettings
